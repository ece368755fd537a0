import OskManager.Model.AccountStatus
import OskManager.Model.CourseParticipants
import OskManager.Model.EmailChange
import OskManager.Model.SecurityEvents

/-! All that changes an account: `managerAccounts.service.ts`, with the password reset, whose mail
is sent between two transactions, and the transfer of a student of `students/profileMutations.ts`.
Calls of them run at the same time as the changes of e-mails. -/

namespace OSK

open Relational

/-! ### The profile -/

/-- The body of the profile form. -/
structure AccountProfileData where
  firstName : String
  lastName : String
  phone : Option String

def User.withProfile (data : AccountProfileData) (u : User) : User :=
  { u with firstName := data.firstName, lastName := data.lastName, phone := data.phone }

@[simp] theorem User.id_withProfile (data : AccountProfileData) (u : User) :
    (u.withProfile data).id = u.id := rfl

def writeManagerAccountProfile (env : Env) (actorId schoolId userId : Uuid)
    (data : AccountProfileData) : Service Unit := do
  Prog.write fun db => db.updateUser userId (User.withProfile data) (User.id_withProfile data)
  let _ ← createAction env
    { actorId, targetId := userId, schoolId, action := .profileUpdate, status := .completed }
  return ()

def updateManagerAccountProfile (env : Env) (actorId : Uuid) (requestedSchoolId : Option Uuid)
    (userId : Uuid) (data : AccountProfileData) : Service User :=
  Prog.transaction do
    let account ← Prog.query fun db => do
      let account ← scopedAccount db actorId requestedSchoolId userId
      requireAvailable env db account
      return account
    writeManagerAccountProfile env actorId account.schoolId userId data
    return account.user.withProfile data

/-! ### The password reset -/

/-- `passwordResetRedirect()`, where `newURL path base` is the constructor of `URL`. -/
def passwordResetRedirect (newURL : String → String → Except Failure String)
    (frontendUrls : Option String) : Except Failure String := do
  let frontendUrl ← orThrow
    ((frontendUrls.map fun urls =>
      trim (String.ofList (urls.toList.takeWhile fun c => c ≠ ','))).filter fun url => !url.isEmpty)
    (.app { statusCode := 500, message := "FRONTEND_URL is required for password reset" })
  newURL "/ustaw-haslo" frontendUrl

/-- The transaction that begins `sendManagerAccountPasswordReset`. -/
def startPasswordReset (env : Env) (actorId : Uuid) (requestedSchoolId : Option Uuid)
    (userId : Uuid) : Service (ScopedAccount × AccountAction) :=
  Prog.transaction do
    let account ← Prog.query fun db => do
      let account ← scopedAccount db actorId requestedSchoolId userId
      requireAvailable env db account
      throwIf (account.user.isActive = false) (.conflict "Account is disabled")
      return account
    let action ← createAction env
      { actorId, targetId := userId, schoolId := account.schoolId, action := .passwordResetRequest
        status := .requesting }
    return (account, action)

/-! ### The school of a student -/

def assertActorCanAssignStudentToSchoolForAdminOrManager (db : Db) (actor : Actor)
    (schoolId : Uuid) : Except Failure Unit := do
  throwIf (actor.role ≠ .admin ∧ actor.role ≠ .manager) (.forbidden "Forbidden")
  let school ← orThrow
    ((db.drivingSchools.findUnique schoolId).filter fun s => decide (s.deletedAt = none))
    (.badRequest "Invalid schoolId")
  throwIf (actor.role = .manager ∧ school.ownerId ≠ actor.id) (.forbidden "Forbidden")

/-- The links of a student profile are replaced by one to the school. -/
def Db.replaceStudentSchool (db : Db) (studentId schoolId : Uuid) : Db :=
  { db with
    studentSchools := (db.studentSchools.deleteMany fun l => decide (l.studentId = studentId)).insert
      { studentId, schoolId } (by
        rw [Table.mem_keys_deleteMany (q := fun k => k = studentId)]
        · simp
        · simp) }

def attachStudentToSchoolReplaceInTx (userId schoolId : Uuid) : Service Unit := do
  let profile ← Prog.query fun db => do
    let _ ← orThrow
      ((db.drivingSchools.findUnique schoolId).filter fun s => decide (s.deletedAt = none))
      (.badRequest "Invalid schoolId")
    orThrow (db.studentProfiles.findFirst fun p => decide (p.userId = userId))
      (.app { statusCode := 500, message := "Registration incomplete: student profile missing" })
  Prog.write fun db => db.replaceStudentSchool profile.id schoolId

/-- An open action of the account, or a password reset of the last five minutes. -/
def AccountAction.isPendingChange (env : Env) (userId : Uuid) (a : AccountAction) : Bool :=
  a.isOpenFor userId || a.isResetInProgress env userId

/-- The transaction of `assignStudentDrivingSchoolForAdminOrManager`. -/
def transferStudent (env : Env) (actor : Actor) (studentUserId schoolId : Uuid) : Service Unit :=
  Prog.transaction do
    Prog.query fun db => do
      let pendingAccountChange := db.accountActions.count
        (AccountAction.isPendingChange env studentUserId)
      throwIf (pendingAccountChange ≠ 0) (.conflict "Account change already in progress")
      assertActorCanAssignStudentToSchoolForAdminOrManager db actor schoolId
      let currentLink := db.studentSchools.findFirst fun l =>
        (db.studentProfiles.findUnique l.studentId).any (fun p => decide (p.userId = studentUserId)) &&
          (db.drivingSchools.findUnique l.schoolId).any fun s =>
            decide (s.ownerId = actor.id ∧ s.deletedAt = none)
      throwIf (actor.role = .manager ∧ currentLink.isNone = true) (.notFound "Student not found")
    attachStudentToSchoolReplaceInTx studentUserId schoolId

/-! ### Calls -/

inductive AccountResult where
  | email (result : EmailResult)
  | profile (updated : User)
  | status (result : AccountStatusResult)
  | archived (userId : Uuid)
  | sent
  | transferred (userId : Uuid) (drivingSchool : DrivingSchool)

/-- A call of a service that changes an account, at its next transaction or request. -/
inductive AccountCall where
  | email (c : EmailCall)
  | profile (actorId : Uuid) (requestedSchoolId : Option Uuid) (userId : Uuid)
      (data : AccountProfileData)
  | active (actorId : Uuid) (requestedSchoolId : Option Uuid) (userId : Uuid) (isActive : Bool)
  | archive (actorId : Uuid) (requestedSchoolId : Option Uuid) (userId : Uuid)
  | reset (actorId : Uuid) (requestedSchoolId : Option Uuid) (userId : Uuid)
  | resetMail (actionId : Uuid) (email redirectTo : String)
  | resetSettled (actionId : Uuid) (sent : Bool)
  | transfer (actor : Actor) (studentUserId schoolId : Uuid)
  | transferLinks (actor : Actor) (studentUserId schoolId : Uuid)
  | transferSchool (studentUserId schoolId : Uuid)
  | ended (result : Except Failure AccountResult)

/-- What the server is configured with: the form in which Auth keeps an e-mail, and the links of the
password mails. -/
structure AccountRuntime where
  store : String → String
  newURL : String → String → Except Failure String
  frontendUrls : Option String

/-- A transaction that may meet a database that does not answer, and what follows it. -/
def AccountStores.transact {α κ : Type} (answers : Bool) (p : Service α) (s : AccountStores)
    (next : Except Failure α → κ) : κ × AccountStores :=
  if answers then (next (p s.db).1, { s with db := (p s.db).2 })
  else (next (.error (.other "Can't reach database server")), s)

def AccountCall.orEnd {α : Type} (next : α → AccountCall) : Except Failure α → AccountCall
  | .ok a => next a
  | .error e => .ended (.error e)

/-- An e-mail call has ended with its result, or goes on. -/
def AccountCall.ofEmail : EmailCall → AccountCall
  | .ended result => .ended (result.map .email)
  | c => .email c

/-- One transaction or one request. `answers` says whether the other side does its work and says
so. -/
def AccountCall.next (runtime : AccountRuntime) (env : Env) (answers : Bool) (s : AccountStores) :
    AccountCall → AccountCall × AccountStores
  | .email c => ((c.next runtime.store env answers s).map .ofEmail id)
  | .profile actorId requestedSchoolId userId data =>
    s.transact answers (updateManagerAccountProfile env actorId requestedSchoolId userId data) <|
      orEnd fun updated => .ended (.ok (.profile updated))
  | .active actorId requestedSchoolId userId isActive =>
    s.transact answers (setManagerAccountActive env actorId requestedSchoolId userId isActive) <|
      orEnd fun result => .ended (.ok (.status result))
  | .archive actorId requestedSchoolId userId =>
    s.transact answers (archiveManagerAccount env actorId requestedSchoolId userId) <|
      orEnd fun id => .ended (.ok (.archived id))
  | .reset actorId requestedSchoolId userId =>
    match passwordResetRedirect runtime.newURL runtime.frontendUrls with
    | .error e => (.ended (.error e), s)
    | .ok redirectTo =>
      s.transact answers (startPasswordReset env actorId requestedSchoolId userId) <|
        orEnd fun started => .resetMail started.2.id started.1.user.email redirectTo
  | .resetMail actionId _ _ => (.resetSettled actionId answers, s)
  | .resetSettled actionId sent =>
    s.transact answers (updateActionStatus actionId (if sent then .completed else .failed)) <|
      orEnd fun _ => .ended <|
        if sent then .ok .sent else .error (.badGateway "Password reset email could not be sent")
  | .transfer actor studentUserId schoolId =>
    if actor.role ≠ .admin ∧ actor.role ≠ .manager then
      (.ended (.error (.forbidden "Forbidden")), s)
    else s.transact answers (Prog.query fun db => loadActiveStudentProfileId db studentUserId) <|
      orEnd fun _ => .transferLinks actor studentUserId schoolId
  | .transferLinks actor studentUserId schoolId =>
    s.transact answers (transferStudent env actor studentUserId schoolId) <|
      orEnd fun _ => .transferSchool studentUserId schoolId
  | .transferSchool studentUserId schoolId =>
    s.transact answers (Prog.query fun db => orThrow (db.drivingSchools.findUnique schoolId)
      (.notFound "Driving school not found")) <|
      orEnd fun school => .ended (.ok (.transferred studentUserId school))
  | .ended result => (.ended result, s)

/-! ### Interleavings -/

/-- Calls that run at the same time. -/
structure AccountSystem (ι : Type) where
  stores : AccountStores
  calls : ι → AccountCall

/-- Whose transaction or request comes next, when, and whether the other side does its work. -/
structure AccountTurn (ι : Type) where
  call : ι
  env : Env
  answers : Bool

def AccountSystem.resume {ι : Type} [DecidableEq ι] (runtime : AccountRuntime)
    (s : AccountSystem ι) (turn : AccountTurn ι) : AccountSystem ι :=
  let r := (s.calls turn.call).next runtime turn.env turn.answers s.stores
  ⟨r.2, Function.update s.calls turn.call r.1⟩

def AccountSystem.run {ι : Type} [DecidableEq ι] (runtime : AccountRuntime) (s : AccountSystem ι)
    (turns : List (AccountTurn ι)) : AccountSystem ι :=
  turns.foldl (AccountSystem.resume runtime) s

end OSK
