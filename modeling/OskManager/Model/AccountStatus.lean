import OskManager.Model.Accounts

/-! Blocking and archiving an account: `managerAccounts.service.ts`, with the obligations that keep
an account from being archived, `managerAccountObligations.service.ts`. -/

namespace OSK

open Relational

/-! ### Obligations -/

def eventTitle : EventType → String
  | .drive => "Jazda"
  | .theory => "Teoria"

def blockTitle : InstructorTimeBlockType → String
  | .break => "Przerwa"
  | .meeting => "Spotkanie"
  | .other => "Inny blok czasu"

inductive ObligationType where
  | lesson | course | event | payment | timeBlock
  deriving DecidableEq, Repr

structure AccountObligation where
  type : ObligationType
  id : Uuid
  title : String
  startTime : Option Instant
  endTime : Option Instant
  amount : Option ℚ := none
  currency : Option String := none
  status : Option PaymentStatus := none

def lessonObligation (l : Lesson) (course : Course) : AccountObligation where
  type := .lesson
  id := l.id
  title := "Lekcja · " ++ course.name
  startTime := some l.startTime
  endTime := some l.endTime

def courseObligation (course : Course) : AccountObligation where
  type := .course
  id := course.id
  title := course.name
  startTime := none
  endTime := none

def eventObligation (e : InstructorEvent) : AccountObligation where
  type := .event
  id := e.id
  title := "Wydarzenie · " ++ eventTitle e.type
  startTime := some e.startTime
  endTime := some e.endTime

def paymentObligation (p : Payment) (plan : PaymentPlan) (course : Course) : AccountObligation where
  type := .payment
  id := p.id
  title := "Płatność · " ++ course.name
  startTime := p.dueDate.map fun day => day * msPerDay
  endTime := none
  amount := some p.amount
  currency := some plan.currency
  status := some .pending

def blockObligation (b : InstructorTimeBlock) : AccountObligation where
  type := .timeBlock
  id := b.id
  title := "Blok czasu · " ++ blockTitle b.type
  startTime := some b.startTime
  endTime := some b.endTime

/-- The lessons ahead that satisfy `p`, in courses of the school. -/
def lessonObligations (env : Env) (db : Db) (schoolId : Uuid) (p : Lesson → Bool) :
    List AccountObligation :=
  (db.lessons.findMany fun l =>
    p l && decide (env.now ≤ l.startTime ∧ l.deletedAt = none)).filterMap fun l =>
      ((db.courses.findUnique l.courseId).filter fun c => decide (c.schoolId = schoolId)).map
        (lessonObligation l)

def studentObligations (env : Env) (db : Db) (studentId schoolId : Uuid) : List AccountObligation :=
  let courses := (db.courseParticipants.findMany fun p =>
    decide (p.studentId = studentId ∧ p.status = .active)).filterMap fun p =>
      (db.courses.findUnique p.courseId).filter fun c =>
        decide (c.schoolId = schoolId ∧ c.deletedAt = none)
  let events := (db.eventParticipants.findMany fun p =>
    decide (p.studentId = studentId)).filterMap fun p =>
      (db.instructorEvents.findUnique p.eventId).filter fun e =>
        decide (e.schoolId = schoolId ∧ e.isActive = true ∧ env.now ≤ e.startTime)
  let payments := (db.payments.findMany fun p => decide (p.status = .pending)).filterMap fun p => do
    let plan ← db.paymentPlans.findUnique p.paymentPlanId
    let course ← (db.courses.findUnique plan.courseId).filter fun c =>
      decide (c.schoolId = schoolId) &&
        db.courseParticipants.rows.any fun q => decide (q.courseId = c.id ∧ q.studentId = studentId)
    return paymentObligation p plan course
  lessonObligations env db schoolId (fun l => decide (l.studentId = studentId)) ++
    courses.map courseObligation ++ events.map eventObligation ++ payments

def instructorObligations (env : Env) (db : Db) (instructorId schoolId : Uuid) :
    List AccountObligation :=
  let courses := db.courses.findMany fun c =>
    decide (c.instructorId = some instructorId ∧ c.schoolId = schoolId ∧ c.deletedAt = none ∧
      c.status = "active")
  let events := db.instructorEvents.findMany fun e =>
    decide (e.instructorId = instructorId ∧ e.schoolId = schoolId ∧ e.isActive = true ∧
      env.now ≤ e.startTime)
  let blocks := db.timeBlocks.findMany fun b =>
    decide (b.instructorId = instructorId ∧ b.schoolId = some schoolId ∧ env.now ≤ b.startTime)
  lessonObligations env db schoolId (fun l => decide (l.instructorId = instructorId)) ++
    courses.map courseObligation ++ events.map eventObligation ++ blocks.map blockObligation

def findManagerAccountObligations (env : Env) (db : Db) (userId : Uuid) (role : Role)
    (schoolId : Uuid) : Except Failure (List AccountObligation) :=
  if role = .student then do
    let profile ← orThrow (db.studentProfiles.findFirst fun p => decide (p.userId = userId))
      (.notFound "Student profile not found")
    return studentObligations env db profile.id schoolId
  else do
    let profile ← orThrow (db.instructorProfiles.findFirst fun p => decide (p.userId = userId))
      (.notFound "Instructor profile not found")
    return instructorObligations env db profile.id schoolId

def assertNoActiveObligations (env : Env) (db : Db) (userId : Uuid) (role : Role)
    (schoolId : Uuid) : Except Failure Unit := do
  let obligations ← findManagerAccountObligations env db userId role schoolId
  throwIf (obligations ≠ [])
    (.conflict (if role = .student then "Student has active school obligations"
      else "Instructor has active school obligations"))

/-! ### Blocking -/

def User.withActive (isActive : Bool) (u : User) : User := { u with isActive }

@[simp] theorem User.id_withActive (isActive : Bool) (u : User) : (u.withActive isActive).id = u.id :=
  rfl

/-- The account as it was, or its new activity. -/
inductive AccountStatusResult where
  | unchanged (account : ScopedAccount)
  | updated (id : Uuid) (isActive : Bool)

def writeManagerAccountActive (env : Env) (actorId schoolId userId : Uuid) (isActive : Bool) :
    Service AccountStatusResult := do
  Prog.write fun db => db.updateUser userId (User.withActive isActive) (User.id_withActive isActive)
  Prog.write fun db => db.revokeSessions env.now userId
  let _ ← createAction env
    { actorId, targetId := userId, schoolId, action := if isActive then .unblock else .block
      status := .completed }
  return .updated userId isActive

def setManagerAccountActive (env : Env) (actorId : Uuid) (requestedSchoolId : Option Uuid)
    (userId : Uuid) (isActive : Bool) : Service AccountStatusResult :=
  Prog.transaction do
    let account ← Prog.query fun db => do
      let account ← scopedAccount db actorId requestedSchoolId userId
      requireAvailable env db account
      return account
    if account.user.isActive = isActive then return .unchanged account
    else writeManagerAccountActive env actorId account.schoolId userId isActive

/-! ### Archiving -/

def User.archived (now : Instant) (u : User) : User :=
  { u with isActive := false, deletedAt := some now }

@[simp] theorem User.id_archived (now : Instant) (u : User) : (u.archived now).id = u.id := rfl

def writeArchiveAccount (env : Env) (actorId schoolId userId : Uuid) : Service Unit := do
  Prog.write fun db => db.updateUser userId (User.archived env.now) (User.id_archived env.now)
  Prog.write fun db => db.revokeSessions env.now userId
  let _ ← createAction env
    { actorId, targetId := userId, schoolId, action := .archive, status := .completed }
  return ()

/-- The account to archive; one that is archived already is let through. -/
def prepareArchive (env : Env) (db : Db) (actorId : Uuid) (requestedSchoolId : Option Uuid)
    (userId : Uuid) : Except Failure ScopedAccount := do
  let account ← scopedAccount db actorId requestedSchoolId userId
  onlyIf (account.user.deletedAt = none) do
    requireAvailable env db account
    assertNoActiveObligations env db userId account.user.role account.schoolId
  return account

def archiveManagerAccount (env : Env) (actorId : Uuid) (requestedSchoolId : Option Uuid)
    (userId : Uuid) : Service Uuid :=
  Prog.transaction do
    let account ← Prog.query fun db => prepareArchive env db actorId requestedSchoolId userId
    Prog.when (decide (account.user.deletedAt = none))
      (writeArchiveAccount env actorId account.schoolId userId)
    return userId

end OSK
