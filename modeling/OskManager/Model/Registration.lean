import OskManager.Model.AccountChanges
import OskManager.Model.SecurityLogList
import OskManager.Model.VehicleCommands

/-! Registration: `auth/register.handler.ts`, `register.helpers.ts`, `register.school.ts` and
`register.persistence.ts`, with `lib/registerRolePolicy.ts`, `lib/instructorSchoolRegistration.ts`,
`lib/studentSchoolRegistration.ts` and `lib/instructorDefaultWorkingHours.ts`. A registration makes
a user of the Auth service first and the rows of the account afterwards, without a common
transaction. Several registrations may be under way at the same time. -/

namespace OSK

open Relational

/-! ### Tables -/

/-- The columns `license_number` and `birth_date` of `instructor_profiles`. -/
structure InstructorPapers where
  instructorId : Uuid
  licenseNumber : String
  birthDate : Option Day := none

/-- The columns `working_hours_start` and `working_hours_end` of `school_settings`. -/
structure SchoolHours where
  schoolId : Uuid
  workingHoursStart : ℤ
  workingHoursEnd : ℤ

/-- The database with the columns that only the registration uses. -/
structure AccountTables where
  db : Db
  papers : Table InstructorPapers.instructorId := .empty
  schoolHours : Table SchoolHours.schoolId := .empty

abbrev AccountService := Prog Failure AccountTables

/-- A service that does not look at the other columns. -/
def onDb {α : Type} (p : Service α) : AccountService α := fun s =>
  ((p s.db).1, { s with db := (p s.db).2 })

/-! ### The request -/

structure RegisterBody where
  email : Option String
  password : Option String
  role : Option String
  firstName : Option String
  lastName : Option String
  phone : Option String := none
  licenseNumber : Option String := none
  birthDate : Option String := none
  schoolId : UuidParam := .missing

/-- What the handler knows when it turns to the Auth service. -/
structure RegistrationRequest where
  actor : User
  emailTrimmed : String
  firstName : String
  lastName : String
  targetRole : Role
  phone : Option String
  instructorLicenseTrimmed : Option String
  instructorBirthDate : Option Day
  validatedInstructorSchoolId : Option Uuid := none
  validatedStudentSchoolId : Option Uuid := none

structure PersistRegisteredUserInput extends RegistrationRequest where
  authUserId : Uuid

/-- `!value` of a text that may be absent. -/
def isFalsy (value : Option String) : Bool := value.all String.isEmpty

def parseRegistrationTargetRole (raw : String) : Option Role :=
  if trim raw = "INSTRUCTOR" then some .instructor
  else if trim raw = "STUDENT" then some .student
  else none

def instructorLicenseFromRegisterBody (body : RegisterBody) (targetRole : Role) : Option String :=
  if targetRole = .instructor then (body.licenseNumber.map trim).filter fun v => !v.isEmpty
  else none

def canInvokerRegisterUserWithRole (invokerRole targetRole : Role) : Bool :=
  match targetRole with
  | .admin | .manager => false
  | .instructor => decide (invokerRole = .admin ∨ invokerRole = .manager)
  | .student => decide (invokerRole = .admin ∨ invokerRole = .manager ∨ invokerRole = .instructor)

def parseInstructorBirthDate (env : Env) (required : Bool) (raw : Option String) :
    Except Failure (Option Day) :=
  match raw.filter fun v => !v.isEmpty with
  | none => do
    throwIf (required = true) (.badRequest "birthDate is required when role is INSTRUCTOR")
    return none
  | some text => do
    let day ← orThrow (parseIsoDate text) (.badRequest "Invalid birthDate")
    -- `parseDate` takes the year 0000 for the year 1.
    throwIf (isCalendarDate text = false ∨ text.toList.take 4 = "0000".toList)
      (.badRequest "Invalid birthDate")
    throwIf (polishTodayYyyymmdd env < day) (.badRequest "birthDate must not be in the future")
    return some day

/-! ### The school -/

def parseSchoolId : UuidParam → Except Failure Uuid
  | .id schoolId => .ok schoolId
  | .missing | .invalid => .error (.badRequest "Invalid schoolId")

/-- A school that is there and not deleted. -/
def validSchool (db : Db) (schoolId : Uuid) : Except Failure DrivingSchool :=
  orThrow ((db.drivingSchools.findUnique schoolId).filter fun s => decide (s.deletedAt = none))
    (.badRequest "Invalid schoolId")

def validateInstructorRegistrationSchoolBeforeSignUp (db : Db) (actor : User)
    (emailTrimmed : String) (schoolId : Uuid) : Except Failure Unit := do
  throwIf (actor.role ≠ .admin ∧ actor.role ≠ .manager) (.forbidden "Forbidden")
  let school ← validSchool db schoolId
  throwIf (actor.role ≠ .admin ∧ school.ownerId ≠ actor.id) (.forbidden "Forbidden")
  let existingUser := db.users.findFirst fun u => decide (u.email = emailTrimmed)
  let profile := existingUser.bind fun u =>
    db.instructorProfiles.findFirst fun p => decide (p.userId = u.id)
  throwIf (profile.any fun p =>
      decide (db.instructorSchools.count (fun l => decide (l.instructorId = p.id)) > 0))
    (.conflict "Instructor is already assigned to a driving school")

def validateStudentRegistrationSchoolBeforeSignUp (db : Db) (actor : User) (schoolId : Uuid) :
    Except Failure Unit := do
  let school ← validSchool db schoolId
  match actor.role with
  | .admin => return ()
  | .manager => throwIf (school.ownerId ≠ actor.id) (.forbidden "Forbidden")
  | .instructor =>
    let link := db.instructorSchools.findFirst fun l => decide (l.schoolId = schoolId) &&
      (db.instructorProfiles.findUnique l.instructorId).any fun p => decide (p.userId = actor.id)
    throwIf (link.isNone = true) (.forbidden "Forbidden")
  | .student => throw (.forbidden "Forbidden")

/-- `hasExplicitSchool(body.schoolId) ? parseSchoolId(body.schoolId) : fallback`. -/
def RegisterBody.schoolOr (body : RegisterBody) (fallback : Option Uuid) :
    Except Failure (Option Uuid) :=
  match body.schoolId with
  | .missing => .ok fallback
  | raw => some <$> parseSchoolId raw

def resolveInstructorSchoolId (db : Db) (actor : User) (body : RegisterBody)
    (emailTrimmed : String) : Except Failure Uuid := do
  let resolved ← body.schoolOr (if actor.role = .manager then actor.defaultOskId else none)
  let schoolId ← orThrow resolved (.badRequest (if actor.role = .manager
    then "Manager has no default school assigned"
    else "schoolId is required when role is INSTRUCTOR"))
  validateInstructorRegistrationSchoolBeforeSignUp db actor emailTrimmed schoolId
  return schoolId

def validateStudentSchool (db : Db) (actor : User) (schoolId : Uuid) : Except Failure Uuid := do
  validateStudentRegistrationSchoolBeforeSignUp db actor schoolId
  return schoolId

/-- The schools that are not deleted of an instructor, by the account. -/
def instructorLinks (db : Db) (userId : Uuid) : List InstructorSchool :=
  db.instructorSchools.findMany fun l =>
    ((db.instructorProfiles.findUnique l.instructorId).any fun p => decide (p.userId = userId)) &&
      (db.drivingSchools.findUnique l.schoolId).any fun s => decide (s.deletedAt = none)

def resolveStudentSchoolIdForInstructor (db : Db) (actor : User) (body : RegisterBody) :
    Except Failure Uuid := do
  match ← body.schoolOr none with
  | some schoolId => validateStudentSchool db actor schoolId
  | none =>
    match instructorLinks db actor.id with
    | [] => throw (.badRequest "Instructor is not assigned to any school")
    | [link] => validateStudentSchool db actor link.schoolId
    | _ => throw (.conflict "Instructor is assigned to multiple active driving schools")

def resolveStudentSchoolId (db : Db) (actor : User) (body : RegisterBody) :
    Except Failure (Option Uuid) :=
  match actor.role with
  | .admin => do
    match ← body.schoolOr none with
    | some schoolId => some <$> validateStudentSchool db actor schoolId
    | none => return none
  | .manager => do
    let schoolId ← orThrow (← body.schoolOr actor.defaultOskId)
      (.badRequest "Manager has no default school assigned")
    some <$> validateStudentSchool db actor schoolId
  | .instructor => some <$> resolveStudentSchoolIdForInstructor db actor body
  | .student => .ok none

/-- `register` up to the Auth service. -/
def prepareRegistration (env : Env) (birthDateRequired : Bool) (actor : User) (body : RegisterBody)
    (db : Db) : Except Failure RegistrationRequest := do
  throwIf (isFalsy body.email ∨ isFalsy body.password ∨ isFalsy body.role ∨
      isFalsy body.firstName ∨ isFalsy body.lastName)
    (.badRequest "Email, password, role, firstName and lastName required")
  let targetRole ← orThrow (body.role.bind parseRegistrationTargetRole)
    (.badRequest "Invalid role for registration (expected INSTRUCTOR or STUDENT)")
  let license := instructorLicenseFromRegisterBody body targetRole
  throwIf (targetRole = .instructor ∧ license = none)
    (.badRequest "licenseNumber is required when role is INSTRUCTOR")
  throwIf (canInvokerRegisterUserWithRole actor.role targetRole = false) (.forbidden "Forbidden")
  let request : RegistrationRequest :=
    { actor, targetRole, emailTrimmed := trim (body.email.getD "")
      firstName := body.firstName.getD "", lastName := body.lastName.getD "", phone := body.phone
      instructorLicenseTrimmed := license, instructorBirthDate := none }
  if targetRole = .instructor then do
    let birthDate ← parseInstructorBirthDate env birthDateRequired body.birthDate
    let schoolId ← resolveInstructorSchoolId db actor body request.emailTrimmed
    return { request with
      instructorBirthDate := birthDate, validatedInstructorSchoolId := some schoolId }
  else do
    let schoolId ← resolveStudentSchoolId db actor body
    return { request with validatedStudentSchoolId := schoolId }

/-! ### The rows of an account -/

structure RegisterProfile where
  email : String
  firstName : String
  lastName : String
  role : Role
  phone : Option String

def registerDbProfileFromRequest (r : RegistrationRequest) : RegisterProfile where
  email := r.emailTrimmed
  firstName := trim r.firstName
  lastName := trim r.lastName
  role := r.targetRole
  phone := (r.phone.map trim).filter fun v => !v.isEmpty

def User.registered (p : RegisterProfile) (u : User) : User :=
  { u with
    email := p.email, firstName := p.firstName, lastName := p.lastName, role := p.role
    phone := p.phone }

@[simp] theorem User.id_registered (p : RegisterProfile) (u : User) : (u.registered p).id = u.id :=
  rfl

/-- `tx.user.create` without its profiles. -/
def createUserRow (row : User) : AccountService Unit := fun s =>
  if h : row.id ∈ s.db.users.keys then (.error uniqueViolation, s)
  else if s.db.emailTaken row row.email then (.error uniqueViolation, s)
  else (.ok (), { s with db := { s.db with users := s.db.users.insert row h } })

def createUserProfile (userId : Uuid) : AccountService Unit := fun s =>
  if h : userId ∈ s.db.userProfiles.keys then (.error uniqueViolation, s)
  else
    (.ok (), { s with db := { s.db with userProfiles := s.db.userProfiles.insert { userId } h } })

def createStudentProfile (env : Env) (userId : Uuid) : AccountService Unit := fun s =>
  if (s.db.studentProfiles.findFirst fun p => decide (p.userId = userId)).isSome then
    (.error uniqueViolation, s)
  else
    (.ok (), { s with db := { s.db with
      studentProfiles := s.db.studentProfiles.insert
        { id := env.uuid s.db.studentProfiles.keys, userId, createdAt := env.now }
        (env.uuid_fresh s.db.studentProfiles.keys) } })

/-- An identifier that neither a profile nor the papers of one have. -/
def AccountTables.nextInstructorId (env : Env) (s : AccountTables) : Uuid :=
  env.uuid (s.db.instructorProfiles.keys ++ s.papers.keys)

theorem AccountTables.nextInstructorId_fresh (env : Env) (s : AccountTables) :
    s.nextInstructorId env ∉ s.db.instructorProfiles.keys ∧
      s.nextInstructorId env ∉ s.papers.keys :=
  not_or.mp fun h => env.uuid_fresh _ (List.mem_append.mpr h)

def createInstructorProfile (env : Env) (userId : Uuid) (licenseNumber : String)
    (birthDate : Option Day) : AccountService Unit := fun s =>
  if (s.db.instructorProfiles.findFirst fun p => decide (p.userId = userId)).isSome then
    (.error uniqueViolation, s)
  else
    (.ok (),
      { s with
        db := { s.db with
          instructorProfiles := s.db.instructorProfiles.insert
            { id := s.nextInstructorId env, userId, qualifiedCourseTypes := []
              createdAt := env.now } (s.nextInstructorId_fresh env).1 }
        papers := s.papers.insert
          { instructorId := s.nextInstructorId env, licenseNumber, birthDate }
          (s.nextInstructorId_fresh env).2 })

/-- `tx.user.create` with `buildUserCreateWithRoleProfiles`. -/
def createUserWithRoleProfiles (env : Env) (input : PersistRegisteredUserInput) :
    AccountService Unit := do
  let profile := registerDbProfileFromRequest input.toRegistrationRequest
  createUserRow (User.registered profile { id := input.authUserId, role := profile.role })
  createUserProfile input.authUserId
  if input.targetRole = .student then createStudentProfile env input.authUserId
  else do
    let license ← liftM (orThrow input.instructorLicenseTrimmed
      (Failure.other "PrismaClientValidationError"))
    createInstructorProfile env input.authUserId license input.instructorBirthDate

/-- The papers of the instructor profile of an account. -/
def InstructorPapers.areOf (db : Db) (userId : Uuid) (q : InstructorPapers) : Bool :=
  (db.instructorProfiles.findUnique q.instructorId).any fun p => decide (p.userId = userId)

def InstructorPapers.born (birthDate : Day) (q : InstructorPapers) : InstructorPapers :=
  { q with birthDate := some birthDate }

@[simp] theorem InstructorPapers.instructorId_born (birthDate : Day) (q : InstructorPapers) :
    (q.born birthDate).instructorId = q.instructorId := rfl

def setBirthDate (userId : Uuid) (birthDate : Day) : AccountService Unit := do
  let count ← Prog.query fun s => .ok <| s.papers.count fun q =>
    q.areOf s.db userId && decide (q.birthDate = none ∨ q.birthDate = some birthDate)
  Prog.write fun s => { s with
    papers := s.papers.updateMany
      (fun q => q.areOf s.db userId && decide (q.birthDate = none ∨ q.birthDate = some birthDate))
      (InstructorPapers.born birthDate) (InstructorPapers.instructorId_born birthDate) }
  liftM <| throwIf (count ≠ 1)
    (Failure.conflict "Instructor birthDate already set to a different value")

/-- The profiles that a user has. -/
structure RoleProfiles where
  profile : Bool
  studentProfile : Bool
  instructorProfile : Bool

def roleProfiles (db : Db) (userId : Uuid) : RoleProfiles where
  profile := (db.userProfiles.findUnique userId).isSome
  studentProfile := (db.studentProfiles.findFirst fun p => decide (p.userId = userId)).isSome
  instructorProfile := (db.instructorProfiles.findFirst fun p => decide (p.userId = userId)).isSome

/-- What follows the read of the user, which the transaction has updated. -/
def completeRoleProfiles (env : Env) (input : PersistRegisteredUserInput) (user : RoleProfiles) :
    AccountService Unit := do
  Prog.when (!user.profile) (createUserProfile input.authUserId)
  Prog.when (decide (input.targetRole = .student) && !user.studentProfile)
    (createStudentProfile env input.authUserId)
  Prog.when (decide (input.targetRole = .instructor) && !user.instructorProfile) do
    let license ← liftM (orThrow (input.instructorLicenseTrimmed.filter fun v => !v.isEmpty)
      (Failure.other "ensureRoleProfilesAfterUserUpsert: licenseNumber required for instructor"))
    createInstructorProfile env input.authUserId license input.instructorBirthDate
  Prog.when (decide (input.targetRole = .instructor) && user.instructorProfile)
    (Prog.whenSome input.instructorBirthDate (setBirthDate input.authUserId))

def ensureRoleProfilesAfterUserUpsert (env : Env) (input : PersistRegisteredUserInput) :
    AccountService Unit := do
  let user ← Prog.query fun s => .ok <|
    (s.db.users.findUnique input.authUserId).map fun u => roleProfiles s.db u.id
  Prog.whenSome user (completeRoleProfiles env input)

/-! ### The school of an account -/

def daysOfWeekFromWorkingMask (mask : ℤ) : List ℤ :=
  [0, 1, 2, 3, 4, 5, 6].filter fun d => decide (mask % 128 / 2 ^ d.toNat % 2 ≠ 0)

structure DefaultHourRow where
  dayOfWeek : ℤ
  startTime : ℤ
  endTime : ℤ

/-- From 8 to 18. -/
def fallbackHours (dayOfWeek : ℤ) : DefaultHourRow := ⟨dayOfWeek, 8 * 3600000, 18 * 3600000⟩

def fallbackWeekdayRows : List DefaultHourRow := [1, 2, 3, 4, 5].map fallbackHours

/-- The settings are one row, whose hours are in the second argument. -/
def buildInstructorWorkingHoursDefaultRows (settings : Option SchoolSettings)
    (hours : Option SchoolHours) : List DefaultHourRow :=
  match settings, hours with
  | some settings, some hours =>
    let days := daysOfWeekFromWorkingMask settings.workingDaysMask
    if days.length = 0 then fallbackWeekdayRows
    else if hours.workingHoursStart ≥ hours.workingHoursEnd then days.map fallbackHours
    else days.map fun d => ⟨d, hours.workingHoursStart, hours.workingHoursEnd⟩
  | _, _ => fallbackWeekdayRows

def createInstructorLink (instructorId schoolId : Uuid) : AccountService Unit := fun s =>
  if h : instructorId ∈ s.db.instructorSchools.keys then (.error uniqueViolation, s)
  else (.ok (), { s with db := { s.db with
    instructorSchools := s.db.instructorSchools.insert { instructorId, schoolId } h } })

/-- A row of `createMany`. -/
def createDefaultHours (instructorId : Uuid) (row : DefaultHourRow) :
    AccountService Unit := fun s =>
  if h : (instructorId, row.dayOfWeek) ∈ s.db.workingHoursDefault.keys then
    (.error uniqueViolation, s)
  else (.ok (), { s with db := { s.db with
    workingHoursDefault := s.db.workingHoursDefault.insert
      { instructorId, dayOfWeek := row.dayOfWeek, startTime := row.startTime
        endTime := row.endTime } h } })

def createManyDefaultHours (instructorId : Uuid) : List DefaultHourRow → AccountService Unit
  | [] => pure ()
  | row :: rows => do
    createDefaultHours instructorId row
    createManyDefaultHours instructorId rows

def addInstructorToSchoolInTx (instructorProfileId schoolId : Uuid) : AccountService Unit := do
  let hourRows ← Prog.query fun s => do
    let school ← validSchool s.db schoolId
    let existingLink := s.db.instructorSchools.findFirst fun l =>
      decide (l.instructorId = instructorProfileId)
    throwIf (existingLink.isSome = true)
      (.conflict "Instructor is already assigned to a driving school")
    return buildInstructorWorkingHoursDefaultRows (s.db.schoolSettings.findUnique school.id)
      (s.schoolHours.findUnique school.id)
  createInstructorLink instructorProfileId schoolId
  let existingDefaultsCount ← Prog.query fun s => .ok <| s.db.workingHoursDefault.count fun h =>
    decide (h.instructorId = instructorProfileId)
  Prog.when (decide (existingDefaultsCount = 0))
    (createManyDefaultHours instructorProfileId hourRows)

def attachInstructorToSchoolWithDefaultsInTx (userId schoolId : Uuid) : AccountService Unit := do
  let profile ← Prog.query fun s => do
    let profile ← orThrow (s.db.instructorProfiles.findFirst fun p => decide (p.userId = userId))
      (.app { statusCode := 500, message := "Registration incomplete: instructor profile missing" })
    let existingSchools :=
      s.db.instructorSchools.count fun l => decide (l.instructorId = profile.id)
    throwIf (existingSchools > 0) (.conflict "Instructor is already assigned to a driving school")
    return profile
  addInstructorToSchoolInTx profile.id schoolId

def attachRoleSchoolInTx (input : PersistRegisteredUserInput) : AccountService Unit := do
  Prog.when (decide (input.targetRole = .instructor))
    (Prog.whenSome input.validatedInstructorSchoolId
      (attachInstructorToSchoolWithDefaultsInTx input.authUserId))
  Prog.when (decide (input.targetRole = .student))
    (Prog.whenSome input.validatedStudentSchoolId fun schoolId =>
      onDb (attachStudentToSchoolReplaceInTx input.authUserId schoolId))

/-! ### The two transactions -/

def createRegisteredUser (env : Env) (input : PersistRegisteredUserInput) : AccountService Unit :=
  Prog.transaction do
    createUserWithRoleProfiles env input
    attachRoleSchoolInTx input

def updateUserRow (input : PersistRegisteredUserInput) : AccountService Unit := do
  let profile := registerDbProfileFromRequest input.toRegistrationRequest
  Prog.query fun s => do
    let user ← orThrow (s.db.users.findUnique input.authUserId) (.other "P2025")
    throwIf (s.db.emailTaken user profile.email = true) uniqueViolation
  Prog.write fun s => { s with
    db := s.db.updateUser input.authUserId (User.registered profile) (User.id_registered profile) }

def updateRegisteredUserInTx (env : Env) (input : PersistRegisteredUserInput) :
    AccountService Unit := do
  updateUserRow input
  ensureRoleProfilesAfterUserUpsert env input
  attachRoleSchoolInTx input

def updateExistingRegisteredUser (env : Env) (input : PersistRegisteredUserInput) :
    AccountService Unit :=
  Prog.transaction (updateRegisteredUserInTx env input)

def registerDbFailureClientMessage (targetRole : Role) : String :=
  if targetRole = .instructor then "Failed to create instructor"
  else "Failed to complete user registration"

/-- An `AppError` is thrown on, and all else becomes an internal one. -/
def registerFailure (targetRole : Role) : Failure → Failure
  | .app e => .app e
  | .other _ => .app { statusCode := 500, message := registerDbFailureClientMessage targetRole }

/-! ### The Auth service -/

structure SignUpErrorLike where
  message : String
  status : Option ℕ := none
  code : Option String := none

def duplicateEmailSubstrings : List String :=
  ["already registered", "already been registered", "user already exists",
    "email address is already registered", "email already"]

def mapAuthSignUpErrorForClient (error : SignUpErrorLike) : Failure :=
  let normalized := error.message.toLower
  if error.code = some "user_already_exists" ∨
      duplicateEmailSubstrings.any (includes normalized) then
    .badRequest "Email already exists"
  else if error.code = some "email_address_invalid" ∨
      (error.status = some 400 ∧ includes normalized "email" ∧ includes normalized "invalid") then
    .badRequest "Invalid email address"
  else if error.status = some 429 then
    .app { statusCode := 429, message := "Too many registration requests. Try again later." }
  else if error.status = some 400 then .badRequest "Invalid registration data"
  else .app { statusCode := 500, message := "Failed to create user" }

structure AuthUser where
  id : Uuid
  email : String

/-- The answer of Auth to the e-mail of one of its users. -/
def emailExists : SignUpErrorLike where
  message := "A user with this email address has already been registered"
  status := some 422
  code := some "email_exists"

/-! ### Calls -/

structure RegisteredInstructor where
  id : Uuid
  userId : Uuid
  name : String
  email : String

/-- The user of Auth, with the instructor if it is one. -/
structure RegisterResponse where
  user : AuthUser
  instructor : Option RegisteredInstructor

/-- A call of `register`, at its next transaction or request. -/
inductive RegisterCall where
  | submitted (actor : User) (body : RegisterBody)
  | signingUp (request : RegistrationRequest)
  | lookingUp (input : PersistRegisteredUserInput)
  | lookingUpEmail (input : PersistRegisteredUserInput)
  | creating (input : PersistRegisteredUserInput)
  | collided (input : PersistRegisteredUserInput)
  | updating (input : PersistRegisteredUserInput)
  | responding (input : PersistRegisteredUserInput)
  | refused (e : Failure)
  | ended (input : PersistRegisteredUserInput) (result : Except Failure RegisterResponse)

/-- What becomes of a transaction or a request: it is done and answered, done without an answer that
arrives, or not done. -/
inductive Delivery where
  | answered | lost | failed
  deriving DecidableEq

/-- The database, and the users of the Auth service. -/
structure RegistrationStores where
  tables : AccountTables
  auth : Table AuthUser.id := .empty

def inTables {α : Type} (delivery : Delivery) (p : AccountService α) (s : RegistrationStores)
    (next : Except Failure α → RegisterCall) : RegisterCall × RegistrationStores :=
  match delivery with
  | .answered => (next (p s.tables).1, { s with tables := (p s.tables).2 })
  | .lost => (next (.error (.other "Can't reach database server")),
      { s with tables := (p s.tables).2 })
  | .failed => (next (.error (.other "Can't reach database server")), s)

/-- `auth.admin.createUser`. `store` is the form in which Auth keeps an e-mail. -/
def createAuthUser (store : String → String) (env : Env) (request : RegistrationRequest)
    (delivery : Delivery) (s : RegistrationStores) : RegisterCall × RegistrationStores :=
  let user : AuthUser := { id := env.uuid s.auth.keys, email := store request.emailTrimmed }
  let noAnswer : RegisterCall :=
    .refused (mapAuthSignUpErrorForClient { message := "fetch failed" })
  if s.auth.rows.any fun u => decide (u.email = user.email) then
    (if delivery = .answered then .refused (mapAuthSignUpErrorForClient emailExists)
      else noAnswer, s)
  else
    let created : RegistrationStores :=
      { s with auth := s.auth.insert user (env.uuid_fresh s.auth.keys) }
    match delivery with
    | .answered => (.lookingUp { request with authUserId := user.id }, created)
    | .lost => (noAnswer, created)
    | .failed => (noAnswer, s)

/-- `completeRegisterSuccessResponse`. -/
def registerResponse (store : String → String) (input : PersistRegisteredUserInput)
    (s : AccountTables) : Except Failure RegisterResponse := do
  let user : AuthUser := { id := input.authUserId, email := store input.emailTrimmed }
  if input.targetRole ≠ .instructor then return { user, instructor := none }
  let profile ← orThrow
    (s.db.instructorProfiles.findFirst fun p => decide (p.userId = input.authUserId))
    (.app { statusCode := 500, message := "Failed to create instructor" })
  let nameFromParts := trim (String.intercalate " "
    (([input.firstName, input.lastName].map trim).filter fun entry => !entry.isEmpty))
  let name := if nameFromParts.isEmpty then input.emailTrimmed else nameFromParts
  let instructor : RegisteredInstructor :=
    { id := profile.id, userId := input.authUserId, name, email := input.emailTrimmed }
  return { user, instructor := some instructor }

/-- What a settled `user.create` leads to. -/
def afterCreate (input : PersistRegisteredUserInput) : Except Failure Unit → RegisterCall
  | .ok _ => .responding input
  | .error e => if e = uniqueViolation then .collided input
      else .ended input (.error (registerFailure input.targetRole e))

/-- One transaction or one request of a call. -/
def RegisterCall.next (store : String → String) (birthDateRequired : Bool) (env : Env)
    (delivery : Delivery) (s : RegistrationStores) :
    RegisterCall → RegisterCall × RegistrationStores
  | .submitted actor body =>
    inTables delivery
      (Prog.query fun t => prepareRegistration env birthDateRequired actor body t.db) s fun
      | .ok request => .signingUp request
      | .error e => .refused e
  | .signingUp request => createAuthUser store env request delivery s
  | .lookingUp input =>
    inTables delivery (Prog.query fun t => .ok (t.db.users.findUnique input.authUserId)) s fun
      | .ok none => .lookingUpEmail input
      | .ok (some existingById) =>
        if existingById.email ≠ input.emailTrimmed then
          .ended input (.error
            (.conflict "Account identifier already in use with a different email"))
        else .updating input
      | .error e => .ended input (.error e)
  | .lookingUpEmail input =>
    inTables delivery (Prog.query fun t =>
        .ok (t.db.users.findFirst fun u => decide (u.email = input.emailTrimmed))) s fun
      | .ok none => .creating input
      | .ok (some _) => .ended input (.error (.conflict "Email already registered"))
      | .error e => .ended input (.error e)
  | .creating input => inTables delivery (createRegisteredUser env input) s (afterCreate input)
  | .collided input =>
    inTables delivery (Prog.query fun t => .ok (t.db.users.findUnique input.authUserId)) s fun
      | .ok row =>
        if row.any fun u => decide (u.email = input.emailTrimmed) then .updating input
        else .ended input (.error (registerFailure input.targetRole uniqueViolation))
      | .error e => .ended input (.error e)
  | .updating input =>
    inTables delivery (updateExistingRegisteredUser env input) s fun
      | .ok _ => .responding input
      | .error e => .ended input (.error (registerFailure input.targetRole e))
  | .responding input =>
    inTables delivery (Prog.query (registerResponse store input)) s (.ended input)
  | .refused e => (.refused e, s)
  | .ended input result => (.ended input result, s)

/-! ### Interleavings -/

/-- Registrations that run at the same time. -/
structure RegistrationSystem (ι : Type) where
  stores : RegistrationStores
  calls : ι → RegisterCall

/-- A turn of the call `i`: when, and what becomes of its transaction or request. -/
structure RegistrationTurn (ι : Type) where
  call : ι
  env : Env
  delivery : Delivery

def RegistrationSystem.resume {ι : Type} [DecidableEq ι] (store : String → String)
    (birthDateRequired : Bool) (turn : RegistrationTurn ι) (s : RegistrationSystem ι) :
    RegistrationSystem ι :=
  let r := (s.calls turn.call).next store birthDateRequired turn.env turn.delivery s.stores
  ⟨r.2, Function.update s.calls turn.call r.1⟩

end OSK
