import OskManager.Model.AccountStatus
import OskManager.Model.RequestIds

/-! Commands on instructors: `instructor/commands.ts` with `instructor/access.ts` and
`instructor/commandHelpers.ts`. -/

namespace OSK

open Relational

def assertActorCanManageInstructors (actor : Actor) : Except Failure Unit :=
  throwIf (actor.role ≠ .admin ∧ actor.role ≠ .manager) (.forbidden "Forbidden")

/-- `activeInstructorProfileWhere`. -/
def activeInstructorProfile (db : Db) (instructorId : Uuid) : Option InstructorProfile :=
  db.instructorProfiles.findFirst fun p =>
    decide (p.id = instructorId ∧ p.hasActiveUser db = true)

/-- `hasInstructorSchoolOwnedByActor` of the links of an instructor. -/
def hasInstructorSchoolOwnedByActor (db : Db) (instructorId actorId : Uuid) : Bool :=
  (activeSchoolLink db instructorId fun s => decide (s.ownerId = actorId)).isSome

def assertManagerOwnsInstructorSchool (db : Db) (actor : Actor) (instructorId : Uuid) :
    Except Failure Unit :=
  throwIf (actor.role = .manager ∧ hasInstructorSchoolOwnedByActor db instructorId actor.id = false)
    (.forbidden "Forbidden")

/-! ### Editing -/

/-- A `none` is an absent key. -/
structure InstructorPatchInput where
  firstName : Option String := none
  lastName : Option String := none
  experienceYears : Option ℤ := none
  qualifications : Option String := none
  qualifiedCourseTypeIds : Option (List Uuid) := none

namespace InstructorPatchInput

variable (patch : InstructorPatchInput)

def hasUserUpdate : Bool := patch.firstName.isSome || patch.lastName.isSome

def hasProfilePatch : Bool := patch.experienceYears.isSome || patch.qualifications.isSome

def hasPatch : Bool :=
  patch.hasUserUpdate || patch.hasProfilePatch || patch.qualifiedCourseTypeIds.isSome

end InstructorPatchInput

structure InstructorPatchResult where
  id : Uuid
  firstName : String
  lastName : String
  email : String
  experienceYears : Option ℤ
  qualifications : Option String
  qualifiedCourseTypes : List CourseType

def mapInstructorPatchResult (db : Db) (profile : InstructorProfile) :
    Except Failure InstructorPatchResult := do
  let user ← orThrow (db.users.findUnique profile.userId)
    (.other "Inconsistent query result: Field user is required")
  return {
    id := profile.id
    firstName := user.firstName
    lastName := user.lastName
    email := user.email
    experienceYears := profile.experienceYears
    qualifications := profile.qualifications
    qualifiedCourseTypes := (db.courseTypes.findMany fun t =>
      decide (t.id ∈ profile.qualifiedCourseTypes)).insertionSort fun a b => a.code ≤ b.code }

def assertQualifiedCourseTypeIdsExist (db : Db) (ids : Option (List Uuid)) :
    Except Failure Unit :=
  forSome ids fun ids =>
    throwIf (ids ≠ [] ∧ db.courseTypes.count (fun t => decide (t.id ∈ ids)) ≠ ids.length)
      (.badRequest "Invalid qualifiedCourseTypeIds")

/-- `course: { courseTypeId: { in: types }, deletedAt: null }`. -/
def Db.openCourseIsOfTypes (db : Db) (types : List Uuid) (courseId : Uuid) : Bool :=
  (db.courses.findUnique courseId).any fun c =>
    decide (c.courseTypeId ∈ types ∧ c.deletedAt = none)

/-- A category is removed only when the instructor has no obligations in it. -/
def assertQualificationsCanChange (env : Env) (db : Db) (current : InstructorProfile)
    (ids : Option (List Uuid)) : Except Failure Unit :=
  forSome ids fun selectedIds =>
    let removed := current.qualifiedCourseTypes.filter fun t => decide (t ∉ selectedIds)
    let scheduledLessons := db.lessons.count fun l =>
      decide (l.instructorId = current.id) && l.isPending env.now &&
        db.openCourseIsOfTypes removed l.courseId
    let plannedEvents := db.instructorEvents.count fun e =>
      decide (e.instructorId = current.id) && e.isPending env.now &&
        e.courseId.any (db.openCourseIsOfTypes removed)
    let activeCourses := db.courses.count fun c =>
      decide (c.instructorId = some current.id ∧ c.courseTypeId ∈ removed ∧ c.deletedAt = none ∧
        c.status = "active")
    let codes := removed.filterMap fun t => (db.courseTypes.findUnique t).map CourseType.code
    throwIf (removed ≠ [] ∧ (scheduledLessons ≠ 0 ∨ plannedEvents ≠ 0 ∨ activeCourses ≠ 0))
      (.conflict ("Nie można usunąć uprawnienia do kategorii " ++ String.intercalate ", " codes ++
        ": instruktor ma w niej zaplanowane zajęcia lub jest przypisany do aktywnego kursu. " ++
        "Najpierw przenieś lub zakończ te zobowiązania."))

/-- `activeInstructorUserByIdWhere`. -/
def User.isActiveInstructor (userId : Uuid) (u : User) : Bool :=
  decide (u.id = userId ∧ u.role = .instructor ∧ u.deletedAt = none ∧ u.isActive = true)

def InstructorProfile.patched (patch : InstructorPatchInput) (p : InstructorProfile) :
    InstructorProfile :=
  { p with
    experienceYears := patch.experienceYears.or p.experienceYears
    qualifications := patch.qualifications.or p.qualifications }

@[simp] theorem InstructorProfile.id_patched (patch : InstructorPatchInput)
    (p : InstructorProfile) : (p.patched patch).id = p.id := rfl

def InstructorProfile.withQualifications (ids : List Uuid) (p : InstructorProfile) :
    InstructorProfile :=
  { p with qualifiedCourseTypes := ids }

@[simp] theorem InstructorProfile.id_withQualifications (ids : List Uuid)
    (p : InstructorProfile) : (p.withQualifications ids).id = p.id := rfl

def User.renamed (patch : InstructorPatchInput) (u : User) : User :=
  { u with
    firstName := patch.firstName.getD u.firstName
    lastName := patch.lastName.getD u.lastName }

@[simp] theorem User.id_renamed (patch : InstructorPatchInput) (u : User) :
    (u.renamed patch).id = u.id := rfl

def writeInstructorProfile (instructorId : Uuid) (patch : InstructorPatchInput) : Service Unit := do
  Prog.query fun db => throwIf ((activeInstructorProfile db instructorId).isNone = true)
    (.notFound "Instructor not found")
  Prog.write fun db => { db with
    instructorProfiles := db.instructorProfiles.updateMany
      (fun p => decide (p.id = instructorId ∧ p.hasActiveUser db = true))
      (InstructorProfile.patched patch) (InstructorProfile.id_patched patch) }

def writeInstructorUser (userId : Uuid) (patch : InstructorPatchInput) : Service Unit := do
  Prog.query fun db => throwIf (db.users.count (User.isActiveInstructor userId) = 0)
    (.notFound "Instructor not found")
  Prog.write fun db => { db with
    users := db.users.updateMany (User.isActiveInstructor userId) (User.renamed patch)
      (User.id_renamed patch) }

def writeQualifications (instructorId : Uuid) (ids : List Uuid) : Service Unit :=
  Prog.write fun db => { db with
    instructorProfiles := db.instructorProfiles.update instructorId
      (InstructorProfile.withQualifications ids) (InstructorProfile.id_withQualifications ids) }

def writeInstructorPatch (env : Env) (actor : Actor) (profile : InstructorProfile)
    (patch : InstructorPatchInput) : Service InstructorPatchResult :=
  Prog.transaction do
    let current ← Prog.query fun db => orThrow (activeInstructorProfile db profile.id)
      (.notFound "Instructor not found")
    Prog.query fun db => assertManagerOwnsInstructorSchool db actor current.id
    Prog.query fun db =>
      assertQualificationsCanChange env db current patch.qualifiedCourseTypeIds
    Prog.when patch.hasProfilePatch (writeInstructorProfile profile.id patch)
    Prog.when patch.hasUserUpdate (writeInstructorUser profile.userId patch)
    Prog.whenSome patch.qualifiedCourseTypeIds (writeQualifications profile.id)
    Prog.query fun db => do
      let fresh ← orThrow (activeInstructorProfile db profile.id) (.notFound "Instructor not found")
      mapInstructorPatchResult db fresh

def updateInstructorForManagerOrAdmin (env : Env) (actor : Actor) (instructorId : Uuid)
    (patch : InstructorPatchInput) : Service InstructorPatchResult := do
  let profile ← Prog.query fun db => do
    assertActorCanManageInstructors actor
    let profile ← orThrow (activeInstructorProfile db instructorId) (.notFound "Instructor not found")
    assertManagerOwnsInstructorSchool db actor profile.id
    return profile
  if patch.hasPatch then do
    Prog.query fun db => assertQualifiedCourseTypeIdsExist db patch.qualifiedCourseTypeIds
    writeInstructorPatch env actor profile patch
  else Prog.query fun db => mapInstructorPatchResult db profile

/-! ### Another school -/

/-- The instructor's links to schools that are not deleted. -/
def activeSchoolLinks (db : Db) (instructorId : Uuid) : List InstructorSchool :=
  db.instructorSchools.findMany fun l => decide (l.instructorId = instructorId) &&
    (db.drivingSchools.findUnique l.schoolId).any fun s => decide (s.deletedAt = none)

/-- The course of the lesson, if it belongs to the school and is not deleted. -/
def Lesson.inActiveCourseOf (db : Db) (schoolId : Uuid) (l : Lesson) : Bool :=
  (db.courses.findUnique l.courseId).any fun c =>
    decide (c.schoolId = schoolId ∧ c.deletedAt = none)

def assertInstructorCanChangeSchool (env : Env) (db : Db) (instructorId : Uuid)
    (currentSchoolId : Option Uuid) : Except Failure Unit :=
  forSome currentSchoolId fun currentSchoolId =>
    let futureLessons := db.lessons.count fun l =>
      decide (l.instructorId = instructorId ∧ l.deletedAt = none ∧ env.now ≤ l.startTime) &&
        l.inActiveCourseOf db currentSchoolId
    let activeEvents := db.instructorEvents.count fun e =>
      decide (e.instructorId = instructorId ∧ e.schoolId = currentSchoolId ∧ e.isActive = true ∧
        env.now ≤ e.startTime)
    let assignedCourses := db.courses.count fun c =>
      decide (c.instructorId = some instructorId ∧ c.schoolId = currentSchoolId ∧
        c.deletedAt = none ∧ c.status = "active")
    let futureBlocks := db.timeBlocks.count fun b =>
      decide (b.instructorId = instructorId ∧ b.schoolId = some currentSchoolId ∧
        env.now ≤ b.startTime)
    throwIf (futureLessons > 0 ∨ activeEvents > 0 ∨ assignedCourses > 0 ∨ futureBlocks > 0)
      (.conflict "Instructor has active obligations in the current driving school")

structure PreparedSchoolChange where
  instructorId : Uuid
  userId : Uuid
  schoolId : Uuid
  currentSchoolId : Option Uuid

/-- The checks before the transaction; `none` when the instructor is in the school already, which
is told by the text of its id. -/
def prepareSchoolChange (env : Env) (db : Db) (actor : Actor) (instructorId : Uuid)
    (schoolId : UuidText) : Except Failure (Option PreparedSchoolChange) := do
  assertActorCanManageInstructors actor
  let profile ← orThrow (activeInstructorProfile db instructorId) (.notFound "Instructor not found")
  let school ← orThrow (db.drivingSchools.findUnique schoolId.uuid) (.badRequest "Invalid schoolId")
  throwIf (school.deletedAt ≠ none) (.badRequest "Invalid schoolId")
  throwIf (actor.role = .manager ∧ school.ownerId ≠ actor.id) (.forbidden "Forbidden")
  assertManagerOwnsInstructorSchool db actor profile.id
  let activeLinks := activeSchoolLinks db profile.id
  throwIf (activeLinks.length > 1)
    (.conflict "Instructor is assigned to multiple active driving schools")
  let currentSchoolId := activeLinks.head?.map InstructorSchool.schoolId
  if currentSchoolId.map .ofUuid = some schoolId then return none
  assertInstructorCanChangeSchool env db profile.id currentSchoolId
  return some
    { instructorId := profile.id, userId := profile.userId, schoolId := schoolId.uuid
      currentSchoolId }

/-- The rules under the row lock. A link that is missing is `undefined` and differs from the
`null` of an instructor without a school, so such an instructor never gets one. -/
def assertSchoolChangeAllowed (env : Env) (db : Db) (actor : Actor)
    (change : PreparedSchoolChange) : Except Failure Unit := do
  let pendingAccountChange := db.accountActions.count fun a =>
    a.isOpenFor change.userId || a.isResetInProgress env change.userId
  throwIf (pendingAccountChange ≠ 0) (.conflict "Account change already in progress")
  let current ← orThrow (db.instructorProfiles.findUnique change.instructorId)
    (.notFound "Instructor not found")
  assertManagerOwnsInstructorSchool db actor current.id
  let link := db.instructorSchools.findFirst fun l => decide (l.instructorId = current.id)
  throwIf (change.currentSchoolId = none ∨
      link.map InstructorSchool.schoolId ≠ change.currentSchoolId)
    (.conflict "Instructor school changed; retry the operation")

def User.withDefaultOsk (schoolId : Uuid) (u : User) : User := { u with defaultOskId := some schoolId }

@[simp] theorem User.id_withDefaultOsk (schoolId : Uuid) (u : User) :
    (u.withDefaultOsk schoolId).id = u.id := rfl

theorem instructorId_not_in_deleted (db : Db) (instructorId : Uuid) :
    instructorId ∉ (db.instructorSchools.deleteMany fun l =>
      decide (l.instructorId = instructorId)).keys := by
  rw [Table.mem_keys_deleteMany _ _ (fun k => k = instructorId) fun l => by simp]
  exact fun h => h.2 rfl

/-- The links are replaced by one to the new school, which is also the user's default. -/
def Db.changeSchool (db : Db) (change : PreparedSchoolChange) : Db :=
  let others := db.instructorSchools.deleteMany fun l => decide (l.instructorId = change.instructorId)
  { db with
    instructorSchools := others.insert ⟨change.instructorId, change.schoolId⟩
      (instructorId_not_in_deleted db change.instructorId)
    users := db.users.update change.userId (User.withDefaultOsk change.schoolId)
      (User.id_withDefaultOsk change.schoolId) }

def writeSchoolChange (env : Env) (actor : Actor) (change : PreparedSchoolChange) : Service Unit :=
  Prog.transaction do
    Prog.query fun db => assertSchoolChangeAllowed env db actor change
    let _ ← Prog.query fun db => orThrow (db.users.findUnique change.userId)
      (.other "Record to update not found")
    Prog.write fun db => db.changeSchool change

def assignInstructorToSchoolForManagerOrAdmin (env : Env) (actor : Actor)
    (instructorId : Uuid) (schoolId : UuidText) : Service (Uuid × UuidText) := do
  let change ← Prog.query fun db => prepareSchoolChange env db actor instructorId schoolId
  Prog.whenSome change (writeSchoolChange env actor)
  return (instructorId, schoolId)

/-! ### Deactivation -/

/-- A manager blocks the account in a school, an admin only writes the flag. -/
inductive SoftDelete where
  | byManager (schoolId userId : Uuid)
  | byAdmin (userId : Uuid)

def prepareSoftDelete (db : Db) (actor : Actor) (instructorId : Uuid) :
    Except Failure SoftDelete := do
  assertActorCanManageInstructors actor
  let profile ← orThrow (activeInstructorProfile db instructorId) (.notFound "Instructor not found")
  assertManagerOwnsInstructorSchool db actor profile.id
  if actor.role = .manager then
    let link ← orThrow (activeSchoolLink db profile.id fun s => decide (s.ownerId = actor.id))
      (.notFound "Instructor not found")
    return .byManager link.schoolId profile.userId
  else return .byAdmin profile.userId

def writeSoftDelete (env : Env) (actor : Actor) : SoftDelete → Service Unit
  | .byManager schoolId userId =>
    Prog.discard (setManagerAccountActive env actor.id (some schoolId) userId false)
  | .byAdmin userId => do
    let count ← Prog.query fun db => .ok (db.users.count (User.isActiveInstructor userId))
    Prog.write fun db => { db with
      users := db.users.updateMany (User.isActiveInstructor userId) (User.withActive false)
        (User.id_withActive false) }
    Prog.query fun _ => throwIf (count = 0) (.notFound "Instructor not found")

def softDeleteInstructorForManagerOrAdmin (env : Env) (actor : Actor) (instructorId : Uuid) :
    Service Unit := do
  let deletion ← Prog.query fun db => prepareSoftDelete db actor instructorId
  writeSoftDelete env actor deletion

end OSK
