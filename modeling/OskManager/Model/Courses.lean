import OskManager.Model.Vehicles

/-! Adding, editing and deleting a course: `createCourseForUser`, `patchCourseForOwner` and
`deleteEmptyCourseForOwner` of `course/commands.ts` and the detail that an edit returns,
`getCourseDetailForOwner` of `course/queries.ts`. -/

namespace OSK

open Relational

/-- The category has been trimmed by the request schema. -/
def resolveCourseTypeByCategory (db : Db) (category : String) : Except Failure CourseType :=
  orThrow (db.courseTypes.findFirst fun t => decide (t.code = category))
    (.badRequest "Invalid course category")

/-! ### Adding -/

/-- The request schema admits positive hours only. -/
structure CreateCourseBody where
  schoolId : Uuid
  name : String
  category : String
  kind : CourseKind
  totalHours : {hours : ℤ // 0 < hours}
  capacity : Option ℤ := none
  instructorId : Option Uuid := none
  theoryStartDate : Option Instant := none
  theoryEndDate : Option Instant := none

structure CreatedCourseDto where
  id : Uuid
  name : String
  category : String
  courseType : CourseType
  kind : CourseKind
  totalHours : ℤ
  capacity : Option ℤ
  theoryStartDate : Option Day
  theoryEndDate : Option Day
  schoolId : Uuid
  instructorId : Option Uuid
  status : String
  createdAt : Instant

def toDto (row : Course) (courseType : CourseType) : CreatedCourseDto where
  id := row.id
  name := row.name
  category := row.category
  courseType
  kind := row.kind
  totalHours := row.totalHours
  capacity := row.capacity
  theoryStartDate := row.theoryStartDate
  theoryEndDate := row.theoryEndDate
  schoolId := row.schoolId
  instructorId := row.instructorId
  status := row.status
  createdAt := row.createdAt

/-- Both dates of a theory course, or none. -/
def CreateCourseBody.theoryDates (body : CreateCourseBody) : Option Day × Option Day :=
  match body.kind, body.theoryStartDate, body.theoryEndDate with
  | .theoryGroup, some start, some stop =>
    (some (dateToYYYYMMDD start), some (dateToYYYYMMDD stop))
  | _, _, _ => (none, none)

/-- The row of a new course, with the defaults of the table. -/
def CreateCourseBody.row (body : CreateCourseBody) (courseType : CourseType) (id : Uuid)
    (createdAt : Instant) : Course where
  id
  schoolId := body.schoolId
  name := body.name
  category := courseType.code
  courseTypeId := courseType.id
  kind := body.kind
  totalHours := body.totalHours.val
  total_hours_pos := body.totalHours.property
  capacity := if body.kind = .theoryGroup then body.capacity else none
  theoryStartDate := body.theoryDates.1
  theoryEndDate := body.theoryDates.2
  instructorId := body.instructorId
  createdAt

/-- The course ids in use, as a key or in a reference. -/
def Db.takenCourseIds (db : Db) : List Uuid :=
  db.courses.keys ++ (db.courseParticipants.rows.map CourseParticipant.courseId ++
    (db.lessons.rows.map Lesson.courseId ++
      db.instructorEvents.rows.filterMap InstructorEvent.courseId))

theorem Db.fresh_course_key (db : Db) (env : Env) :
    env.uuid db.takenCourseIds ∉ db.courses.keys := fun h =>
  env.uuid_fresh db.takenCourseIds (List.mem_append_left _ h)

def Db.nextCourse (db : Db) (env : Env) (body : CreateCourseBody) (courseType : CourseType) :
    Course :=
  body.row courseType (env.uuid db.takenCourseIds) env.now

def Db.insertCourse (db : Db) (env : Env) (body : CreateCourseBody) (courseType : CourseType) : Db :=
  { db with
    courses := db.courses.insert (db.nextCourse env body courseType) (db.fresh_course_key env) }

def assertCourseKindsConfigured (db : Db) (body : CreateCourseBody) : Except Failure Unit := do
  let schoolSettings ← orThrow (db.schoolSettings.findUnique body.schoolId)
    (.badRequest "School settings not configured")
  throwIf (schoolSettings.enabledCourseKinds = [])
    (.badRequest "No course kinds enabled for this school")
  throwIf (body.kind ∉ schoolSettings.enabledCourseKinds)
    (.badRequest "Course kind is not enabled for this school")

def createCourseForUser (env : Env) (userId : Uuid) (body : CreateCourseBody) :
    Service CreatedCourseDto := do
  Prog.query fun db => throwIf ((getSchoolOwnedByUser db userId body.schoolId).isNone = true)
    (.forbidden "Forbidden")
  Prog.query fun db => forSome body.instructorId fun instructorId =>
    throwIf ((instructorLink db instructorId body.schoolId).isNone = true)
      (.badRequest "instructor does not belong to this school")
  Prog.query fun db => assertCourseKindsConfigured db body
  let courseType ← Prog.query fun db => resolveCourseTypeByCategory db body.category
  Prog.query fun db => forSome body.instructorId fun instructorId =>
    assertInstructorQualifiedForCourseType db instructorId courseType.id
  let created ← Prog.query fun db => .ok (db.nextCourse env body courseType)
  Prog.write fun db => db.insertCourse env body courseType
  return toDto created courseType

/-! ### Editing -/

/-- The request schema admits positive hours only. An outer `none` is an absent key. -/
structure PatchCourseBody where
  name : Option String := none
  category : Option String := none
  kind : Option CourseKind := none
  totalHours : Option {hours : ℤ // 0 < hours} := none
  theoryStartDate : Option (Option Instant) := none
  theoryEndDate : Option (Option Instant) := none
  instructorId : Option (Option Uuid) := none
  capacity : Option (Option ℤ) := none

def PatchCourseBody.isEmpty (body : PatchCourseBody) : Bool :=
  body.name.isNone && body.category.isNone && body.kind.isNone && body.totalHours.isNone &&
    body.theoryStartDate.isNone && body.theoryEndDate.isNone && body.instructorId.isNone &&
    body.capacity.isNone

structure CourseDetailDto where
  id : Uuid
  schoolId : Uuid
  name : String
  category : String
  courseTypeId : Uuid
  kind : CourseKind
  totalHours : ℤ
  capacity : Option ℤ
  hasActivity : Bool
  theoryStartDate : Option Day
  theoryEndDate : Option Day
  instructorId : Option Uuid

/-- The course has enrolments, lessons that are not deleted, or events. -/
def courseHasActivity (db : Db) (courseId : Uuid) : Bool :=
  decide (db.courseParticipants.count (fun p => decide (p.courseId = courseId)) ≠ 0) ||
  decide (db.lessons.count (fun l => decide (l.courseId = courseId ∧ l.deletedAt = none)) ≠ 0) ||
  decide (db.instructorEvents.count (fun e => decide (e.courseId = some courseId)) ≠ 0)

/-- The course, if it is not deleted and the user owns its school. -/
def findOwnedCourse (db : Db) (userId courseId : Uuid) : Except Failure Course := do
  let row ← orThrow (db.courses.findUnique courseId) (.notFound "Course not found")
  throwIf (row.deletedAt ≠ none) (.notFound "Course not found")
  let school ← orThrow (db.drivingSchools.findUnique row.schoolId)
    (.other "Inconsistent query result: Field school is required")
  throwIf (school.ownerId ≠ userId) (.forbidden "Forbidden")
  return row

def getCourseDetailForOwner (db : Db) (userId courseId : Uuid) : Except Failure CourseDetailDto := do
  let row ← findOwnedCourse db userId courseId
  return {
    id := row.id
    schoolId := row.schoolId
    name := row.name
    category := row.category
    courseTypeId := row.courseTypeId
    kind := row.kind
    totalHours := row.totalHours
    capacity := row.capacity
    hasActivity := courseHasActivity db courseId
    theoryStartDate := row.theoryStartDate
    theoryEndDate := row.theoryEndDate
    instructorId := row.instructorId }

namespace PatchCourseBody

variable (body : PatchCourseBody) (row : Course)

def nextKind : CourseKind := body.kind.getD row.kind

def nextCategory : String := body.category.getD row.category

def nextStart : Option Instant :=
  body.theoryStartDate.getD (row.theoryStartDate.map yyyymmddToDate)

def nextEnd : Option Instant :=
  body.theoryEndDate.getD (row.theoryEndDate.map yyyymmddToDate)

def nextCapacity : Option ℤ := body.capacity.getD row.capacity

def nextTotalHours : {hours : ℤ // 0 < hours} :=
  body.totalHours.getD ⟨row.totalHours, row.total_hours_pos⟩

def structuralChange : Bool :=
  decide (body.nextKind row ≠ row.kind ∨ body.nextCategory row ≠ row.category ∨
    (body.nextTotalHours row).val ≠ row.totalHours ∨
    (body.theoryStartDate ≠ none ∧ body.nextStart row ≠ row.theoryStartDate.map yyyymmddToDate) ∨
    (body.theoryEndDate ≠ none ∧ body.nextEnd row ≠ row.theoryEndDate.map yyyymmddToDate))

/-- Both dates are set and in order. -/
def datesInOrder : Bool :=
  match body.nextStart row, body.nextEnd row with
  | some start, some stop => decide (start ≤ stop)
  | _, _ => false

def datesCleared : Bool := decide (body.kind ≠ none ∧ body.nextKind row ≠ .theoryGroup)

end PatchCourseBody

/-- The `data` of the update. -/
def Course.patched (body : PatchCourseBody) (courseTypeId : Uuid) (row : Course) : Course :=
  let cleared := body.datesCleared row
  { row with
    name := body.name.getD row.name
    category := body.category.getD row.category
    courseTypeId := if body.category ≠ none then courseTypeId else row.courseTypeId
    kind := body.kind.getD row.kind
    totalHours := (body.nextTotalHours row).val
    total_hours_pos := (body.nextTotalHours row).property
    theoryStartDate := if cleared then none
      else (body.theoryStartDate.map fun d => d.map dateToYYYYMMDD).getD row.theoryStartDate
    theoryEndDate := if cleared then none
      else (body.theoryEndDate.map fun d => d.map dateToYYYYMMDD).getD row.theoryEndDate
    capacity := if cleared then none else body.capacity.getD row.capacity
    instructorId := body.instructorId.getD row.instructorId }

@[simp] theorem Course.id_patched (body : PatchCourseBody) (courseTypeId : Uuid) (row : Course) :
    (row.patched body courseTypeId).id = row.id := rfl

def Db.patchCourse (db : Db) (courseId : Uuid) (body : PatchCourseBody) (courseTypeId : Uuid) :
    Db :=
  let patched := Course.patched body courseTypeId
  { db with courses := db.courses.update courseId patched (Course.id_patched body courseTypeId) }

/-- The rules on dates, capacity and structure, in the order of the source. -/
def assertCoursePatchAllowed (db : Db) (row : Course) (body : PatchCourseBody) :
    Except Failure Unit := do
  throwIf (body.nextKind row = .theoryGroup ∧
      (body.kind ≠ none ∨ body.theoryStartDate ≠ none ∨ body.theoryEndDate ≠ none) ∧
      body.datesInOrder row = false)
    (.badRequest "Valid theory dates are required for THEORY_GROUP")
  throwIf (body.nextKind row ≠ .theoryGroup ∧ body.nextCapacity row ≠ none ∧ body.capacity ≠ none)
    (.badRequest "capacity is only allowed for THEORY_GROUP courses")
  throwIf (body.structuralChange row = true ∧ courseHasActivity db row.id = true)
    (.conflict ("Nie można zmienić kategorii, rodzaju, godzin ani terminów kursu, " ++
      "który ma zapisy lub zajęcia."))
  onlyIf (body.nextKind row = .theoryGroup ∧ body.capacity ≠ none)
    (forSome (body.nextCapacity row) fun nextCapacity =>
      let activeParticipants := db.courseParticipants.count fun p =>
        decide (p.courseId = row.id ∧ p.status = .active)
      throwIf (nextCapacity < activeParticipants)
        (.conflict "Limit miejsc nie może być mniejszy od liczby aktywnych zapisów."))

/-- The course type after the patch; a new category has to name one. -/
def patchedCourseTypeId (db : Db) (row : Course) (body : PatchCourseBody) : Except Failure Uuid :=
  if body.nextCategory row ≠ row.category then do
    let courseType ← resolveCourseTypeByCategory db (body.nextCategory row)
    return courseType.id
  else return row.courseTypeId

def assertCourseKindEnabled (db : Db) (row : Course) (body : PatchCourseBody) :
    Except Failure Unit :=
  let settings := db.schoolSettings.findUnique row.schoolId
  throwIf (body.nextKind row ≠ row.kind ∧
      settings.any (fun s => decide (body.nextKind row ∈ s.enabledCourseKinds)) = false)
    (.badRequest "Course kind is not enabled for this school")

def assertCourseInstructorAllowed (db : Db) (row : Course) (body : PatchCourseBody)
    (courseTypeId : Uuid) : Except Failure Unit :=
  match body.instructorId with
  | some nextInstructorId => forSome nextInstructorId fun nextInstructorId => do
    throwIf ((instructorLink db nextInstructorId row.schoolId).isNone = true)
      (.badRequest "instructor does not belong to this school")
    assertInstructorQualifiedForCourseType db nextInstructorId courseTypeId
  | none => onlyIf (courseTypeId ≠ row.courseTypeId) (forSome row.instructorId fun instructorId =>
    assertInstructorQualifiedForCourseType db instructorId courseTypeId)

def writeCoursePatch (userId courseId : Uuid) (body : PatchCourseBody) : Service Unit :=
  Prog.transaction do
    let row ← Prog.query fun db => findOwnedCourse db userId courseId
    Prog.query fun db => assertCoursePatchAllowed db row body
    let courseTypeId ← Prog.query fun db => patchedCourseTypeId db row body
    Prog.query fun db => assertCourseKindEnabled db row body
    Prog.query fun db => assertCourseInstructorAllowed db row body courseTypeId
    Prog.write fun db => db.patchCourse courseId body courseTypeId

def patchCourseForOwner (userId courseId : Uuid) (body : PatchCourseBody) :
    Service CourseDetailDto := do
  Prog.when (!body.isEmpty) (writeCoursePatch userId courseId body)
  Prog.query fun db => getCourseDetailForOwner db userId courseId

/-! ### Deleting -/

def Course.deleted (now : Instant) (row : Course) : Course := { row with deletedAt := some now }

@[simp] theorem Course.id_deleted (now : Instant) (row : Course) : (row.deleted now).id = row.id :=
  rfl

def Db.deleteCourse (db : Db) (now : Instant) (courseId : Uuid) : Db :=
  let deleted := db.courses.update courseId (Course.deleted now) (Course.id_deleted now)
  { db with courses := deleted }

/-- Nothing refers to the course, not even a lesson that is deleted. -/
def assertCourseEmpty (db : Db) (courseId : Uuid) : Except Failure Unit := do
  throwIf (db.courseParticipants.count (fun p => decide (p.courseId = courseId)) ≠ 0)
    (.conflict "Nie można usunąć kursu, ponieważ ma zapisanych kursantów.")
  throwIf (db.lessons.count (fun l => decide (l.courseId = courseId)) ≠ 0)
    (.conflict "Nie można usunąć kursu, ponieważ ma zajęcia.")
  throwIf (db.instructorEvents.count (fun e => decide (e.courseId = some courseId)) ≠ 0)
    (.conflict "Nie można usunąć kursu, ponieważ ma wydarzenia.")
  throwIf (db.paymentPlans.count (fun p => decide (p.courseId = courseId)) ≠ 0)
    (.conflict "Nie można usunąć kursu, ponieważ ma plany płatności.")

def deleteEmptyCourseForOwner (env : Env) (userId courseId : Uuid) : Service Unit :=
  Prog.transaction do
    Prog.query fun db => do
      let course ← orThrow (db.courses.findUnique courseId) (.notFound "Course not found")
      throwIf (course.deletedAt ≠ none) (.notFound "Course not found")
      throwIf ((getSchoolOwnedByUser db userId course.schoolId).isNone = true)
        (.forbidden "Forbidden")
    Prog.query fun db => assertCourseEmpty db courseId
    Prog.write fun db => db.deleteCourse env.now courseId

end OSK
