import OskManager.Lib.Loops
import OskManager.Model.EventChecks
import OskManager.Model.SchoolAvailability
import OskManager.Model.StudentList

/-! What the forms of a lesson offer: the students and courses of `lesson/bookingOptions.ts`, the
instructors of `lesson/instructorOptions.ts` and the list of `instructor/queries.ts` that they come
from. -/

namespace OSK

open Relational Sql
open SchoolAvailability (Collation)

/-! ### The instructors of a school -/

structure InstructorListItem where
  id : Uuid
  userId : Uuid
  firstName : String
  lastName : String
  email : String
  avatarUrl : Option String
  qualifiedCourseTypes : List CourseType

/-- The query orders the types by their codes; `mapQualifiedCourseTypes` sorts them again. -/
def mapQualifiedCourseTypes (c : Collation) (db : Db) (profile : InstructorProfile) :
    List CourseType :=
  ((db.courseTypes.findMany fun t => decide (t.id ∈ profile.qualifiedCourseTypes)).insertionSort
    fun a b => a.code ≤ b.code).insertionSort fun a b => (c.localeCompare a.code b.code).isLE = true

def instructorListItem (c : Collation) (db : Db) (profile : InstructorProfile) (user : User) :
    InstructorListItem where
  id := profile.id
  userId := user.id
  firstName := user.firstName
  lastName := user.lastName
  email := user.email
  avatarUrl := (db.userProfiles.findUnique user.id).bind UserProfile.avatarUrl
  qualifiedCourseTypes := mapQualifiedCourseTypes c db profile

/-- The profiles of the active instructors of the school, in the order of their creation. -/
def activeInstructorsOfSchool (db : Db) (schoolId : Uuid) : List (InstructorProfile × User) :=
  ((db.instructorSchools.findMany fun l => decide (l.schoolId = schoolId)).filterMap fun l => do
    let profile ← (db.instructorProfiles.findUnique l.instructorId).filter fun p =>
      p.hasActiveUser db
    let user ← db.users.findUnique profile.userId
    return (profile, user)).insertionSort fun a b => a.1.createdAt ≤ b.1.createdAt

def listInstructorsBySchoolForUser (c : Collation) (db : Db) (actor : Actor) (schoolId : Uuid) :
    Except Failure (List InstructorListItem) := do
  let school ← orThrow
    ((db.drivingSchools.findUnique schoolId).filter fun s => decide (s.deletedAt = none))
    (.badRequest "Invalid schoolId")
  throwIf (actor.role ≠ .admin ∧ school.ownerId ≠ actor.id) (.forbidden "Forbidden")
  return (activeInstructorsOfSchool db schoolId).map fun row => instructorListItem c db row.1 row.2

/-! ### Another instructor for a lesson -/

structure LessonInstructorOptionsQuery extends LocalWindow where
  vehicleId : UuidText

/-- The check of the edit that gives the lesson to the instructor. -/
def LessonInstructorOptionsQuery.check (query : LessonInstructorOptionsQuery)
    (lessonId instructorId : Uuid) : LessonEditCheckBody where
  toLocalWindow := query.toLocalWindow
  lessonId
  instructorId := .ofUuid instructorId
  vehicleId := query.vehicleId

def availableOption (env : Env) (actor : Actor) (lessonId : Uuid)
    (query : LessonInstructorOptionsQuery) (instructor : InstructorListItem) :
    Service (Option InstructorListItem) := do
  let result ← checkScheduleAvailability env actor
    (.lessonEdit (query.check lessonId instructor.id))
  return if result.available then some instructor else none

/-- The checks of one batch are asked for at the same time; all that they write are availabilities
of the vehicle that have expired. -/
def getLessonInstructorOptions (env : Env) (c : Collation) (actor : Actor) (lessonId : Uuid)
    (query : LessonInstructorOptionsQuery) : Service (List InstructorListItem) := do
  let qualified ← Prog.query fun db => do
    let lesson ← orThrow (findLesson db lessonId) (.notFound "Lesson not found")
    let course ← lessonCourse db lesson
    assertActorCanBookLessonForCourse db actor course.schoolId
    throwIf (lesson.lessonType ≠ .practice)
      (.badRequest "Only practice lessons can change instructor")
    assertLessonHasNotStarted env lesson.status lesson.startTime
    let instructors ← listInstructorsBySchoolForUser c db actor course.schoolId
    return instructors.filter fun instructor => decide (instructor.id ≠ lesson.instructorId) &&
      instructor.qualifiedCourseTypes.any fun type => decide (type.id = course.courseTypeId)
  let results ← (batches 4 qualified).mapM fun batch =>
    batch.mapM (availableOption env actor lessonId query)
  return results.flatten.reduceOption

/-! ### The students and courses of a booking -/

structure BookingOptionsQuery where
  schoolId : Uuid
  instructorIds : List Uuid
  q : String := ""
  page : ℕ := 1
  limit : ℕ := 20

structure BookingOptionCourse where
  id : Uuid
  name : String
  category : String
  courseTypeId : Uuid
  kind : CourseKind
  status : CourseParticipantStatus := .active

structure BookingOptionStudent where
  userId : Uuid
  firstName : String
  lastName : String
  email : String
  courses : List BookingOptionCourse

structure BookingOptions where
  items : List BookingOptionStudent
  total : ℕ
  page : ℕ
  limit : ℕ
  totalPages : ℕ

def bookingOptionCourse (course : Course) : BookingOptionCourse where
  id := course.id
  name := course.name
  category := course.category
  courseTypeId := course.courseTypeId
  kind := course.kind

namespace BookingOptionsQuery

variable (query : BookingOptionsQuery) (db : Db)

def instructors : List InstructorProfile :=
  db.instructorProfiles.findMany fun p => decide (p.id ∈ query.instructorIds) &&
    (instructorLink db p.id query.schoolId).isSome && p.hasActiveUser db

def eligibleCourse (qualifiedTypeIds : List Uuid) : Cond Course :=
  all [column Course.schoolId fun v => decide (v = query.schoolId), isNull Course.deletedAt,
    column Course.status fun v => decide (v = "active"),
    column Course.kind fun v => decide (v ∈ [CourseKind.practical, CourseKind.extra]),
    column Course.courseTypeId fun v => decide (v ∈ qualifiedTypeIds)]

/-- `query.q.trim().split(/\s+/)`; of a blank text that is one empty part. -/
def nameParts : List String :=
  if trim query.q = "" then [""]
  else (((trim query.q).toList.splitOnP isTrimmed).map String.ofList).filter fun part =>
    decide (part ≠ "")

/-- A full name: the first word and the rest. -/
def fullNameFilters (text : TextRules) : List (Cond User) :=
  if query.nameParts.length > 1 then
    [all [column User.firstName fun v => text.contains v (query.nameParts.headD ""),
      column User.lastName fun v => text.contains v (String.intercalate " " query.nameParts.tail)]]
  else []

def searched (text : TextRules) : List (Cond User) :=
  if query.q.isEmpty then []
  else [any ([column User.firstName fun v => text.contains v query.q,
    column User.lastName fun v => text.contains v query.q,
    column User.email fun v => text.contains v query.q] ++ query.fullNameFilters text)]

def activeEnrolment (qualifiedTypeIds : List Uuid) : Cond CourseParticipant :=
  all [column CourseParticipant.status fun v => decide (v = .active),
    courseOfEnrolment db (query.eligibleCourse qualifiedTypeIds)]

def studentWhere (text : TextRules) (qualifiedTypeIds : List Uuid) : Cond StudentProfile :=
  all [present (schoolLinksOf db)
      (column StudentSchool.schoolId fun v => decide (v = query.schoolId)),
    userOf db (all ([column User.role fun v => decide (v = .student),
      column User.isActive fun v => v, isNull User.deletedAt] ++ query.searched text)),
    present (enrolmentsOf db) (query.activeEnrolment db qualifiedTypeIds)]

/-- The courses of the student that are shown. -/
def coursesOf (qualifiedTypeIds : List Uuid) (student : StudentProfile) :
    List BookingOptionCourse :=
  (select (enrolmentsOf db student) (query.activeEnrolment db qualifiedTypeIds)).filterMap fun p =>
    (db.courses.findUnique p.courseId).map bookingOptionCourse

def item (qualifiedTypeIds : List Uuid) (row : StudentProfile × User) : BookingOptionStudent where
  userId := row.1.userId
  firstName := row.2.firstName
  lastName := row.2.lastName
  email := row.2.email
  courses := query.coursesOf db qualifiedTypeIds row.1

def matched (text : TextRules) (qualifiedTypeIds : List Uuid) : List StudentProfile :=
  select db.studentProfiles.rows (query.studentWhere db text qualifiedTypeIds)

/-- All students that the query selects, in order. -/
def rows (text : TextRules) (qualifiedTypeIds : List Uuid) : List (StudentProfile × User) :=
  ((query.matched db text qualifiedTypeIds).filterMap fun s =>
    (db.users.findUnique s.userId).map fun user => (s, user)).insertionSort
      fun a b => studentRowLE text a b = true

end BookingOptionsQuery

def getLessonBookingOptions (text : TextRules) (db : Db) (actor : Actor)
    (query : BookingOptionsQuery) : Except Failure BookingOptions := do
  assertActorCanBookLessonForCourse db actor query.schoolId
  let instructors := query.instructors db
  throwIf (instructors.length ≠ query.instructorIds.dedup.length)
    (.badRequest "Instructor does not belong to this driving school")
  let qualifiedTypeIds := (instructors.flatMap InstructorProfile.qualifiedCourseTypes).eraseDups
  if qualifiedTypeIds = [] then
    return { items := [], total := 0, page := query.page, limit := query.limit, totalPages := 0 }
  let total := (query.matched db text qualifiedTypeIds).length
  let rows := query.rows db text qualifiedTypeIds
  return {
    items := ((rows.drop ((query.page - 1) * query.limit)).take query.limit).map
      (query.item db qualifiedTypeIds)
    total
    page := query.page
    limit := query.limit
    totalPages := (total + query.limit - 1) / query.limit }

end OSK
