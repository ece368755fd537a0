import Mathlib.Data.Prod.Lex
import Mathlib.Data.Rat.Floor
import Mathlib.Data.List.AList
import OskManager.Model.InstructorCommands
import OskManager.Model.SecurityLogList

/-! The lists of lesson ratings: `lesson-rating/queries.ts` with `access.ts`, `dateFilters.ts` and
`mappers.ts`. A page is cut from the ratings by their dates; the progress of each of its lessons is
counted over all completed lessons of the same course and student. -/

namespace OSK

open Relational

/-! ### Access -/

def assertManagerCanAccessSchool (db : Db) (actor : Actor) (schoolId : Uuid) :
    Except Failure Unit := do
  throwIf (actor.role ≠ .admin ∧ actor.role ≠ .manager) (.forbidden "Forbidden")
  let school ← orThrow (db.drivingSchools.findUnique schoolId) (.badRequest "Invalid schoolId")
  throwIf (school.deletedAt ≠ none) (.badRequest "Invalid schoolId")
  throwIf (actor.role = .manager ∧ school.ownerId ≠ actor.id) (.forbidden "Forbidden")

def resolveActiveInstructorProfileId (db : Db) (actor : Actor) : Except Failure Uuid := do
  throwIf (actor.role ≠ .instructor) (.forbidden "Forbidden")
  let profile ← orThrow
    (db.instructorProfiles.findFirst fun p =>
      decide (p.userId = actor.id) && p.hasActiveUser db)
    (.notFound "Instructor profile not found")
  return profile.id

def resolveActiveInstructorSchoolContext (db : Db) (actor : Actor) (instructorId : Uuid) :
    Except Failure DrivingSchool := do
  let links := activeSchoolLinks db instructorId
  throwIf (links.length = 0) (.notFound "Instructor not found")
  throwIf (links.length > 1) (.conflict "Instructor is assigned to multiple active driving schools")
  let school ← orThrow (links.head?.bind fun l => db.drivingSchools.findUnique l.schoolId)
    (.notFound "Instructor not found")
  throwIf (actor.role = .manager ∧ school.ownerId ≠ actor.id) (.forbidden "Forbidden")
  return school

/-! ### Filters -/

inductive LessonRatingsPeriod where
  | latest | yesterday | last7days | last30days | all
  deriving DecidableEq, Repr

structure RatingsQuery where
  period : LessonRatingsPeriod
  dateFrom : Option String := none
  dateTo : Option String := none
  page : ℕ := 1
  limit : ℕ := 20

structure CreatedAtRange where
  gte : Instant
  lt : Instant

/-- `new Date(`${date}T00:00:00.000Z`)`; the query is refused when it is no date. -/
def dateOnlyToUtcStart (date : String) : Except Failure Instant := do
  let day ← orThrow (parseIsoDate date) (.other "PrismaClientValidationError")
  return yyyymmddToDate day

def resolveCreatedAtFilter (now : Instant) (query : RatingsQuery) :
    Except Failure (Option CreatedAtRange) :=
  match query.dateFrom, query.dateTo with
  | some dateFrom, some dateTo => do
    let start ← dateOnlyToUtcStart dateFrom
    let stop ← dateOnlyToUtcStart dateTo
    return some { gte := start, lt := stop + msPerDay }
  | _, _ =>
    let today := yyyymmddToDate (dateToYYYYMMDD now)
    return match query.period with
    | .yesterday => some { gte := today - msPerDay, lt := today }
    | .last7days => some { gte := today - 6 * msPerDay, lt := today + msPerDay }
    | .last30days => some { gte := today - 30 * msPerDay, lt := today + msPerDay }
    | .latest | .all => none

/-- A rating with its lesson. -/
structure RatingRow where
  rating : LessonRating
  lesson : Lesson

abbrev RatingWhere := RatingRow → Bool

def CreatedAtRange.admits (range : CreatedAtRange) (r : LessonRating) : Bool :=
  decide (range.gte ≤ r.createdAt ∧ r.createdAt < range.lt)

/-- `deletedAt: null, lessonType: PRACTICE, status: COMPLETED`. -/
def Lesson.isCompletedPractice (l : Lesson) : Bool :=
  decide (l.deletedAt = none ∧ l.lessonType = .practice ∧ l.status = .completed)

def buildManagerRatingsWhere (db : Db) (schoolId : Uuid) (instructorId : Option Uuid)
    (createdAt : Option CreatedAtRange) : RatingWhere := fun row =>
  (instructorId.all fun id => decide (row.rating.instructorId = id)) &&
    (createdAt.all fun range => range.admits row.rating) &&
    (row.lesson.isCompletedPractice && row.lesson.inActiveCourseOf db schoolId)

/-! ### Progress -/

def lessonCourseStudentKey (courseId studentId : Uuid) : String :=
  uuidText courseId ++ ":" ++ uuidText studentId

structure LessonProgress where
  sequenceNumber : ℤ
  completedMinutesAfterLesson : ℤ
  deriving DecidableEq, Repr

/-- The three maps of the loop. -/
structure ProgressMaps where
  counters : String → Option ℤ := fun _ => none
  completedMinutesByCourseStudent : String → Option ℤ := fun _ => none
  progressByLessonId : Uuid → Option LessonProgress := fun _ => none

/-- One round of the loop. -/
def countLesson (maps : ProgressMaps) (lesson : Lesson) : ProgressMaps :=
  let key := lessonCourseStudentKey lesson.courseId lesson.studentId
  let sequenceNumber := (maps.counters key).getD 0 + 1
  let durationMinutes := max 0 lesson.minutes
  let completedMinutesAfterLesson :=
    (maps.completedMinutesByCourseStudent key).getD 0 + durationMinutes
  { counters := Function.update maps.counters key (some sequenceNumber)
    completedMinutesByCourseStudent :=
      Function.update maps.completedMinutesByCourseStudent key (some completedMinutesAfterLesson)
    progressByLessonId := Function.update maps.progressByLessonId lesson.id
      (some { sequenceNumber, completedMinutesAfterLesson }) }

/-- The pairs of the rows; the order of the entries does not matter to the query. -/
def uniquePairs (rows : List RatingRow) : AList fun _ : String => Uuid × Uuid :=
  rows.foldl (fun pairs row =>
    pairs.insert (lessonCourseStudentKey row.lesson.courseId row.lesson.studentId)
      (row.lesson.courseId, row.lesson.studentId)) ∅

/-- `orderBy: [{ startTime }, { createdAt }, { id }]`. -/
def Lesson.position (l : Lesson) : Instant ×ₗ Instant ×ₗ Uuid :=
  toLex (l.startTime, toLex (l.createdAt, l.id))

def completedLessons (db : Db) (rows : List RatingRow) : List Lesson :=
  let pairs := (uniquePairs rows).entries.map Sigma.snd
  (db.lessons.findMany fun l =>
    decide ((l.courseId, l.studentId) ∈ pairs) && l.isCompletedPractice).insertionSort
      fun a b => a.position ≤ b.position

def resolveLessonProgress (db : Db) (rows : List RatingRow) : Uuid → Option LessonProgress :=
  if rows.length = 0 then fun _ => none
  else ((completedLessons db rows).foldl countLesson {}).progressByLessonId

/-! ### Lists -/

structure LessonRatingPerson where
  id : Uuid
  userId : Uuid
  firstName : String
  lastName : String
  avatarUrl : Option String

structure LessonRatingCourse where
  id : Uuid
  name : String
  category : String
  totalHours : ℤ
  /-- The code and the name. -/
  courseType : Option (String × String)

structure LessonRatingVehicle where
  id : Uuid
  name : String
  registrationNumber : String
  brand : Option String
  model : Option String

structure LessonRatingLesson where
  id : Uuid
  startTime : Instant
  endTime : Instant
  sequenceNumber : ℤ
  completedMinutesAfterLesson : ℤ
  course : Option LessonRatingCourse
  vehicle : Option LessonRatingVehicle

structure LessonRatingListItem where
  id : Uuid
  lessonId : Uuid
  rating : ℤ
  comment : Option String
  createdAt : Instant
  lesson : LessonRatingLesson
  instructor : Option LessonRatingPerson
  student : Option LessonRatingPerson

structure LessonRatingsSummary where
  averageRating : Option ℚ
  totalCount : ℕ

/-- A profile with its user. The relations are required columns, so each of them is found. -/
def ratingPerson (db : Db) (id userId : Uuid) : Option LessonRatingPerson :=
  (db.users.findUnique userId).map fun u =>
    { id, userId, firstName := u.firstName, lastName := u.lastName
      avatarUrl := (db.userProfiles.findUnique userId).bind UserProfile.avatarUrl }

def ratingCourse (db : Db) (courseId : Uuid) : Option LessonRatingCourse :=
  (db.courses.findUnique courseId).map fun c =>
    { id := c.id, name := c.name, category := c.category, totalHours := c.totalHours
      courseType := (db.courseTypes.findUnique c.courseTypeId).map fun t => (t.code, t.name) }

def ratingVehicle (db : Db) (vehicleId : Uuid) : Option LessonRatingVehicle :=
  (db.vehicles.findUnique vehicleId).map fun v =>
    { id := v.id, name := v.name, registrationNumber := v.registrationNumber, brand := v.brand
      model := v.model }

def mapRatingListItem (db : Db) (row : RatingRow) (includeStudent : Bool)
    (progress : LessonProgress) : LessonRatingListItem where
  id := row.rating.id
  lessonId := row.rating.lessonId
  rating := row.rating.rating
  comment := row.rating.comment
  createdAt := row.rating.createdAt
  lesson :=
    { id := row.lesson.id
      startTime := row.lesson.startTime
      endTime := row.lesson.endTime
      sequenceNumber := progress.sequenceNumber
      completedMinutesAfterLesson := progress.completedMinutesAfterLesson
      course := ratingCourse db row.lesson.courseId
      vehicle := row.lesson.vehicleId.bind (ratingVehicle db) }
  instructor := (db.instructorProfiles.findUnique row.rating.instructorId).bind fun p =>
    ratingPerson db p.id p.userId
  student := if includeStudent then
    (db.studentProfiles.findUnique row.rating.studentId).bind fun p => ratingPerson db p.id p.userId
  else none

structure RatingsOptions where
  includeStudent : Bool
  skip : Option ℕ := none

def ratingRows (db : Db) (where_ : RatingWhere) : List RatingRow :=
  (db.lessonRatings.rows.filterMap fun r =>
    (db.lessons.findUnique r.lessonId).map fun lesson => { rating := r, lesson }).filter where_

/-- Doubles as the runtime computes with them, and the average of a column as the database hands it
over. -/
structure AverageRuntime where
  avg : List ℤ → ℚ
  mul : ℚ → ℚ → ℚ
  div : ℚ → ℚ → ℚ

/-- `Math.round(average * 100) / 100`; a half is rounded up. -/
def roundedAverage (runtime : AverageRuntime) (ratings : List ℤ) : Option ℚ :=
  if ratings.length = 0 then none
  else
    let average := runtime.avg ratings
    some (runtime.div ⌊runtime.mul average 100 + 1 / 2⌋ 100)

structure RatingsWithSummary where
  ratings : List LessonRatingListItem
  summary : LessonRatingsSummary

def fetchRatingsWithSummary (runtime : AverageRuntime) (db : Db) (where_ : RatingWhere) (limit : ℕ)
    (options : RatingsOptions) : RatingsWithSummary :=
  let sorted := (ratingRows db where_).insertionSort fun a b =>
    b.rating.createdAt ≤ a.rating.createdAt
  let rows := (sorted.drop (options.skip.getD 0)).take limit
  let progressByLessonId := resolveLessonProgress db rows
  { ratings := rows.map fun row =>
      mapRatingListItem db row options.includeStudent
        ((progressByLessonId row.lesson.id).getD
          { sequenceNumber := 1, completedMinutesAfterLesson := max 0 row.lesson.minutes })
    summary :=
      { averageRating :=
          roundedAverage runtime ((ratingRows db where_).map fun r => r.rating.rating)
        totalCount := (ratingRows db where_).length } }

structure RatingsPage extends RatingsWithSummary where
  page : ℕ
  limit : ℕ
  totalPages : ℕ

/-- The page of a query with its numbers; `Math.ceil` of a quotient. -/
def ratingsPage (runtime : AverageRuntime) (db : Db) (where_ : RatingWhere) (query : RatingsQuery)
    (includeStudent : Bool) : RatingsPage :=
  let list := fetchRatingsWithSummary runtime db where_ query.limit
    { includeStudent, skip := some ((query.page - 1) * query.limit) }
  { list with
    page := query.page
    limit := query.limit
    totalPages := max 1 ((list.summary.totalCount + query.limit - 1) / query.limit) }

def listLessonRatingsForManager (runtime : AverageRuntime) (env : Env) (db : Db) (actor : Actor)
    (schoolId : Uuid) (instructorId : Option Uuid) (query : RatingsQuery) :
    Except Failure RatingsPage := do
  assertManagerCanAccessSchool db actor schoolId
  let createdAt ← resolveCreatedAtFilter env.now query
  return ratingsPage runtime db (buildManagerRatingsWhere db schoolId instructorId createdAt) query
    true

def listInstructorLessonRatingsForManager (runtime : AverageRuntime) (env : Env) (db : Db)
    (actor : Actor) (instructorId : Uuid) (schoolId : Option Uuid) (query : RatingsQuery) :
    Except Failure RatingsPage := do
  let schoolId ← schoolId.elim
    (DrivingSchool.id <$> resolveActiveInstructorSchoolContext db actor instructorId) .ok
  assertManagerCanAccessSchool db actor schoolId
  let createdAt ← resolveCreatedAtFilter env.now query
  return ratingsPage runtime db
    (buildManagerRatingsWhere db schoolId (some instructorId) createdAt) query true

def listOwnLessonRatingsForInstructor (runtime : AverageRuntime) (env : Env) (db : Db)
    (actor : Actor) (query : RatingsQuery) : Except Failure RatingsPage := do
  let instructorId ← resolveActiveInstructorProfileId db actor
  let createdAt ← resolveCreatedAtFilter env.now query
  let where_ : RatingWhere := fun row =>
    decide (row.rating.instructorId = instructorId) &&
      (createdAt.all fun range => range.admits row.rating) && row.lesson.isCompletedPractice
  return ratingsPage runtime db where_ query false

end OSK
