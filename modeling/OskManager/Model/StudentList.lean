import OskManager.Lib.Sql
import OskManager.Model.CourseParticipants
import OskManager.Model.SecurityLogList

/-! The list of a school's students: `students/listFilters.ts` and `students/list.ts`. A filter is a
condition of the query on a student profile, in the logic of SQL. -/

namespace OSK

open Relational Sql

/-! ### The query -/

inductive StudentListView where
  | all | withoutPkk | withoutCourse | overdue | withoutLesson
  deriving DecidableEq, Repr

inductive UserTextField where
  | firstName | lastName | email
  deriving DecidableEq, Repr

inductive UserTextOperator where
  | contains | notContains | eq | neq
  deriving DecidableEq, Repr

inductive PhoneOperator where
  | contains | notContains | isEmpty | isNotEmpty
  deriving DecidableEq, Repr

inductive PkkOperator where
  | contains | notContains | eq | neq | isEmpty | isNotEmpty
  deriving DecidableEq, Repr

inductive EqualityOperator where
  | eq | neq
  deriving DecidableEq, Repr

inductive CourseFilter where
  | isEmpty | isNotEmpty
  | eq (value : Uuid)
  | neq (value : Uuid)
  deriving DecidableEq, Repr

inductive CreatedAtFilter where
  | before (value : String)
  | after (value : String)
  | between (start stop : String)
  deriving DecidableEq, Repr

inductive StudentAdvancedFilter where
  | userText (field : UserTextField) (operator : UserTextOperator) (value : String)
  | phone (operator : PhoneOperator) (value : Option String)
  | pkkNumber (operator : PkkOperator) (value : Option String)
  | isActive (operator : EqualityOperator) (value : Bool)
  | courseId (filter : CourseFilter)
  | hasOverduePayments (value : Bool)
  | hasUpcomingLesson (value : Bool)
  | createdAt (filter : CreatedAtFilter)
  deriving DecidableEq, Repr

structure ListStudentsQuery where
  search : Option String := none
  view : Option StudentListView := none
  schoolId : Option Uuid := none
  courseId : Option Uuid := none
  page : ℕ := 1
  limit : ℕ := 20
  filters : List StudentAdvancedFilter := []

/-- The rule of the request schema for a range of dates. -/
def dateRangeAccepted (start stop : String) : Bool :=
  (isoDateParts start).isSome && (isoDateParts stop).isSome && decide (start ≤ stop)

/-! ### Relations -/

section

variable (text : TextRules) (db : Db)

def userOf (c : Cond User) : Cond StudentProfile := toOne (fun s => db.users.findUnique s.userId) c

def enrolmentsOf (s : StudentProfile) : List CourseParticipant :=
  db.courseParticipants.findMany fun p => decide (p.studentId = s.id)

def lessonsOf (s : StudentProfile) : List Lesson :=
  db.lessons.findMany fun l => decide (l.studentId = s.id)

def schoolLinksOf (s : StudentProfile) : List StudentSchool :=
  db.studentSchools.findMany fun l => decide (l.studentId = s.id)

def courseOfEnrolment (c : Cond Course) : Cond CourseParticipant :=
  toOne (fun p => db.courses.findUnique p.courseId) c

def courseOfLesson (c : Cond Course) : Cond Lesson :=
  toOne (fun l => db.courses.findUnique l.courseId) c

def plansOf (course : Course) : List PaymentPlan :=
  db.paymentPlans.findMany fun p => decide (p.courseId = course.id)

def paymentsOf (plan : PaymentPlan) : List Payment :=
  db.payments.findMany fun p => decide (p.paymentPlanId = plan.id)

/-- `{ schoolId, deletedAt: null }`. -/
def scopedCourse (schoolId : Uuid) : Cond Course :=
  all [column Course.schoolId fun v => decide (v = schoolId), isNull Course.deletedAt]

/-! ### Filters -/

def UserTextField.column : UserTextField → User → String
  | .firstName => User.firstName
  | .lastName => User.lastName
  | .email => User.email

def buildUserTextFilter (field : UserTextField) (operator : UserTextOperator) (value : String) :
    Cond StudentProfile :=
  match operator with
  | .contains => userOf db (column field.column fun v => text.contains v value)
  | .eq => userOf db (column field.column fun v => text.equals v value)
  | .notContains => not (userOf db (column field.column fun v => text.contains v value))
  | .neq => not (userOf db (column field.column fun v => text.equals v value))

def buildNullableUserTextFilter (operator : PhoneOperator) (value : Option String) :
    Cond StudentProfile :=
  match operator with
  | .isEmpty => userOf db (any [isNull User.phone, nullable User.phone fun v => decide (v = "")])
  | .isNotEmpty =>
    userOf db (all [not (isNull User.phone), nullable User.phone fun v => decide (v ≠ "")])
  | .contains => userOf db (nullable User.phone fun v => text.contains v (value.getD ""))
  | .notContains =>
    any [userOf db (isNull User.phone),
      not (userOf db (nullable User.phone fun v => text.contains v (value.getD "")))]

def buildNullableStudentTextFilter (operator : PkkOperator) (value : Option String) :
    Cond StudentProfile :=
  match operator with
  | .isEmpty => any [isNull StudentProfile.pkkNumber,
      nullable StudentProfile.pkkNumber fun v => decide (v = "")]
  | .isNotEmpty => all [not (isNull StudentProfile.pkkNumber),
      nullable StudentProfile.pkkNumber fun v => decide (v ≠ "")]
  | .contains => nullable StudentProfile.pkkNumber fun v => text.contains v (value.getD "")
  | .eq => nullable StudentProfile.pkkNumber fun v => text.equals v (value.getD "")
  | .notContains => any [isNull StudentProfile.pkkNumber,
      not (nullable StudentProfile.pkkNumber fun v => text.contains v (value.getD ""))]
  | .neq => any [isNull StudentProfile.pkkNumber,
      not (nullable StudentProfile.pkkNumber fun v => text.equals v (value.getD ""))]

def inCourse (courseId : Uuid) : Cond CourseParticipant :=
  column CourseParticipant.courseId fun v => decide (v = courseId)

def buildCourseFilter (schoolId : Uuid) (filter : CourseFilter) : Cond StudentProfile :=
  let scope := courseOfEnrolment db (scopedCourse schoolId)
  match filter with
  | .isEmpty => absent (enrolmentsOf db) scope
  | .isNotEmpty => present (enrolmentsOf db) scope
  | .eq value => present (enrolmentsOf db) (all [inCourse value, scope])
  | .neq value => absent (enrolmentsOf db) (all [inCourse value, scope])

/-- Midnight UTC of the day of an instant. -/
def utcMidnight (now : Instant) : Instant := yyyymmddToDate (dateToYYYYMMDD now)

/-- A payment that is not paid and was due before the day began. -/
def overduePayment (today : Instant) : Cond Payment :=
  all [column Payment.status fun v => decide (v ≠ .paid),
    nullable Payment.dueDate fun v => decide (yyyymmddToDate v < today)]

def overduePredicate (schoolId : Uuid) (now : Instant) : Cond CourseParticipant :=
  courseOfEnrolment db (all [scopedCourse schoolId,
    present (plansOf db) (present (paymentsOf db) (overduePayment (utcMidnight now)))])

def buildOverduePaymentsFilter (schoolId : Uuid) (now : Instant) (hasOverduePayments : Bool) :
    Cond StudentProfile :=
  if hasOverduePayments then present (enrolmentsOf db) (overduePredicate db schoolId now)
  else absent (enrolmentsOf db) (overduePredicate db schoolId now)

def lessonPredicate (schoolId : Uuid) (now : Instant) : Cond Lesson :=
  all [courseOfLesson db (scopedCourse schoolId), isNull Lesson.deletedAt,
    column Lesson.lessonType fun v => decide (v = .practice),
    column Lesson.status fun v => decide (v = .scheduled),
    column Lesson.startTime fun v => decide (v ≥ now)]

def buildUpcomingLessonFilter (schoolId : Uuid) (now : Instant) (hasUpcomingLesson : Bool) :
    Cond StudentProfile :=
  if hasUpcomingLesson then present (lessonsOf db) (lessonPredicate db schoolId now)
  else absent (lessonsOf db) (lessonPredicate db schoolId now)

end

/-- `new Date(...)` of midnight UTC; `none` is an invalid date. -/
def startOfUtcDate (date : String) : Option Instant := (parseIsoDate date).map yyyymmddToDate

def startOfNextUtcDate (date : String) : Option Instant :=
  (startOfUtcDate date).map fun result => result + msPerDay

/-- A query with an invalid date is refused. -/
def queryDate (date : Option Instant) : Except Failure Instant :=
  orThrow date (.other "PrismaClientValidationError: Provided Date object is invalid")

def buildCreatedAtFilter : CreatedAtFilter → Except Failure (Cond StudentProfile)
  | .before value => do
    let date ← queryDate (startOfUtcDate value)
    return column StudentProfile.createdAt fun v => decide (v < date)
  | .after value => do
    let date ← queryDate (startOfNextUtcDate value)
    return column StudentProfile.createdAt fun v => decide (v ≥ date)
  | .between start stop => do
    let gte ← queryDate (startOfUtcDate start)
    let lt ← queryDate (startOfNextUtcDate stop)
    return column StudentProfile.createdAt fun v => decide (v ≥ gte) && decide (v < lt)

section

variable (text : TextRules) (db : Db)

def buildAdvancedFilterWhere (schoolId : Uuid) (filter : StudentAdvancedFilter) (now : Instant) :
    Except Failure (Cond StudentProfile) :=
  match filter with
  | .userText field operator value => return buildUserTextFilter text db field operator value
  | .phone operator value => return buildNullableUserTextFilter text db operator value
  | .pkkNumber operator value => return buildNullableStudentTextFilter text operator value
  | .isActive operator value =>
    return userOf db (column User.isActive fun v =>
      decide (v = if operator = .eq then value else !value))
  | .courseId filter => return buildCourseFilter db schoolId filter
  | .hasOverduePayments value => return buildOverduePaymentsFilter db schoolId now value
  | .hasUpcomingLesson value => return buildUpcomingLessonFilter db schoolId now value
  | .createdAt filter => buildCreatedAtFilter filter

/-- `search?.trim().split(/\s+/).filter(Boolean)`. -/
def searchTerms (search : Option String) : List String :=
  (((trim (search.getD "")).toList.splitOnP isTrimmed).map String.ofList).filter fun term =>
    decide (term ≠ "")

def searchCondition (term : String) : Cond StudentProfile :=
  any [userOf db (column User.firstName fun v => text.contains v term),
    userOf db (column User.lastName fun v => text.contains v term),
    userOf db (column User.email fun v => text.contains v term),
    userOf db (nullable User.phone fun v => text.contains v term),
    nullable StudentProfile.pkkNumber fun v => text.contains v term]

def viewConditions (schoolId : Uuid) (now : Instant) :
    Option StudentListView → List (Cond StudentProfile)
  | some .withoutPkk => [any [isNull StudentProfile.pkkNumber,
      nullable StudentProfile.pkkNumber fun v => decide (v = "")]]
  | some .withoutCourse =>
    [absent (enrolmentsOf db) (courseOfEnrolment db (scopedCourse schoolId))]
  | some .withoutLesson => [absent (lessonsOf db) (lessonPredicate db schoolId now)]
  | some .overdue => [buildOverduePaymentsFilter db schoolId now true]
  | some .all => []
  | none => []

/-- `studentSchools: { some: { schoolId, school: { deletedAt: null } } }`. -/
def inSchool (schoolId : Uuid) : Cond StudentProfile :=
  present (schoolLinksOf db) (all [column StudentSchool.schoolId fun v => decide (v = schoolId),
    toOne (fun l => db.drivingSchools.findUnique l.schoolId) (isNull DrivingSchool.deletedAt)])

def buildStudentListWhere (query : ListStudentsQuery) (schoolId : Uuid) (now : Instant) :
    Except Failure (Cond StudentProfile) := do
  let inCourses := query.courseId.toList.map fun courseId =>
    present (enrolmentsOf db) (inCourse courseId)
  let found := (searchTerms query.search).map (searchCondition text db)
  let filtered ← query.filters.mapM fun filter =>
    buildAdvancedFilterWhere text db schoolId filter now
  return all [userOf db (isNull User.deletedAt), inSchool db schoolId,
    all (inCourses ++ found ++ viewConditions db schoolId now query.view ++ filtered)]

/-- The profiles that the query of the list selects. -/
def matchedStudents (query : ListStudentsQuery) (schoolId : Uuid) (now : Instant) :
    Except Failure (List StudentProfile) := do
  return select db.studentProfiles.rows (← buildStudentListWhere text db query schoolId now)

end

/-! ### The list -/

structure StudentListItemDto where
  id : Uuid
  userId : Uuid
  firstName : String
  lastName : String
  email : String
  phone : Option String
  avatarUrl : Option String
  pkkNumber : Option String
  isActive : Bool
  createdAt : Instant

structure StudentViewCounts where
  all : ℕ
  withoutPkk : ℕ
  withoutCourse : ℕ
  overdue : ℕ
  withoutLesson : ℕ

def StudentViewCounts.of (counts : StudentViewCounts) : StudentListView → ℕ
  | .all => counts.all
  | .withoutPkk => counts.withoutPkk
  | .withoutCourse => counts.withoutCourse
  | .overdue => counts.overdue
  | .withoutLesson => counts.withoutLesson

structure ListStudentsResult where
  data : List StudentListItemDto
  total : ℕ
  page : ℕ
  limit : ℕ
  viewCounts : StudentViewCounts

/-- `orderBy: [{ user: { lastName } }, { user: { firstName } }, { id }]`. -/
def studentRowLE (text : TextRules) (a b : StudentProfile × User) : Bool :=
  if text.le a.2.lastName b.2.lastName && text.le b.2.lastName a.2.lastName then
    if text.le a.2.firstName b.2.firstName && text.le b.2.firstName a.2.firstName then
      decide (a.1.id ≤ b.1.id)
    else text.le a.2.firstName b.2.firstName
  else text.le a.2.lastName b.2.lastName

def studentListItem (db : Db) (row : StudentProfile × User) : StudentListItemDto where
  id := row.1.id
  userId := row.2.id
  firstName := row.2.firstName
  lastName := row.2.lastName
  email := row.2.email
  phone := row.2.phone
  avatarUrl := (db.userProfiles.findUnique row.2.id).bind UserProfile.avatarUrl
  pkkNumber := row.1.pkkNumber
  isActive := row.2.isActive
  createdAt := row.1.createdAt

/-- The school of the list: the one that is asked for, else that of the course. -/
def resolveListSchoolId (db : Db) (query : ListStudentsQuery) : Except Failure Uuid :=
  match query.schoolId, query.courseId with
  | some schoolId, _ => return schoolId
  | none, some courseId => loadCourseSchoolId db courseId
  | none, none => throw (.badRequest "schoolId or courseId is required")

def advancedCourseIds (filters : List StudentAdvancedFilter) : List Uuid :=
  (filters.flatMap fun
    | .courseId (.eq value) => [value]
    | .courseId (.neq value) => [value]
    | _ => []).eraseDups

def listStudentsForSchool (text : TextRules) (env : Env) (db : Db) (actor : Actor)
    (query : ListStudentsQuery) : Except Failure ListStudentsResult := do
  let schoolId ← resolveListSchoolId db query
  assertActorCanListStudentsForSchool db actor schoolId
  forSome query.courseId fun courseId =>
    throwIf ((db.courses.findFirst fun c =>
      decide (c.id = courseId ∧ c.schoolId = schoolId ∧ c.deletedAt = none)).isNone = true)
      (.notFound "Course not found")
  let courses := db.courses.findMany fun c =>
    decide (c.id ∈ advancedCourseIds query.filters ∧ c.schoolId = schoolId ∧ c.deletedAt = none)
  throwIf (courses.length ≠ (advancedCourseIds query.filters).length)
    (.notFound "Course not found")
  let countForView (view : StudentListView) : Except Failure ℕ := do
    return (← matchedStudents text db { query with view := some view } schoolId env.now).length
  let matched ← matchedStudents text db query schoolId env.now
  let rows := ((matched.filterMap fun s =>
    (db.users.findUnique s.userId).map fun user => (s, user)).insertionSort
      fun a b => studentRowLE text a b = true)
  let viewCounts : StudentViewCounts :=
    { all := ← countForView .all
      withoutPkk := ← countForView .withoutPkk
      withoutCourse := ← countForView .withoutCourse
      overdue := ← countForView .overdue
      withoutLesson := ← countForView .withoutLesson }
  return {
    data := ((rows.drop ((query.page - 1) * query.limit)).take query.limit).map (studentListItem db)
    total := viewCounts.of (query.view.getD .all)
    page := query.page
    limit := query.limit
    viewCounts }

end OSK
