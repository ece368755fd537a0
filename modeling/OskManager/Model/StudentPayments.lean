import OskManager.Model.IsoDates
import OskManager.Model.SchoolAvailability
import OskManager.Model.StudentList

/-! The payments of a student: `students/paymentsQueries.ts` with `paymentsMappers.ts`,
`schoolResolver.ts` and `utils.ts`. The summary reads the amounts and the dates again from the texts
that are sent. -/

namespace OSK

open Relational Sql
open SchoolAvailability (Collation)

/-- Numbers of the runtime: `Decimal.prototype.toString`, `Number(...)`, `Number.isFinite`, addition
and `toFixed(2)`; and `new Date(...)` of a text that `toISOString` does not write, where `none` is
an invalid date. -/
structure PaymentRuntime (Num : Type) where
  decimalText : ℚ → String
  number : String → Num
  isFinite : Num → Bool
  zero : Num
  add : Num → Num → Num
  toFixed2 : Num → String
  otherDate : String → Option Instant

inductive StudentPaymentStatus where
  | paid | unpaid
  deriving DecidableEq, Repr

structure StudentPaymentItemDto where
  id : Uuid
  courseId : Uuid
  courseName : String
  paymentPlanId : Uuid
  amount : String
  currency : String
  status : StudentPaymentStatus
  date : Option String
  dueDate : Option String
  paidAt : Option String
  method : Option String

structure StudentPaymentPlanDto where
  id : Uuid
  courseId : Uuid
  courseName : String
  currency : String

structure StudentPaymentsSummaryDto where
  paidAmount : String
  unpaidAmount : String
  overdueAmount : String
  overdueCount : ℕ
  nextDueDate : Option String
  currency : String

structure StudentPaymentsDto where
  payments : List StudentPaymentItemDto
  paymentPlans : List StudentPaymentPlanDto
  summary : StudentPaymentsSummaryDto

/-! ### The summary -/

def emptyPaymentsSummary : StudentPaymentsSummaryDto where
  paidAmount := "0.00"
  unpaidAmount := "0.00"
  overdueAmount := "0.00"
  overdueCount := 0
  nextDueDate := none
  currency := "PLN"

/-- The variables of the loop. Without a `nextDueTime` it is infinite. -/
structure PaymentSums (Num : Type) where
  paidAmount : Num
  unpaidAmount : Num
  overdueAmount : Num
  overdueCount : ℕ
  nextDueDate : Option String
  nextDueTime : Option Instant

section

variable {Num : Type} (rt : PaymentRuntime Num)

def newDate (text : String) : Option Instant := (readISOString text).or (rt.otherDate text)

/-- The instant at which a payment is due: neither a missing date, nor an empty one, nor an invalid
one counts. -/
def dueTime (payment : StudentPaymentItemDto) : Option Instant :=
  (payment.dueDate.filter fun text => decide (text ≠ "")).bind (newDate rt)

def countPayment (today : Instant) (sums : PaymentSums Num) (payment : StudentPaymentItemDto) :
    PaymentSums Num :=
  let amount := rt.number payment.amount
  if rt.isFinite amount = false then sums
  else if payment.status = .paid then { sums with paidAmount := rt.add sums.paidAmount amount }
  else
    let sums := { sums with unpaidAmount := rt.add sums.unpaidAmount amount }
    match dueTime rt payment with
    | none => sums
    | some dueDate =>
      if dueDate < today then
        { sums with
          overdueAmount := rt.add sums.overdueAmount amount
          overdueCount := sums.overdueCount + 1 }
      else if sums.nextDueTime.all fun next => decide (dueDate < next) then
        { sums with nextDueTime := some dueDate, nextDueDate := payment.dueDate }
      else sums

def noPayments : PaymentSums Num where
  paidAmount := rt.zero
  unpaidAmount := rt.zero
  overdueAmount := rt.zero
  overdueCount := 0
  nextDueDate := none
  nextDueTime := none

/-- The clock is read for `todayUtcStart`. -/
def buildPaymentsDto (now : Instant) (payments : List StudentPaymentItemDto)
    (paymentPlans : List StudentPaymentPlanDto) : StudentPaymentsDto :=
  let sums := payments.foldl (countPayment rt (utcMidnight now)) (noPayments rt)
  { payments
    paymentPlans
    summary :=
      { paidAmount := rt.toFixed2 sums.paidAmount
        unpaidAmount := rt.toFixed2 sums.unpaidAmount
        overdueAmount := rt.toFixed2 sums.overdueAmount
        overdueCount := sums.overdueCount
        nextDueDate := sums.nextDueDate
        currency := (payments.head?.map StudentPaymentItemDto.currency).getD "PLN" } }

/-! ### The rows -/

def toIsoOrNull (value : Option Instant) : Option String := value.map toISOString

def mapPaymentStatus (status : PaymentStatus) : StudentPaymentStatus :=
  if status = .paid then .paid else .unpaid

/-- A date without a time is midnight UTC. -/
def Payment.dueAt (payment : Payment) : Option Instant := payment.dueDate.map yyyymmddToDate

def paymentSortTime (payment : Payment) : Instant :=
  (payment.paidAt.or payment.dueAt).getD payment.createdAt

def paymentItem (course : Course) (plan : PaymentPlan) (payment : Payment) :
    StudentPaymentItemDto where
  id := payment.id
  courseId := course.id
  courseName := course.name
  paymentPlanId := plan.id
  amount := rt.decimalText payment.amount
  currency := plan.currency
  status := mapPaymentStatus payment.status
  date := toIsoOrNull (some (paymentSortTime payment))
  dueDate := toIsoOrNull payment.dueAt
  paidAt := toIsoOrNull payment.paidAt
  method := payment.method

def paymentPlanItem (course : Course) (plan : PaymentPlan) : StudentPaymentPlanDto where
  id := plan.id
  courseId := course.id
  courseName := course.name
  currency := plan.currency

/-- Ids are compared as the numbers they are; their texts have one length and one case. -/
def comparePlans (c : Collation) : StudentPaymentPlanDto → StudentPaymentPlanDto → Ordering :=
  compareLex (fun a b => c.localeCompare a.courseName b.courseName) (compareOn (·.id))

end

/-! ### The school -/

section

variable (db : Db)

def resolveStudentSchool (student : Cond StudentProfile) : Except Failure Uuid :=
  let links := select db.studentSchools.rows
    (all [toOne (fun l => db.studentProfiles.findUnique l.studentId) student,
      toOne (fun l => db.drivingSchools.findUnique l.schoolId) (isNull DrivingSchool.deletedAt)])
  match links with
  | [] => throw (.notFound "Student not found")
  | [link] => return link.schoolId
  | _ :: _ :: _ => throw (.conflict "Student is assigned to multiple active driving schools")

/-- `{ userId, user: { deletedAt: null } }`. -/
def profileOfUser (userId : Uuid) : Cond StudentProfile :=
  all [column StudentProfile.userId fun v => decide (v = userId), userOf db (isNull User.deletedAt)]

def resolveActiveStudentSchoolId (studentUserId : Uuid) : Except Failure Uuid :=
  resolveStudentSchool db (profileOfUser db studentUserId)

/-! ### The payments -/

structure StudentPaymentsQuery where
  schoolId : Option Uuid := none

def studentWhere (studentUserId : Uuid) (schoolId : Option Uuid) : Cond StudentProfile :=
  all [profileOfUser db studentUserId, all (schoolId.toList.map fun schoolId =>
    any [inSchool db schoolId,
      present (enrolmentsOf db) (courseOfEnrolment db (scopedCourse schoolId))])]

/-- `{ deletedAt: null, ...(schoolId ? { schoolId } : {}) }`. -/
def courseScope (schoolId : Option Uuid) : Cond Course :=
  all (isNull Course.deletedAt ::
    schoolId.toList.map fun schoolId => column Course.schoolId fun v => decide (v = schoolId))

/-- The courses of the student's enrolments, one for each enrolment. -/
def paidCourses (studentId : Uuid) (schoolId : Option Uuid) : List Course :=
  let rows := select db.courseParticipants.rows
    (all [column CourseParticipant.studentId fun v => decide (v = studentId),
      courseOfEnrolment db (courseScope schoolId)])
  rows.filterMap fun row => db.courses.findUnique row.courseId

variable {Num : Type} (rt : PaymentRuntime Num) (c : Collation)

/-- The payments of the courses, the latest first. -/
def paymentItems (courses : List Course) : List StudentPaymentItemDto :=
  let payments := courses.flatMap fun course => (plansOf db course).flatMap fun plan =>
    (paymentsOf db plan).map fun payment =>
      (paymentSortTime payment, paymentItem rt course plan payment)
  (payments.insertionSort fun a b => b.1 ≤ a.1).map Prod.snd

def paymentPlanItems (courses : List Course) : List StudentPaymentPlanDto :=
  (courses.flatMap fun course => (plansOf db course).map (paymentPlanItem course)).insertionSort
    fun a b => (comparePlans c a b).isLE = true

def listStudentPayments (env : Env) (actor : Actor) (studentUserId : Uuid)
    (query : StudentPaymentsQuery) : Except Failure StudentPaymentsDto := do
  throwIf (actor.role = .student ∧ actor.id ≠ studentUserId) (.forbidden "Forbidden")
  let schoolId ←
    if actor.role ≠ .student ∧ query.schoolId = none then
      some <$> resolveActiveStudentSchoolId db studentUserId
    else pure query.schoolId
  if actor.role ≠ .student then forSome schoolId (assertActorCanListStudentsForSchool db actor)
  let student ← orThrow (db.studentProfiles.findFirst fun s =>
    decide (Selects (studentWhere db studentUserId schoolId) s)) (.notFound "Student not found")
  let courses := paidCourses db student.id schoolId
  return buildPaymentsDto rt env.now (paymentItems db rt courses) (paymentPlanItems db c courses)

def listPaymentsForCurrentUser (env : Env) (actor : Actor) : Except Failure StudentPaymentsDto :=
  if actor.role ≠ .student then
    return { payments := [], paymentPlans := [], summary := emptyPaymentsSummary }
  else listStudentPayments db rt c env actor actor.id {}

end

end OSK
