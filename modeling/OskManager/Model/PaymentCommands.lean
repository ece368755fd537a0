import OskManager.Model.StudentPayments
import OskManager.Model.Vehicles

/-! A manager's changes of payments: `students/paymentsCommands.ts` with `paymentsAccess.ts`. A
payment belongs to a plan of a course, and whoever manages the school of the course changes it for
any student enrolled there. -/

namespace OSK

open Relational Sql
open SchoolAvailability (Collation)

/-! ### Access -/

inductive PaymentResource where
  | paymentPlan (id : Uuid)
  | payment (id : Uuid)

def participantsOf (db : Db) (course : Course) : List CourseParticipant :=
  db.courseParticipants.findMany fun p => decide (p.courseId = course.id)

/-- `{ deletedAt: null, participants: { some: { studentId } } }`. -/
def courseWhere (db : Db) (studentId : Uuid) : Cond Course :=
  all [isNull Course.deletedAt, present (participantsOf db)
    (column CourseParticipant.studentId fun v => decide (v = studentId))]

def courseOfPlan (db : Db) (studentId planId : Uuid) : Option Course := do
  let plan ← db.paymentPlans.findUnique planId
  (db.courses.findUnique plan.courseId).filter fun course =>
    decide (Selects (courseWhere db studentId) course)

def courseOfResource (db : Db) (studentId : Uuid) : PaymentResource → Except Failure Course
  | .paymentPlan id => orThrow (courseOfPlan db studentId id) (.notFound "Payment plan not found")
  | .payment id => orThrow ((db.payments.findUnique id).bind fun payment =>
      courseOfPlan db studentId payment.paymentPlanId) (.notFound "Payment not found")

def resolveStudentPaymentSchool (db : Db) (actor : Actor) (studentUserId : Uuid)
    (resource : PaymentResource) (requestedSchoolId : Option Uuid) : Except Failure Uuid := do
  throwIf (actor.role ≠ .manager) (.forbidden "Forbidden")
  let student ← orThrow (db.studentProfiles.findFirst fun s =>
    decide (Selects (profileOfUser db studentUserId) s)) (.notFound "Student not found")
  let course ← courseOfResource db student.id resource
  assertActorCanListStudentsForSchool db actor course.schoolId
  throwIf (requestedSchoolId.any (fun id => decide (id ≠ course.schoolId)) = true)
    (.notFound "Payment school does not match")
  return course.schoolId

/-! ### Writes -/

section

variable {Num : Type} (rt : PaymentRuntime Num) (c : Collation) (env : Env)

/-- An empty text is no date. The client of the database refuses an invalid one. -/
def parseDateOnly (value : Option String) : Except Failure (Option Instant) :=
  match value.filter fun text => decide (text ≠ "") with
  | none => .ok none
  | some text => some <$> orThrow (newDate rt (text ++ "T00:00:00.000Z"))
      (.other "Provided Date object is invalid. Expected Date.")

/-- Of an absent key there is nothing to write. -/
def parsePatchedDate : Option (Option String) → Except Failure (Option (Option Instant))
  | none => .ok none
  | some value => some <$> parseDateOnly rt value

def Db.insertPayment (db : Db) (paymentPlanId : Uuid) (amount : ℚ) (dueDate : Option Instant)
    (method : Option String) : Db :=
  { db with
    payments := db.payments.insert
      { id := env.uuid db.payments.keys, paymentPlanId, amount
        dueDate := dueDate.map dateToYYYYMMDD, method, createdAt := env.now } (env.uuid_fresh _) }

def Db.updatePayment (db : Db) (paymentId : Uuid) (f : Payment → Payment)
    (hf : ∀ p, (f p).id = p.id) : Db :=
  { db with payments := db.payments.update paymentId f hf }

def Payment.amended (dueDate : Option (Option Instant)) (method : Option (Option String))
    (p : Payment) : Payment :=
  { p with
    dueDate := dueDate.elim p.dueDate fun date => date.map dateToYYYYMMDD
    method := method.getD p.method }

def Payment.settled (paidAt : Instant) (p : Payment) : Payment :=
  { p with status := .paid, paidAt := some paidAt }

def Payment.reopened (p : Payment) : Payment := { p with status := .pending, paidAt := none }

def mutateStudentPayment (actor : Actor) (studentUserId : Uuid) (resource : PaymentResource)
    (requestedSchoolId : Option Uuid) (mutate : Service Unit) : Service StudentPaymentsDto := do
  throwIf (actor.role ≠ .manager) (Failure.forbidden "Forbidden")
  Prog.transaction do
    let schoolId ← Prog.query fun db =>
      resolveStudentPaymentSchool db actor studentUserId resource requestedSchoolId
    mutate
    Prog.query fun db =>
      listStudentPayments db rt c env actor studentUserId { schoolId := some schoolId }

/-- The request schema admits positive amounts only. -/
structure CreateStudentPaymentInput where
  schoolId : Option Uuid := none
  paymentPlanId : Uuid
  amount : {amount : ℚ // 0 < amount}
  dueDate : Option String := none
  method : Option String := none

/-- The column has 35 digits before the point. -/
def createStudentPaymentForManager (actor : Actor) (studentUserId : Uuid)
    (input : CreateStudentPaymentInput) : Service StudentPaymentsDto :=
  mutateStudentPayment rt c env actor studentUserId (.paymentPlan input.paymentPlanId)
    input.schoolId do
      let dueDate ← parseDateOnly rt input.dueDate
      throwIf (10 ^ 35 ≤ input.amount.val) (Failure.other "numeric field overflow")
      Prog.write fun db =>
        db.insertPayment env input.paymentPlanId input.amount.val dueDate input.method

/-- An outer `none` is an absent key. -/
structure UpdateStudentPaymentInput where
  schoolId : Option Uuid := none
  dueDate : Option (Option String) := none
  method : Option (Option String) := none

def updateStudentPaymentForManager (actor : Actor) (studentUserId paymentId : Uuid)
    (input : UpdateStudentPaymentInput) : Service StudentPaymentsDto :=
  mutateStudentPayment rt c env actor studentUserId (.payment paymentId) input.schoolId do
    let dueDate ← parsePatchedDate rt input.dueDate
    Prog.write fun db => db.updatePayment paymentId (Payment.amended dueDate input.method)
      fun _ => rfl

structure MarkStudentPaymentPaidInput where
  schoolId : Option Uuid := none
  paidAt : Option String := none

def markStudentPaymentPaidForManager (actor : Actor) (studentUserId paymentId : Uuid)
    (input : MarkStudentPaymentPaidInput) : Service StudentPaymentsDto :=
  mutateStudentPayment rt c env actor studentUserId (.payment paymentId) input.schoolId do
    let paidAt ← parseDateOnly rt input.paidAt
    Prog.write fun db => db.updatePayment paymentId (Payment.settled (paidAt.getD env.now))
      fun _ => rfl

structure MarkStudentPaymentUnpaidInput where
  schoolId : Option Uuid := none

def markStudentPaymentUnpaidForManager (actor : Actor) (studentUserId paymentId : Uuid)
    (input : MarkStudentPaymentUnpaidInput) : Service StudentPaymentsDto :=
  mutateStudentPayment rt c env actor studentUserId (.payment paymentId) input.schoolId
    (Prog.write fun db => db.updatePayment paymentId Payment.reopened fun _ => rfl)

/-! ### Requests -/

/-- A request to change payments, with its arguments. -/
inductive PaymentCall where
  | create (studentUserId : Uuid) (input : CreateStudentPaymentInput)
  | update (studentUserId paymentId : Uuid) (input : UpdateStudentPaymentInput)
  | markPaid (studentUserId paymentId : Uuid) (input : MarkStudentPaymentPaidInput)
  | markUnpaid (studentUserId paymentId : Uuid) (input : MarkStudentPaymentUnpaidInput)

def PaymentCall.run (actor : Actor) : PaymentCall → Service StudentPaymentsDto
  | .create studentUserId input =>
    createStudentPaymentForManager rt c env actor studentUserId input
  | .update studentUserId paymentId input =>
    updateStudentPaymentForManager rt c env actor studentUserId paymentId input
  | .markPaid studentUserId paymentId input =>
    markStudentPaymentPaidForManager rt c env actor studentUserId paymentId input
  | .markUnpaid studentUserId paymentId input =>
    markStudentPaymentUnpaidForManager rt c env actor studentUserId paymentId input

end

end OSK
