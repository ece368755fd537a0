import OskManager.Lib.Calls
import OskManager.Model.PaymentCommands
import OskManager.Students.OverduePayments

/-! Runs of changes of payments. Whatever managers do, a payment is paid exactly when it has a date
of payment, and no charge is lost or altered. A request that succeeds shows its own result. -/

namespace OSK

open Relational Sql
open SchoolAvailability (Collation)

/-! ### Charges -/

/-- A payment has a date of payment exactly when it is paid. -/
def Db.PaidIffDated (db : Db) : Prop :=
  ∀ p ∈ db.payments.rows, p.status = .paid ↔ p.paidAt.isSome = true

/-- What is charged, by which plan and since when. -/
structure Payment.SameCharge (p q : Payment) : Prop where
  id : q.id = p.id
  plan : q.paymentPlanId = p.paymentPlanId
  amount : q.amount = p.amount
  createdAt : q.createdAt = p.createdAt

/-- Every charge is still there. -/
def Db.KeepsCharges (db db' : Db) : Prop :=
  ∀ p ∈ db.payments.rows, ∃ q ∈ db'.payments.rows, p.SameCharge q

theorem Payment.SameCharge.refl (p : Payment) : p.SameCharge p := ⟨rfl, rfl, rfl, rfl⟩

theorem Payment.SameCharge.trans {p q r : Payment} (h : p.SameCharge q) (h' : q.SameCharge r) :
    p.SameCharge r :=
  ⟨h'.id.trans h.id, h'.plan.trans h.plan, h'.amount.trans h.amount,
    h'.createdAt.trans h.createdAt⟩

theorem Db.KeepsCharges.refl (db : Db) : db.KeepsCharges db := fun p hp => ⟨p, hp, .refl p⟩

theorem Db.KeepsCharges.trans {a b c : Db} (h : a.KeepsCharges b) (h' : b.KeepsCharges c) :
    a.KeepsCharges c := by
  intro p hp
  obtain ⟨q, hq, hpq⟩ := h p hp
  obtain ⟨r, hr, hqr⟩ := h' q hq
  exact ⟨r, hr, hpq.trans hqr⟩

/-- What a manager may do to a payment: its charge stays, and a date goes with being paid. -/
structure KeepsAccount (f : Payment → Payment) : Prop where
  charge : ∀ p : Payment, p.SameCharge (f p)
  dated : ∀ p : Payment, (p.status = .paid ↔ p.paidAt.isSome = true) →
    ((f p).status = .paid ↔ (f p).paidAt.isSome = true)

theorem keepsAccount_amended (dueDate : Option (Option Instant)) (method : Option (Option String)) :
    KeepsAccount (Payment.amended dueDate method) :=
  ⟨fun _ => ⟨rfl, rfl, rfl, rfl⟩, fun _ h => h⟩

theorem keepsAccount_settled (paidAt : Instant) : KeepsAccount (Payment.settled paidAt) :=
  ⟨fun _ => ⟨rfl, rfl, rfl, rfl⟩, fun _ _ => iff_of_true rfl rfl⟩

theorem keepsAccount_reopened : KeepsAccount Payment.reopened :=
  ⟨fun _ => ⟨rfl, rfl, rfl, rfl⟩, fun _ _ => iff_of_false PaymentStatus.noConfusion
    Bool.false_ne_true⟩

/-- The accounts of a school: dates go with being paid, and the column holds the amounts. -/
structure Db.Accounted (db : Db) : Prop where
  dated : db.PaidIffDated
  fit : AmountsFit db

section Writes

variable {env : Env} {db : Db}

theorem Db.Accounted.updatePayment (h : db.Accounted) {f : Payment → Payment} (hf : KeepsAccount f)
    (paymentId : Uuid) :
    (db.updatePayment paymentId f fun p => (hf.charge p).id).Accounted ∧
      db.KeepsCharges (db.updatePayment paymentId f fun p => (hf.charge p).id) := by
  refine ⟨⟨fun q hq => ?_, fun q hq => ?_⟩, fun p hp => ?_⟩
  · rcases Table.mem_updateMany_cases (fun p => (hf.charge p).id) hq with
      ⟨hold, _⟩ | ⟨p, hp, _, rfl⟩
    · exact h.dated q hold
    · exact hf.dated p (h.dated p hp)
  · rcases Table.mem_updateMany_cases (fun p => (hf.charge p).id) hq with
      ⟨hold, _⟩ | ⟨p, hp, _, rfl⟩
    · exact h.fit q hold
    · rw [(hf.charge p).amount]
      exact h.fit p hp
  · refine ⟨_, (Table.mem_updateMany _ _ _ (fun p => (hf.charge p).id) _).mpr ⟨p, hp, rfl⟩, ?_⟩
    split
    · exact hf.charge p
    · exact .refl p

theorem Db.Accounted.insertPayment (h : db.Accounted) {plan : Uuid} {amount : ℚ}
    (hpos : 0 < amount) (hfits : amount < 10 ^ 35) (dueDate : Option Instant)
    (method : Option String) : (db.insertPayment env plan amount dueDate method).Accounted ∧
      db.KeepsCharges (db.insertPayment env plan amount dueDate method) := by
  have hmem {q : Payment} : q ∈ (db.insertPayment env plan amount dueDate method).payments.rows ↔
    q ∈ db.payments.rows ∨ q = _ := Table.mem_insert db.payments _ (env.uuid_fresh _) q
  refine ⟨⟨fun q hq => ?_, fun q hq => ?_⟩, fun p hp => ⟨p, hmem.mpr (Or.inl hp), .refl p⟩⟩
  · rcases hmem.mp hq with hold | rfl
    · exact h.dated q hold
    · exact iff_of_false PaymentStatus.noConfusion Bool.false_ne_true
  · rcases hmem.mp hq with hold | rfl
    · exact h.fit q hold
    · rw [abs_of_pos hpos]
      exact hfits

end Writes

/-! ### Requests -/

namespace PaymentCall

def studentUserId : PaymentCall → Uuid
  | .create studentUserId _ | .update studentUserId _ _ | .markPaid studentUserId _ _
  | .markUnpaid studentUserId _ _ => studentUserId

def resource : PaymentCall → PaymentResource
  | .create _ input => .paymentPlan input.paymentPlanId
  | .update _ paymentId _ | .markPaid _ paymentId _ | .markUnpaid _ paymentId _ =>
    .payment paymentId

def schoolId : PaymentCall → Option Uuid
  | .create _ input => input.schoolId
  | .update _ _ input => input.schoolId
  | .markPaid _ _ input => input.schoolId
  | .markUnpaid _ _ input => input.schoolId

end PaymentCall

section Requests

variable {Num : Type} {rt : PaymentRuntime Num} {c : Collation} {env : Env} {actor : Actor}
  {db db' : Db}

/-- What an accepted request writes. -/
inductive PaymentWritten (env : Env) (db : Db) : PaymentCall → Db → Prop where
  | created (studentUserId : Uuid) (input : CreateStudentPaymentInput)
      (dueDate : Option Instant) (fits : input.amount.val < 10 ^ 35) :
      PaymentWritten env db (.create studentUserId input)
        (db.insertPayment env input.paymentPlanId input.amount.val dueDate input.method)
  | amended (studentUserId paymentId : Uuid) (input : UpdateStudentPaymentInput)
      (dueDate : Option (Option Instant)) :
      PaymentWritten env db (.update studentUserId paymentId input)
        (db.updatePayment paymentId (Payment.amended dueDate input.method) fun _ => rfl)
  | settled (studentUserId paymentId : Uuid) (input : MarkStudentPaymentPaidInput)
      (paidAt : Instant) : PaymentWritten env db (.markPaid studentUserId paymentId input)
        (db.updatePayment paymentId (Payment.settled paidAt) fun _ => rfl)
  | reopened (studentUserId paymentId : Uuid) (input : MarkStudentPaymentUnpaidInput) :
      PaymentWritten env db (.markUnpaid studentUserId paymentId input)
        (db.updatePayment paymentId Payment.reopened fun _ => rfl)

/-- The steps of an accepted request. -/
structure PaymentAccepted (rt : PaymentRuntime Num) (c : Collation) (env : Env) (actor : Actor)
    (db : Db) (call : PaymentCall) (dto : StudentPaymentsDto) (db' : Db) (schoolId : Uuid) :
    Prop where
  resolved : resolveStudentPaymentSchool db actor call.studentUserId call.resource call.schoolId =
    .ok schoolId
  written : PaymentWritten env db call db'
  listed : listStudentPayments db' rt c env actor call.studentUserId
    { schoolId := some schoolId } = .ok dto

theorem mutateStudentPayment_fails (userId : Uuid) (resource : PaymentResource)
    (requested : Option Uuid) (mutate : Service Unit) : Prog.FailsWithin (fun s t => t = s)
      (mutateStudentPayment rt c env actor userId resource requested mutate) :=
  Prog.FailsWithin.query_bind (R := fun s t => t = s)
    (f := fun _ => throwIf (actor.role ≠ .manager) _) (fun _ => rfl)
    fun _ => Prog.FailsWithin.unchanged _

theorem mutateStudentPayment_ok {userId : Uuid} {resource : PaymentResource}
    {requested : Option Uuid} {mutate : Service Unit} {dto : StudentPaymentsDto}
    (h : mutateStudentPayment rt c env actor userId resource requested mutate db = (.ok dto, db')) :
    ∃ schoolId, resolveStudentPaymentSchool db actor userId resource requested = .ok schoolId ∧
      mutate db = (.ok (), db') ∧
      listStudentPayments db' rt c env actor userId { schoolId := some schoolId } = .ok dto := by
  rw [mutateStudentPayment, Prog.lift_bind_eq_ok] at h
  obtain ⟨_, -, h⟩ := h
  rw [Prog.transaction_eq_ok, Prog.query_bind_eq_ok] at h
  obtain ⟨schoolId, hresolved, h⟩ := h
  rw [Prog.bind_eq_ok] at h
  obtain ⟨_, t, hmutate, h⟩ := h
  obtain ⟨hlisted, rfl⟩ := Prog.query_eq_ok.mp h
  exact ⟨schoolId, hresolved, hmutate, hlisted⟩

theorem PaymentCall.run_fails (rt : PaymentRuntime Num) (c : Collation) (call : PaymentCall) :
    Prog.FailsWithin (fun s t => t = s) (call.run rt c env actor) := by
  cases call with
  | create | update | markPaid | markUnpaid => exact mutateStudentPayment_fails _ _ _ _

theorem PaymentCall.run_ok {call : PaymentCall} {dto : StudentPaymentsDto}
    (h : call.run rt c env actor db = (.ok dto, db')) :
    ∃ schoolId, PaymentAccepted rt c env actor db call dto db' schoolId := by
  cases call with
  | create userId input =>
    obtain ⟨schoolId, hresolved, hmutate, hlisted⟩ := mutateStudentPayment_ok h
    rw [Prog.lift_bind_eq_ok] at hmutate
    obtain ⟨dueDate, -, hmutate⟩ := hmutate
    rw [Prog.lift_bind_eq_ok] at hmutate
    obtain ⟨_, hfits, hmutate⟩ := hmutate
    obtain ⟨-, rfl⟩ := Prog.write_eq_ok.mp hmutate
    exact ⟨schoolId, hresolved, .created userId input dueDate
      (not_le.mp ((throwIf_eq_ok _ _ _).mp hfits)), hlisted⟩
  | update userId paymentId input =>
    obtain ⟨schoolId, hresolved, hmutate, hlisted⟩ := mutateStudentPayment_ok h
    rw [Prog.lift_bind_eq_ok] at hmutate
    obtain ⟨dueDate, -, hmutate⟩ := hmutate
    obtain ⟨-, rfl⟩ := Prog.write_eq_ok.mp hmutate
    exact ⟨schoolId, hresolved, .amended userId paymentId input dueDate, hlisted⟩
  | markPaid userId paymentId input =>
    obtain ⟨schoolId, hresolved, hmutate, hlisted⟩ := mutateStudentPayment_ok h
    rw [Prog.lift_bind_eq_ok] at hmutate
    obtain ⟨paidAt, -, hmutate⟩ := hmutate
    obtain ⟨-, rfl⟩ := Prog.write_eq_ok.mp hmutate
    exact ⟨schoolId, hresolved, .settled userId paymentId input _, hlisted⟩
  | markUnpaid userId paymentId input =>
    obtain ⟨schoolId, hresolved, hmutate, hlisted⟩ := mutateStudentPayment_ok h
    obtain ⟨-, rfl⟩ := Prog.write_eq_ok.mp hmutate
    exact ⟨schoolId, hresolved, .reopened userId paymentId input, hlisted⟩

theorem PaymentWritten.accounted {call : PaymentCall} (h : PaymentWritten env db call db')
    (hdb : db.Accounted) : db'.Accounted ∧ db.KeepsCharges db' := by
  cases h with
  | created userId input dueDate fits =>
    exact hdb.insertPayment input.amount.property fits dueDate input.method
  | amended userId paymentId input dueDate =>
    exact hdb.updatePayment (keepsAccount_amended dueDate input.method) paymentId
  | settled userId paymentId input paidAt =>
    exact hdb.updatePayment (keepsAccount_settled paidAt) paymentId
  | reopened userId paymentId input => exact hdb.updatePayment keepsAccount_reopened paymentId

/-! ### Who may change a payment -/

/-- The manager of the school of the course, on behalf of a student who is enrolled there. -/
structure MayChange (db : Db) (actor : Actor) (userId : Uuid) (resource : PaymentResource)
    (course : Course) (student : StudentProfile) : Prop where
  role : actor.role = .manager
  owned : ∃ school ∈ db.drivingSchools.rows, school.id = course.schoolId ∧
    school.ownerId = actor.id ∧ school.deletedAt = none
  student_found : student ∈ db.studentProfiles.rows ∧ student.userId = userId
  course_found : courseOfResource db student.id resource = .ok course

theorem resolveStudentPaymentSchool_ok {userId schoolId : Uuid} {resource : PaymentResource}
    {requested : Option Uuid}
    (h : resolveStudentPaymentSchool db actor userId resource requested = .ok schoolId) :
    ∃ course student, MayChange db actor userId resource course student ∧
      schoolId = course.schoolId := by
  simp only [resolveStudentPaymentSchool, except_bind_eq_ok, throwIf_eq_ok, orThrow_eq_ok, ne_eq,
    not_not] at h
  obtain ⟨_, hrole, student, hstudent, course, hcourse, _, haccess, _, _, h⟩ := h
  cases h
  obtain ⟨hmem, hwhere⟩ := Table.mem_of_findFirst hstudent
  have huser : student.userId = userId := by
    have hselects := of_decide_eq_true hwhere
    simp only [profileOfUser, selects_all, List.forall_mem_cons, selects_column,
      decide_eq_true_eq] at hselects
    exact hselects.1
  refine ⟨course, student, ⟨hrole, ?_, ⟨hmem, huser⟩, hcourse⟩, rfl⟩
  rw [assertActorCanListStudentsForSchool, hrole] at haccess
  simp only [throwIf_eq_ok, Bool.not_eq_true, Option.isNone_eq_false_iff,
    Table.findFirst_isSome, decide_eq_true_eq] at haccess
  exact haccess

/-! ### What an accepted request shows -/

/-- The student is enrolled in the course of the plan, and the course is not deleted. -/
structure CourseOfPlan (db : Db) (studentId : Uuid) (plan : PaymentPlan) (course : Course) :
    Prop where
  plan_mem : plan ∈ db.paymentPlans.rows
  found : db.courses.findUnique plan.courseId = some course
  live : course.deletedAt = none
  enrolled : ∃ p ∈ db.courseParticipants.rows, p.courseId = course.id ∧ p.studentId = studentId

theorem courseOfPlan_eq_some {studentId planId : Uuid} {course : Course} :
    courseOfPlan db studentId planId = some course ↔
      ∃ plan, plan.id = planId ∧ CourseOfPlan db studentId plan course := by
  have hwhere : Selects (courseWhere db studentId) course ↔ course.deletedAt = none ∧
      ∃ p ∈ db.courseParticipants.rows, p.courseId = course.id ∧ p.studentId = studentId := by
    simp only [courseWhere, selects_all, List.forall_mem_cons, selects_isNull, selects_present,
      selects_column, participantsOf, Table.mem_findMany, List.not_mem_nil, false_implies,
      implies_true, and_true, decide_eq_true_eq, and_assoc]
  simp only [courseOfPlan, Option.bind_eq_bind, Option.bind_eq_some_iff, Option.filter_eq_some_iff,
    decide_eq_true_eq, hwhere]
  constructor
  · intro h
    obtain ⟨plan, hplan, hfound, hlive, henrolled⟩ := h
    exact ⟨plan, Table.key_of_findUnique hplan, Table.mem_of_findUnique hplan, hfound, hlive,
      henrolled⟩
  · intro h
    obtain ⟨plan, rfl, h⟩ := h
    exact ⟨plan, Table.findUnique_of_mem h.plan_mem, h.found, h.live, h.enrolled⟩

theorem listStudentPayments_payments {userId schoolId : Uuid} {dto : StudentPaymentsDto}
    (hrole : actor.role = .manager)
    (h : listStudentPayments db rt c env actor userId { schoolId := some schoolId } = .ok dto) :
    ∃ s ∈ db.studentProfiles.rows, s.userId = userId ∧
      dto.payments = paymentItems db rt (paidCourses db s.id (some schoolId)) := by
  simp only [listStudentPayments, hrole, reduceCtorEq, ne_eq, not_false_eq_true, and_false,
    if_true, if_false, pure_bind, except_bind_eq_ok, orThrow_eq_ok] at h
  obtain ⟨_, -, _, -, s, hs, h⟩ := h
  obtain ⟨hmem, hwhere⟩ := Table.mem_of_findFirst hs
  have hselects := of_decide_eq_true hwhere
  simp only [studentWhere, profileOfUser, selects_all, List.forall_mem_cons, selects_column,
    decide_eq_true_eq] at hselects
  cases h
  exact ⟨s, hmem, hselects.1.1, rfl⟩

/-- A payment of the student's course is in the list. -/
theorem payment_listed (db : Db) {userId : Uuid} {dto : StudentPaymentsDto}
    {student : StudentProfile} {plan : PaymentPlan} {course : Course} {p : Payment}
    (hunique : UniqueProfiles db)
    (hrole : actor.role = .manager) (hstudent : student ∈ db.studentProfiles.rows)
    (huser : student.userId = userId) (hplan : CourseOfPlan db student.id plan course)
    (hp : p ∈ db.payments.rows) (hpaid : p.paymentPlanId = plan.id)
    (h : listStudentPayments db rt c env actor userId { schoolId := some course.schoolId } =
      .ok dto) : paymentItem rt course plan p ∈ dto.payments := by
  obtain ⟨s, hs, huser', hpayments⟩ := listStudentPayments_payments hrole h
  obtain rfl : s = student := hunique s hs student hstudent (huser'.trans huser.symm)
  obtain ⟨enrolment, henrolment, hcourse, hown⟩ := hplan.enrolled
  have hid : course.id = plan.courseId := Table.key_of_findUnique hplan.found
  rw [hpayments]
  refine mem_paymentItems.mpr ⟨course, mem_paidCourses.mpr ⟨enrolment, ?_, ?_, ?_⟩, plan, ?_, p, ?_,
    rfl⟩
  · exact (Table.mem_findMany ..).mpr ⟨henrolment, decide_eq_true hown⟩
  · rw [hcourse, hid]
    exact hplan.found
  · simp [scopedCourse, hplan.live]
  · exact (Table.mem_findMany ..).mpr ⟨hplan.plan_mem, decide_eq_true hid.symm⟩
  · exact (Table.mem_findMany ..).mpr ⟨hp, decide_eq_true hpaid⟩

/-- The payment that a request was about, as the request wants it. -/
def PaymentCall.Result (db : Db) (p : Payment) : PaymentCall → Prop
  | .create _ input => p.id ∉ db.payments.keys ∧ p.paymentPlanId = input.paymentPlanId ∧
      p.amount = input.amount.val ∧ p.status = .pending
  | .update _ paymentId input => p.id = paymentId ∧ ∀ method, input.method = some method →
      p.method = method
  | .markPaid _ paymentId _ => p.id = paymentId ∧ p.status = .paid
  | .markUnpaid _ paymentId _ => p.id = paymentId ∧ p.status = .pending

/-- What an accepted request does: it writes one payment. -/
structure WritesPayment (db db' : Db) (call : PaymentCall) (p : Payment) : Prop where
  stored : p ∈ db'.payments.rows
  result : call.Result db p
  others : ∀ id, id ≠ p.id → db'.payments.findUnique id = db.payments.findUnique id
  only : ∃ t, db' = { db with payments := t }

theorem writesPayment_update {f : Payment → Payment} (hf : ∀ p, (f p).id = p.id)
    {call : PaymentCall} {p : Payment} (hp : p ∈ db.payments.rows)
    (hresult : call.Result db (f p)) :
    WritesPayment db (db.updatePayment p.id f hf) call (f p) where
  stored := (Table.mem_updateMany _ _ _ hf _).mpr ⟨p, hp, by rw [if_pos (decide_eq_true rfl)]⟩
  result := hresult
  others id hid := by
    have hne : id ≠ p.id := hf p ▸ hid
    exact (Table.findUnique_update db.payments p.id f hf id).trans (if_neg hne)
  only := ⟨_, rfl⟩

theorem courseOfResource_eq_ok {studentId : Uuid} {resource : PaymentResource} {course : Course}
    (h : courseOfResource db studentId resource = .ok course) :
    ∃ plan, CourseOfPlan db studentId plan course ∧ match resource with
      | .paymentPlan id => plan.id = id
      | .payment id => ∃ p ∈ db.payments.rows, p.id = id ∧ p.paymentPlanId = plan.id := by
  cases resource with
  | paymentPlan id =>
    obtain ⟨plan, hid, hplan⟩ := courseOfPlan_eq_some.mp ((orThrow_eq_ok _ _ _).mp h)
    exact ⟨plan, hplan, hid⟩
  | payment id =>
    obtain ⟨p, hp, hcourse⟩ := Option.bind_eq_some_iff.mp ((orThrow_eq_ok _ _ _).mp h)
    obtain ⟨plan, hid, hplan⟩ := courseOfPlan_eq_some.mp hcourse
    exact ⟨plan, hplan, p, Table.mem_of_findUnique hp, Table.key_of_findUnique hp, hid.symm⟩

/-- An accepted request writes one payment of the plan it was accepted for. -/
theorem PaymentWritten.one {call : PaymentCall} (h : PaymentWritten env db call db')
    {studentId : Uuid} {course : Course}
    (hcourse : courseOfResource db studentId call.resource = .ok course) :
    ∃ p plan, WritesPayment db db' call p ∧ CourseOfPlan db studentId plan course ∧
      p.paymentPlanId = plan.id := by
  obtain ⟨plan, hplan, hresource⟩ := courseOfResource_eq_ok hcourse
  cases h with
  | created userId input dueDate fits =>
    have hfresh := env.uuid_fresh db.payments.keys
    refine ⟨_, plan, ⟨(Table.mem_insert db.payments _ hfresh _).mpr (Or.inr rfl),
      ⟨hfresh, rfl, rfl, rfl⟩, fun id hid => ?_, _, rfl⟩, hplan, hresource.symm⟩
    exact (Table.findUnique_insert db.payments _ hfresh id).trans (if_neg hid)
  | amended userId paymentId input dueDate =>
    obtain ⟨p, hp, rfl, hid⟩ := hresource
    refine ⟨p.amended dueDate input.method, plan, writesPayment_update _ hp ⟨rfl, ?_⟩, hplan, hid⟩
    intro method hmethod
    rw [Payment.amended, hmethod]
    rfl
  | settled userId paymentId input paidAt =>
    obtain ⟨p, hp, rfl, hid⟩ := hresource
    exact ⟨p.settled paidAt, plan, writesPayment_update _ hp ⟨rfl, rfl⟩, hplan, hid⟩
  | reopened userId paymentId input =>
    obtain ⟨p, hp, rfl, hid⟩ := hresource
    exact ⟨p.reopened, plan, writesPayment_update _ hp ⟨rfl, rfl⟩, hplan, hid⟩

theorem PaymentAccepted.shown {call : PaymentCall} {dto : StudentPaymentsDto} {schoolId : Uuid}
    (h : PaymentAccepted rt c env actor db call dto db' schoolId) (hunique : UniqueProfiles db) :
    ∃ course student plan p, MayChange db actor call.studentUserId call.resource course student ∧
      WritesPayment db db' call p ∧ p.paymentPlanId = plan.id ∧
      paymentItem rt course plan p ∈ dto.payments := by
  obtain ⟨course, student, hmay, rfl⟩ := resolveStudentPaymentSchool_ok h.resolved
  obtain ⟨p, plan, hwrites, hplan, hid⟩ := h.written.one hmay.course_found
  refine ⟨course, student, plan, p, hmay, hwrites, hid, ?_⟩
  have hlisted := h.listed
  have hstored := hwrites.stored
  obtain ⟨t, rfl⟩ := hwrites.only
  exact payment_listed { db with payments := t } hunique hmay.role hmay.student_found.1
    hmay.student_found.2 ⟨hplan.plan_mem, hplan.found, hplan.live, hplan.enrolled⟩ hstored hid
    hlisted

/-! ### Runs -/

/-- A request of an actor at a time of its own. -/
structure PaymentTurn where
  env : Env
  actor : Actor
  call : PaymentCall

/-- Any requests, one after the other. -/
def paymentCalls (rt : PaymentRuntime Num) (c : Collation) : Calls PaymentTurn Db :=
  .unrestricted fun turn s => (turn.call.run rt c turn.env turn.actor s).2

theorem paymentTurn_keeps (rt : PaymentRuntime Num) (c : Collation) (turn : PaymentTurn)
    (h : db.Accounted) :
    (turn.call.run rt c turn.env turn.actor db).2.Accounted ∧
      db.KeepsCharges (turn.call.run rt c turn.env turn.actor db).2 := by
  rcases (turn.call.run_fails rt c).cases db with ⟨dto, hok⟩ | hs
  · obtain ⟨_, haccepted⟩ := PaymentCall.run_ok hok
    exact haccepted.written.accounted h
  · rw [hs]
    exact ⟨h, .refl db⟩

/-- Whatever requests have been made: dates go with being paid, the column holds the amounts and no
charge is lost. The next request is refused and changes nothing, or it is one of the manager of the
school and the answer lists the one payment that it has written. -/
theorem payments_accounted (rt : PaymentRuntime Num) (c : Collation) (h : db.Accounted)
    (hrun : (paymentCalls rt c).Run db db') :
    db'.Accounted ∧ db.KeepsCharges db' ∧ ∀ turn : PaymentTurn,
      (∃ e, turn.call.run rt c turn.env turn.actor db' = (.error e, db')) ∨
      ∃ dto db'' schoolId, turn.call.run rt c turn.env turn.actor db' = (.ok dto, db'') ∧
        listStudentPayments db'' rt c turn.env turn.actor turn.call.studentUserId
          { schoolId := some schoolId } = .ok dto ∧
        (UniqueProfiles db' → ∃ course student plan p,
          MayChange db' turn.actor turn.call.studentUserId turn.call.resource course student ∧
          WritesPayment db' db'' turn.call p ∧ p.paymentPlanId = plan.id ∧
          paymentItem rt course plan p ∈ dto.payments) := by
  have hkeeps : db'.Accounted ∧ db.KeepsCharges db' := by
    refine Calls.Run.invariant (I := fun s => s.Accounted ∧ db.KeepsCharges s) ?_ ⟨h, .refl db⟩ hrun
    intro turn s _ hs
    obtain ⟨haccounted, hcharges⟩ := paymentTurn_keeps rt c turn hs.1
    exact ⟨haccounted, hs.2.trans hcharges⟩
  refine ⟨hkeeps.1, hkeeps.2, fun turn => ?_⟩
  rcases hcall : turn.call.run rt c turn.env turn.actor db' with ⟨e | dto, db''⟩
  · rw [turn.call.run_fails rt c db' e db'' hcall]
    exact Or.inl ⟨e, rfl⟩
  · obtain ⟨schoolId, haccepted⟩ := PaymentCall.run_ok hcall
    exact Or.inr ⟨dto, db'', schoolId, rfl, haccepted.listed, fun hunique =>
      haccepted.shown hunique⟩

end Requests

namespace SmallSchool

/-- The manager writes down how the student will pay. -/
def methodNoted : PaymentTurn :=
  ⟨envAt (clock 5 9 0), manager, .update 3 91 { method := some (some "BLIK") }⟩

def withMethod : Db := (paymentCalls wholeNumbers ordinal).after [methodNoted] withInstalment

theorem uniqueProfiles_withMethod : UniqueProfiles withMethod := uniqueProfiles_withInstalment

end SmallSchool

open SmallSchool in
/-- An hour later the manager marks the payment as paid and sees it so. -/
theorem payments_accounted_instalment :
    withMethod.payments.rows.map Payment.method = [some "BLIK"] ∧ withMethod.Accounted ∧
    ∃ dto db', (PaymentCall.markPaid 3 91 {}).run wholeNumbers ordinal (envAt (clock 5 10 0))
        manager withMethod = (.ok dto, db') ∧
      ∃ item ∈ dto.payments, item.id = 91 ∧ item.status = .paid := by
  have haccounted : withInstalment.Accounted :=
    ⟨List.forall_mem_singleton.mpr (by decide), List.forall_mem_singleton.mpr instalment_fits⟩
  obtain ⟨hkept, -, hnext⟩ := payments_accounted wholeNumbers ordinal haccounted
    (Calls.unrestricted_run_after _ [methodNoted] withInstalment)
  refine ⟨by decide, hkept, ?_⟩
  rcases hnext ⟨envAt (clock 5 10 0), manager, .markPaid 3 91 {}⟩ with
    ⟨e, hrefused⟩ | ⟨dto, db', _, hok, -, hshown⟩
  · have hruns : ((PaymentCall.markPaid 3 91 {}).run wholeNumbers ordinal (envAt (clock 5 10 0))
        manager withMethod).1.isOk = true := by decide
    rw [withMethod, paymentCalls, hrefused] at hruns
    cases hruns
  · obtain ⟨course, student, plan, p, -, hwrites, -, hitem⟩ := hshown uniqueProfiles_withMethod
    refine ⟨dto, db', hok, _, hitem, hwrites.result.1, ?_⟩
    rw [paymentItem, mapPaymentStatus, hwrites.result.2]
    rfl

end OSK
