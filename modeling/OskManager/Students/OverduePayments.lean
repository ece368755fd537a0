import OskManager.Schedule.EligibleStudents
import OskManager.Students.IsoDates
import OskManager.Students.ListFilters
import OskManager.Model.StudentPayments
import OskManager.Sample.SmallSchool

/-! The summary of a student's payments. It counts every payment once and names the next date that
something is due, and a student is in the overdue view of a school exactly when the summary of the
payments in this school has an overdue one. -/

namespace OSK

open Relational Sql
open SchoolAvailability (Collation)

section

variable {Num : Type} (rt : PaymentRuntime Num)

/-! ### The summary -/

def paidItems (payments : List StudentPaymentItemDto) : List StudentPaymentItemDto :=
  payments.filter fun p => decide (p.status = .paid)

def unpaidItems (payments : List StudentPaymentItemDto) : List StudentPaymentItemDto :=
  payments.filter fun p => decide (p.status ≠ .paid)

/-- The amounts, added up in the order of the list. -/
def totalAmount (payments : List StudentPaymentItemDto) : Num :=
  payments.foldl (fun total p => rt.add total (rt.number p.amount)) rt.zero

/-- The payment was due before the day began. -/
def dueBefore (today : Instant) (payment : StudentPaymentItemDto) : Bool :=
  (dueTime rt payment).any fun t => decide (t < today)

/-- The earliest time at which one of the payments is due today or later, and its date. -/
def NextDue (today : Instant) (payments : List StudentPaymentItemDto) (time : Option Instant)
    (date : Option String) : Prop :=
  match time with
  | none => date = none ∧ ∀ p ∈ payments, ∀ t, dueTime rt p = some t → t < today
  | some next => today ≤ next ∧ (∃ p ∈ payments, dueTime rt p = some next ∧ p.dueDate = date) ∧
      ∀ p ∈ payments, ∀ t, dueTime rt p = some t → today ≤ t → next ≤ t

/-- The variables of the loop after these payments. -/
structure SumsOf (today : Instant) (payments : List StudentPaymentItemDto)
    (sums : PaymentSums Num) : Prop where
  paid : sums.paidAmount = totalAmount rt (paidItems payments)
  unpaid : sums.unpaidAmount = totalAmount rt (unpaidItems payments)
  overdue : sums.overdueAmount =
    totalAmount rt ((unpaidItems payments).filter (dueBefore rt today))
  count : sums.overdueCount = (unpaidItems payments).countP (dueBefore rt today)
  next : NextDue rt today (unpaidItems payments) sums.nextDueTime sums.nextDueDate

variable {rt} {today : Instant} {payments : List StudentPaymentItemDto} {sums : PaymentSums Num}
  {payment : StudentPaymentItemDto}

theorem totalAmount_concat : totalAmount rt (payments ++ [payment]) =
    rt.add (totalAmount rt payments) (rt.number payment.amount) := List.foldl_concat ..

theorem paidItems_concat : paidItems (payments ++ [payment]) =
    if payment.status = .paid then paidItems payments ++ [payment] else paidItems payments := by
  rw [paidItems, List.filter_append, List.filter_singleton]
  split_ifs with h <;> simp [h, paidItems]

theorem unpaidItems_concat : unpaidItems (payments ++ [payment]) =
    if payment.status = .paid then unpaidItems payments else unpaidItems payments ++ [payment] := by
  rw [unpaidItems, List.filter_append, List.filter_singleton]
  split_ifs with h <;> simp [h, unpaidItems]

/-! ### The next due date -/

/-- A payment that is not due today or later, or not before those there are, changes nothing. -/
theorem NextDue.keep {time : Option Instant} {date : Option String}
    (h : NextDue rt today payments time date)
    (hkeep : ∀ t, dueTime rt payment = some t → today ≤ t → ∃ next, time = some next ∧ next ≤ t) :
    NextDue rt today (payments ++ [payment]) time date := by
  cases time with
  | none =>
    refine ⟨h.1, fun p hp t ht => ?_⟩
    rcases List.mem_append.mp hp with hp | hp
    · exact h.2 p hp t ht
    · by_contra hfrom
      obtain ⟨next, hnext, -⟩ := hkeep t (List.mem_singleton.mp hp ▸ ht) (not_lt.mp hfrom)
      cases hnext
  | some next =>
    obtain ⟨htoday, ⟨p, hp, hnext⟩, hleast⟩ := h
    refine ⟨htoday, ⟨p, List.mem_append_left _ hp, hnext⟩, fun q hq t ht hfrom => ?_⟩
    rcases List.mem_append.mp hq with hq | hq
    · exact hleast q hq t ht hfrom
    · obtain ⟨_, ⟨⟩, hle⟩ := hkeep t (List.mem_singleton.mp hq ▸ ht) hfrom
      exact hle

/-- A payment that is due earlier than those before takes their place. -/
theorem NextDue.earlier {time : Option Instant} {date : Option String} {due : Instant}
    (h : NextDue rt today payments time date) (hdue : dueTime rt payment = some due)
    (hfrom : today ≤ due) (hearlier : ∀ next, time = some next → due < next) :
    NextDue rt today (payments ++ [payment]) (some due) payment.dueDate := by
  refine ⟨hfrom, ⟨payment, by simp, hdue, rfl⟩, fun q hq t ht hfrom' => ?_⟩
  rcases List.mem_append.mp hq with hq | hq
  · cases time with
    | none => exact absurd (h.2 q hq t ht) hfrom'.not_gt
    | some next => exact (hearlier next rfl).le.trans (h.2.2 q hq t ht hfrom')
  · rw [List.mem_singleton.mp hq, hdue] at ht
    exact (Option.some.inj ht).le

/-! ### The loop -/

theorem SumsOf.addPaid (h : SumsOf rt today payments sums) (hpaid : payment.status = .paid) :
    SumsOf rt today (payments ++ [payment])
      { sums with paidAmount := rt.add sums.paidAmount (rt.number payment.amount) } := by
  have hmore : paidItems (payments ++ [payment]) = paidItems payments ++ [payment] := by
    rw [paidItems_concat, if_pos hpaid]
  have hsame : unpaidItems (payments ++ [payment]) = unpaidItems payments := by
    rw [unpaidItems_concat, if_pos hpaid]
  exact {
    paid := by rw [hmore, totalAmount_concat, ← h.paid]
    unpaid := by rw [hsame, ← h.unpaid]
    overdue := by rw [hsame, ← h.overdue]
    count := by rw [hsame, ← h.count]
    next := by
      rw [hsame]
      exact h.next }

theorem SumsOf.addUnpaid {sums' : PaymentSums Num} (h : SumsOf rt today payments sums)
    (hunpaid : payment.status ≠ .paid) (hpaidAmount : sums'.paidAmount = sums.paidAmount)
    (hunpaidAmount : sums'.unpaidAmount = rt.add sums.unpaidAmount (rt.number payment.amount))
    (hoverdue : sums'.overdueAmount = if dueBefore rt today payment = true then
      rt.add sums.overdueAmount (rt.number payment.amount) else sums.overdueAmount)
    (hcount : sums'.overdueCount =
      if dueBefore rt today payment = true then sums.overdueCount + 1 else sums.overdueCount)
    (hnext : NextDue rt today (unpaidItems payments ++ [payment]) sums'.nextDueTime
      sums'.nextDueDate) : SumsOf rt today (payments ++ [payment]) sums' := by
  have hsame : paidItems (payments ++ [payment]) = paidItems payments := by
    rw [paidItems_concat, if_neg hunpaid]
  have hmore : unpaidItems (payments ++ [payment]) = unpaidItems payments ++ [payment] := by
    rw [unpaidItems_concat, if_neg hunpaid]
  constructor
  · rw [hpaidAmount, hsame, ← h.paid]
  · rw [hunpaidAmount, hmore, totalAmount_concat, ← h.unpaid]
  · rw [hoverdue, hmore, List.filter_append, List.filter_singleton]
    split_ifs with hbefore
    · rw [hbefore, cond_true, totalAmount_concat, ← h.overdue]
    · rw [eq_false_of_ne_true hbefore, cond_false, List.append_nil, ← h.overdue]
  · rw [hcount, hmore, List.countP_append, List.countP_singleton, ← h.count]
    split_ifs <;> rfl
  · rw [hmore]
    exact hnext

theorem countPayment_spec (h : SumsOf rt today payments sums)
    (hfinite : rt.isFinite (rt.number payment.amount) = true) :
    SumsOf rt today (payments ++ [payment]) (countPayment rt today sums payment) := by
  rw [countPayment, if_neg (by rw [hfinite]; decide)]
  by_cases hpaid : payment.status = .paid
  · rw [if_pos hpaid]
    exact h.addPaid hpaid
  rw [if_neg hpaid]
  cases hdue : dueTime rt payment with
  | none =>
    have hbefore : dueBefore rt today payment = false := by rw [dueBefore, hdue]; rfl
    refine h.addUnpaid hpaid rfl rfl (by simp [hbefore]) (by simp [hbefore]) (h.next.keep ?_)
    rw [hdue]
    rintro t ⟨⟩
  | some due =>
    have hbefore : dueBefore rt today payment = decide (due < today) := by rw [dueBefore, hdue]; rfl
    dsimp only
    split_ifs with hpast hearlier
    · refine h.addUnpaid hpaid rfl rfl (by simp [hbefore, hpast]) (by simp [hbefore, hpast])
        (h.next.keep ?_)
      rintro t ht hfrom
      cases hdue.symm.trans ht
      exact absurd hpast hfrom.not_gt
    · refine h.addUnpaid hpaid rfl rfl (by simp [hbefore, hpast]) (by simp [hbefore, hpast])
        (h.next.earlier hdue (not_lt.mp hpast) fun next hnext => ?_)
      rw [hnext] at hearlier
      exact of_decide_eq_true hearlier
    · refine h.addUnpaid hpaid rfl rfl (by simp [hbefore, hpast]) (by simp [hbefore, hpast])
        (h.next.keep ?_)
      rintro t ht -
      cases hdue.symm.trans ht
      cases hnext : sums.nextDueTime with
      | none => exact absurd (by rw [hnext]; rfl) hearlier
      | some next =>
        rw [hnext, Option.all_some, decide_eq_true_eq, not_lt] at hearlier
        exact ⟨next, rfl, hearlier⟩

/-- After the loop the variables are those of the whole list. -/
theorem foldl_countPayment (hfinite : ∀ p ∈ payments, rt.isFinite (rt.number p.amount) = true) :
    SumsOf rt today payments (payments.foldl (countPayment rt today) (noPayments rt)) := by
  induction payments using List.reverseRecOn with
  | nil => exact ⟨rfl, rfl, rfl, rfl, rfl, fun p hp => absurd hp List.not_mem_nil⟩
  | append_singleton payments p ih =>
    rw [List.foldl_concat]
    exact countPayment_spec (ih fun q hq => hfinite q (List.mem_append_left _ hq))
      (hfinite p (by simp))

/-- The summary counts each payment once and names the next due date. -/
structure SummaryOf (rt : PaymentRuntime Num) (today : Instant)
    (payments : List StudentPaymentItemDto) (summary : StudentPaymentsSummaryDto) : Prop where
  parts : (paidItems payments ++ unpaidItems payments).Perm payments
  paidAmount : summary.paidAmount = rt.toFixed2 (totalAmount rt (paidItems payments))
  unpaidAmount : summary.unpaidAmount = rt.toFixed2 (totalAmount rt (unpaidItems payments))
  overdueAmount : summary.overdueAmount =
    rt.toFixed2 (totalAmount rt ((unpaidItems payments).filter (dueBefore rt today)))
  overdueCount : summary.overdueCount = ((unpaidItems payments).filter (dueBefore rt today)).length
  nextDueDate_none : summary.nextDueDate = none ↔
    ∀ p ∈ unpaidItems payments, ∀ t, dueTime rt p = some t → t < today
  nextDueDate_some : ∀ date, summary.nextDueDate = some date →
    ∃ p ∈ unpaidItems payments, ∃ next, p.dueDate = some date ∧ dueTime rt p = some next ∧
      today ≤ next ∧ ∀ q ∈ unpaidItems payments, ∀ t, dueTime rt q = some t → today ≤ t → next ≤ t

theorem dueDate_of_dueTime {due : Instant} (h : dueTime rt payment = some due) :
    payment.dueDate ≠ none := by
  intro hnone
  rw [dueTime, hnone] at h
  cases h

theorem NextDue.date_none {time : Option Instant} {date : Option String}
    (h : NextDue rt today payments time date) :
    date = none ↔ ∀ p ∈ payments, ∀ t, dueTime rt p = some t → t < today := by
  cases time with
  | none => exact iff_of_true h.1 h.2
  | some next =>
    obtain ⟨htoday, ⟨p, hp, hnext, rfl⟩, -⟩ := h
    exact iff_of_false (dueDate_of_dueTime hnext) fun hpast =>
      absurd (hpast p hp next hnext) htoday.not_gt

theorem NextDue.date_some {time : Option Instant} {date : Option String} {text : String}
    (h : NextDue rt today payments time date) (hdate : date = some text) :
    ∃ p ∈ payments, ∃ next, p.dueDate = some text ∧ dueTime rt p = some next ∧ today ≤ next ∧
      ∀ q ∈ payments, ∀ t, dueTime rt q = some t → today ≤ t → next ≤ t := by
  cases time with
  | none => cases h.1.symm.trans hdate
  | some next =>
    obtain ⟨htoday, ⟨p, hp, hnext, rfl⟩, hleast⟩ := h
    exact ⟨p, hp, next, hdate, hnext, htoday, hleast⟩

theorem buildPaymentsDto_spec {now : Instant} {paymentPlans : List StudentPaymentPlanDto}
    (hfinite : ∀ p ∈ payments, rt.isFinite (rt.number p.amount) = true) :
    SummaryOf rt (utcMidnight now) payments
      (buildPaymentsDto rt now payments paymentPlans).summary := by
  have hsums : SumsOf rt (utcMidnight now) payments _ := foldl_countPayment hfinite
  exact {
    parts := by
      have hperm := List.filter_append_perm (fun p => decide (p.status = .paid)) payments
      simpa only [paidItems, unpaidItems, ne_eq, decide_not] using hperm
    paidAmount := congrArg rt.toFixed2 hsums.paid
    unpaidAmount := congrArg rt.toFixed2 hsums.unpaid
    overdueAmount := congrArg rt.toFixed2 hsums.overdue
    overdueCount := hsums.count.trans List.countP_eq_length_filter
    nextDueDate_none := hsums.next.date_none
    nextDueDate_some := fun _ => hsums.next.date_some }

/-! ### The payments of a student -/

variable {db : Db} {s : StudentProfile} {schoolId : Uuid} {now : Instant}

/-- A student of an active school whose account is not deleted. -/
structure StudentOf (db : Db) (schoolId : Uuid) (s : StudentProfile) : Prop where
  stored : s ∈ db.studentProfiles.rows
  user : ∃ user, db.users.findUnique s.userId = some user ∧ user.deletedAt = none
  link : ∃ link ∈ db.studentSchools.rows, link.studentId = s.id ∧ link.schoolId = schoolId
  school : ∃ school, db.drivingSchools.findUnique schoolId = some school ∧ school.deletedAt = none

theorem StudentOf.inSchool (h : StudentOf db schoolId s) : Selects (inSchool db schoolId) s := by
  obtain ⟨link, hlink, hstudent, rfl⟩ := h.link
  have hmem : link ∈ schoolLinksOf db s :=
    (Table.mem_findMany ..).mpr ⟨hlink, decide_eq_true hstudent⟩
  refine selects_present.mpr ⟨link, hmem, ?_⟩
  simpa [selects_toOne] using h.school

theorem StudentOf.userLive (h : StudentOf db schoolId s) :
    Selects (userOf db (isNull User.deletedAt)) s := by
  simpa [userOf, selects_toOne] using h.user

/-- The query for the profile finds the student. -/
theorem StudentOf.found (h : StudentOf db schoolId s) (hunique : UniqueProfiles db) :
    (db.studentProfiles.findFirst fun r =>
      decide (Selects (studentWhere db s.userId (some schoolId)) r)) = some s := by
  have hselects : Selects (studentWhere db s.userId (some schoolId)) s := by
    simp [studentWhere, profileOfUser, h.userLive, h.inSchool]
  cases hfirst : db.studentProfiles.findFirst fun r =>
      decide (Selects (studentWhere db s.userId (some schoolId)) r) with
  | none =>
    have hmiss := (Table.findFirst_eq_none _ _).mp hfirst s h.stored
    exact absurd hselects (of_decide_eq_false hmiss)
  | some r =>
    obtain ⟨hr, hwhere⟩ := Table.mem_of_findFirst hfirst
    have huser : r.userId = s.userId := by
      simp only [studentWhere, profileOfUser, selects_all, List.forall_mem_cons, selects_column,
        decide_eq_true_eq] at hwhere
      exact hwhere.1.1
    rw [hunique r hr s h.stored huser]

/-- The actor may list the payments of the student in the school. -/
def MayListPayments (db : Db) (actor : Actor) (s : StudentProfile) (schoolId : Uuid) : Prop :=
  if actor.role = .student then actor.id = s.userId
  else assertActorCanListStudentsForSchool db actor schoolId = .ok ()

theorem listStudentPayments_ok {c : Collation} {env : Env} {actor : Actor}
    (h : StudentOf db schoolId s) (hunique : UniqueProfiles db)
    (hactor : MayListPayments db actor s schoolId) :
    listStudentPayments db rt c env actor s.userId { schoolId := some schoolId } =
      .ok (buildPaymentsDto rt env.now (paymentItems db rt (paidCourses db s.id (some schoolId)))
        (paymentPlanItems db c (paidCourses db s.id (some schoolId)))) := by
  rw [MayListPayments] at hactor
  have hfound := h.found hunique
  split_ifs at hactor with hrole
  · simp [listStudentPayments, hrole, hactor, throwIf, hfound, orThrow, bind, Except.bind, pure,
      Except.pure]
  · simp [listStudentPayments, hrole, hactor, throwIf, hfound, orThrow, bind, Except.bind, pure,
      Except.pure, forSome]

theorem mem_paidCourses {course : Course} : course ∈ paidCourses db s.id (some schoolId) ↔
    ∃ row ∈ enrolmentsOf db s, db.courses.findUnique row.courseId = some course ∧
      Selects (scopedCourse schoolId) course := by
  simp only [paidCourses, List.mem_filterMap, mem_select, enrolmentsOf, Table.mem_findMany,
    selects_all, List.forall_mem_cons, selects_column, courseOfEnrolment, selects_toOne,
    decide_eq_true_eq]
  constructor
  · rintro ⟨row, ⟨hrow, hstudent, ⟨course', hcourse', hscope⟩, -⟩, hcourse⟩
    cases hcourse.symm.trans hcourse'
    refine ⟨row, ⟨hrow, hstudent⟩, hcourse, ?_⟩
    simpa [courseScope, scopedCourse, and_comm] using hscope
  · rintro ⟨row, ⟨hrow, hstudent⟩, hcourse, hscope⟩
    refine ⟨row, ⟨hrow, hstudent, ⟨course, hcourse, ?_⟩, by simp⟩, hcourse⟩
    simpa [courseScope, scopedCourse, and_comm] using hscope

theorem mem_paymentItems {courses : List Course} {item : StudentPaymentItemDto} :
    item ∈ paymentItems db rt courses ↔ ∃ course ∈ courses, ∃ plan ∈ plansOf db course,
      ∃ payment ∈ paymentsOf db plan, paymentItem rt course plan payment = item := by
  simp only [paymentItems, List.mem_map, List.mem_insertionSort, List.mem_flatMap]
  constructor
  · rintro ⟨_, ⟨course, hcourse, plan, hplan, payment, hpayment, rfl⟩, rfl⟩
    exact ⟨course, hcourse, plan, hplan, payment, hpayment, rfl⟩
  · rintro ⟨course, hcourse, plan, hplan, payment, hpayment, rfl⟩
    exact ⟨_, ⟨course, hcourse, plan, hplan, payment, hpayment, rfl⟩, rfl⟩

/-- The due date is read back from its text. -/
theorem dueTime_paymentItem {course : Course} {plan : PaymentPlan} {payment : Payment} :
    dueTime rt (paymentItem rt course plan payment) = payment.dueAt := by
  rw [dueTime, paymentItem]
  cases hdue : payment.dueAt with
  | none => rfl
  | some t =>
    have htext : toISOString t ≠ "" := by
      intro hempty
      have hread := readISOString_toISOString t
      rw [hempty] at hread
      cases hread
    simp only [toIsoOrNull, Option.map_some, Option.filter_some, ne_eq, htext, not_false_eq_true,
      decide_true, if_true, Option.bind_some, newDate, readISOString_toISOString, Option.some_or]

theorem unpaid_paymentItem {course : Course} {plan : PaymentPlan} {payment : Payment} :
    (paymentItem rt course plan payment).status ≠ .paid ↔ payment.status ≠ .paid := by
  rw [paymentItem, mapPaymentStatus]
  split_ifs with h <;> simp [h]

theorem selects_overduePayment {payment : Payment} : Selects (overduePayment today) payment ↔
    payment.status ≠ .paid ∧ ∃ t, payment.dueAt = some t ∧ t < today := by
  simp [overduePayment, Payment.dueAt]

/-! ### The overdue view -/

/-- Some payment of the student in the school is overdue. -/
def HasOverdue (db : Db) (schoolId : Uuid) (now : Instant) (s : StudentProfile) : Prop :=
  Selects (buildOverduePaymentsFilter db schoolId now true) s

theorem hasOverdue_iff : HasOverdue db schoolId now s ↔
    ∃ course ∈ paidCourses db s.id (some schoolId), ∃ plan ∈ plansOf db course,
      ∃ payment ∈ paymentsOf db plan, Selects (overduePayment (utcMidnight now)) payment := by
  rw [HasOverdue, buildOverduePaymentsFilter, if_pos rfl, selects_present]
  simp only [overduePredicate, courseOfEnrolment, selects_toOne, selects_all, List.forall_mem_cons,
    List.not_mem_nil, false_implies, implies_true, and_true, selects_present, mem_paidCourses]
  constructor
  · rintro ⟨row, hrow, course, hcourse, hscope, hpayments⟩
    exact ⟨course, ⟨row, hrow, hcourse, hscope⟩, hpayments⟩
  · rintro ⟨course, ⟨row, hrow, hcourse, hscope⟩, hpayments⟩
    exact ⟨row, hrow, course, hcourse, hscope, hpayments⟩

theorem overdueItems_pos : 0 < ((unpaidItems payments).filter (dueBefore rt today)).length ↔
    ∃ p ∈ payments, p.status ≠ .paid ∧ ∃ t, dueTime rt p = some t ∧ t < today := by
  simp only [List.length_pos_iff_exists_mem, unpaidItems, List.mem_filter, dueBefore,
    Option.any_eq_true, decide_eq_true_eq, and_assoc]

theorem overdueItems_iff :
    0 < ((unpaidItems (paymentItems db rt (paidCourses db s.id (some schoolId)))).filter
      (dueBefore rt (utcMidnight now))).length ↔ HasOverdue db schoolId now s := by
  simp only [overdueItems_pos, hasOverdue_iff, selects_overduePayment, mem_paymentItems]
  constructor
  · rintro ⟨_, ⟨course, hcourse, plan, hplan, payment, hpayment, rfl⟩, hunpaid, hdue⟩
    rw [unpaid_paymentItem] at hunpaid
    rw [dueTime_paymentItem] at hdue
    exact ⟨course, hcourse, plan, hplan, payment, hpayment, hunpaid, hdue⟩
  · rintro ⟨course, hcourse, plan, hplan, payment, hpayment, hunpaid, hdue⟩
    refine ⟨_, ⟨course, hcourse, plan, hplan, payment, hpayment, rfl⟩, ?_, ?_⟩
    · exact unpaid_paymentItem.mpr hunpaid
    · rw [dueTime_paymentItem]
      exact hdue

/-- What the list without filters asks of a student of the school is the view. -/
theorem StudentOf.unfiltered_iff (h : StudentOf db schoolId s) {text : TextRules}
    {view : Option StudentListView} :
    s ∈ unfilteredStudents text db { view, schoolId := some schoolId } schoolId now ↔
      ∀ c ∈ viewConditions db schoolId now view, Selects c s := by
  have hterms : searchTerms none = [] := by decide
  rw [unfilteredStudents, mem_select, baseWhere]
  simp [h.stored, h.userLive, h.inSchool, hterms]

theorem StudentOf.listedWith_overdueView (h : StudentOf db schoolId s) {text : TextRules} :
    ListedWith text db { view := some .overdue, schoolId := some schoolId } schoolId now [] s ↔
      HasOverdue db schoolId now s := by
  rw [listedWith_iff, h.unfiltered_iff]
  simp [viewConditions, HasOverdue]

theorem StudentOf.listedWith_hasOverduePayments (h : StudentOf db schoolId s) {text : TextRules} :
    ListedWith text db { schoolId := some schoolId } schoolId now [.hasOverduePayments true] s ↔
      HasOverdue db schoolId now s := by
  rw [listedWith_iff, h.unfiltered_iff]
  simp [viewConditions, HasOverdue, buildAdvancedFilterWhere, pure, Except.pure]

/-! ### The view and the summary -/

/-- Amounts of the column, which has 35 digits before the point, are read as finite numbers. -/
def ReadsAmounts (rt : PaymentRuntime Num) : Prop :=
  ∀ q : ℚ, |q| < 10 ^ 35 → rt.isFinite (rt.number (rt.decimalText q)) = true

/-- The column holds the amount. -/
def AmountsFit (db : Db) : Prop := ∀ p ∈ db.payments.rows, |p.amount| < 10 ^ 35

theorem finite_paymentItems (hreads : ReadsAmounts rt) (hfit : AmountsFit db)
    {courses : List Course} :
    ∀ p ∈ paymentItems db rt courses, rt.isFinite (rt.number p.amount) = true := by
  intro p hp
  obtain ⟨course, -, plan, -, payment, hpayment, rfl⟩ := mem_paymentItems.mp hp
  exact hreads _ (hfit payment ((Table.mem_findMany ..).mp hpayment).1)

/-- The overdue view and the filter list a student of the school exactly when the summary counts an
overdue payment, and the summary of any list of finite amounts counts each payment once. -/
theorem overdueView_agrees (c : Collation) (text : TextRules) (hreads : ReadsAmounts rt) :
    (∀ (db : Db) (env : Env) (actor : Actor) (schoolId : Uuid) (s : StudentProfile),
      AmountsFit db → UniqueProfiles db → StudentOf db schoolId s →
      MayListPayments db actor s schoolId →
      ∃ dto, listStudentPayments db rt c env actor s.userId { schoolId := some schoolId } = .ok dto ∧
        (ListedWith text db { view := some .overdue, schoolId := some schoolId } schoolId env.now
          [] s ↔ 0 < dto.summary.overdueCount) ∧
        (ListedWith text db { schoolId := some schoolId } schoolId env.now
          [.hasOverduePayments true] s ↔ 0 < dto.summary.overdueCount)) ∧
    ∀ (now : Instant) (payments : List StudentPaymentItemDto)
      (paymentPlans : List StudentPaymentPlanDto),
      (∀ p ∈ payments, rt.isFinite (rt.number p.amount) = true) →
      SummaryOf rt (utcMidnight now) payments
        (buildPaymentsDto rt now payments paymentPlans).summary := by
  refine ⟨fun db env actor schoolId s hfit hunique hstudent hactor => ?_,
    fun now payments paymentPlans hfinite => buildPaymentsDto_spec hfinite⟩
  have hcount : (buildPaymentsDto rt env.now
      (paymentItems db rt (paidCourses db s.id (some schoolId)))
      (paymentPlanItems db c (paidCourses db s.id (some schoolId)))).summary.overdueCount =
        ((unpaidItems (paymentItems db rt (paidCourses db s.id (some schoolId)))).filter
          (dueBefore rt (utcMidnight env.now))).length :=
    (buildPaymentsDto_spec (finite_paymentItems hreads hfit)).overdueCount
  refine ⟨_, listStudentPayments_ok hstudent hunique hactor, ?_⟩
  rw [hcount, overdueItems_iff]
  exact ⟨hstudent.listedWith_overdueView, hstudent.listedWith_hasOverduePayments⟩

end

/-! ### An instalment that is late -/

/-- The numbers of the runtime where the amounts are whole and not negative. -/
def wholeNumbers : PaymentRuntime (Option ℕ) where
  decimalText q := String.ofList (Nat.toDigits 10 q.floor.toNat)
  number text := if text.toList.all Char.isDigit then some (Numerals.read 10 text.toList) else none
  isFinite := Option.isSome
  zero := some 0
  add x y := do return (← x) + (← y)
  toFixed2 x := (x.map fun n => String.ofList (Nat.toDigits 10 n ++ ['.', '0', '0'])).getD "NaN"
  otherDate _ := none

theorem wholeNumbers_reads : ReadsAmounts wholeNumbers := by
  intro q _
  have hdigits : (Nat.toDigits 10 q.floor.toNat).all Char.isDigit = true :=
    List.all_eq_true.mpr (Numerals.toDigits_forall (p := fun c => c.isDigit = true) (by decide)
      (fun d hd => (Numerals.digitChar_spec hd).1) _)
  simp only [wholeNumbers, String.toList_ofList, hdigits, if_true, Option.isSome_some]

namespace SmallSchool

def plan : PaymentPlan := { id := 90, courseId := 50 }

/-- A payment of 300 for the course, due on the fourth day and not paid. -/
def instalment : Payment := { id := 91, paymentPlanId := 90, amount := 300, dueDate := some 4 }

theorem instalment_fits : |instalment.amount| < 10 ^ 35 := by
  rw [instalment]
  norm_num

def withInstalment : Db :=
  { SmallSchool.db with
    paymentPlans := .singleton plan
    payments := .singleton instalment }

def ordinal : Collation := ⟨compare, inferInstance⟩

end SmallSchool

theorem SmallSchool.studentOf_withInstalment :
    StudentOf SmallSchool.withInstalment 10 { id := 30, userId := 3 } where
  stored := List.mem_cons_self
  user := ⟨_, rfl, rfl⟩
  link := ⟨_, List.mem_cons_self, rfl, rfl⟩
  school := ⟨_, rfl, rfl⟩

theorem SmallSchool.uniqueProfiles_withInstalment : UniqueProfiles SmallSchool.withInstalment := by
  intro p hp q hq h
  simp only [SmallSchool.withInstalment, SmallSchool.db, List.mem_cons, List.not_mem_nil, or_false]
    at hp hq
  rcases hp with rfl | rfl <;> rcases hq with rfl | rfl <;> simp_all

open SmallSchool in
/-- On the fifth day the student is in the view and the summary counts the payment. -/
theorem overdueView_agrees_withInstalment :
    (∃ dto, listStudentPayments withInstalment wholeNumbers ordinal (envAt (clock 5 10 0)) manager 3
        { schoolId := some 10 } = .ok dto ∧
      0 < dto.summary.overdueCount ∧
      ListedWith plainText withInstalment { view := some .overdue, schoolId := some 10 } 10
        (clock 5 10 0) [] { id := 30, userId := 3 }) ∧
    SummaryOf wholeNumbers (utcMidnight (clock 5 10 0))
      [paymentItem wholeNumbers course plan instalment]
      (buildPaymentsDto wholeNumbers (clock 5 10 0)
        [paymentItem wholeNumbers course plan instalment] []).summary := by
  obtain ⟨hview, hsummary⟩ := overdueView_agrees ordinal plainText wholeNumbers_reads
  have hfit : AmountsFit withInstalment := List.forall_mem_singleton.mpr instalment_fits
  have hoverdue : ListedWith plainText withInstalment { view := some .overdue, schoolId := some 10 }
      10 (clock 5 10 0) [] { id := 30, userId := 3 } :=
    studentOf_withInstalment.listedWith_overdueView.mpr (by unfold HasOverdue; decide)
  obtain ⟨dto, hok, hlisted, -⟩ := hview withInstalment (envAt (clock 5 10 0)) manager 10 _ hfit
    uniqueProfiles_withInstalment studentOf_withInstalment rfl
  exact ⟨⟨dto, hok, hlisted.mp hoverdue, hoverdue⟩, hsummary _ _ []
    (List.forall_mem_singleton.mpr (wholeNumbers_reads _ instalment_fits))⟩

end OSK
