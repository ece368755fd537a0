import OskManager.Model.LessonChecks
import OskManager.Schedule.LessonWrites

/-! What an availability check has in common with the write it announces: a rule that reports
an issue reports one exactly when the same rule would refuse the write. -/

namespace OSK

open Relational

/-! ### Reported rules -/

section Issues

variable {db t : Db} {l : List ScheduleAvailabilityIssue}

theorem query_issues {f : Db → Except Failure Unit}
    {h : Failure → Except Failure ScheduleAvailabilityIssue}
    (hl : Prog.issues (Prog.query f) h db = (.ok l, t)) : t = db ∧ (l = [] ↔ f db = .ok ()) := by
  have hstore : db = t := Prog.issues_store hl
  subst hstore
  refine ⟨rfl, (Prog.issues_nil_iff hl).trans ?_⟩
  simp [Prog.query_eq_ok]

theorem lessonDateIssues_ok {env : Env} {start : Instant} {schoolId : Uuid}
    (hl : lessonDateIssues env start schoolId db = (.ok l, t)) :
    t = db ∧ (l = [] ↔ assertLessonTimeIsBookable env db start schoolId = .ok ()) ∧
      ∀ issue ∈ l, issue.code = .dateNotBookable := by
  obtain ⟨hstore, hnil⟩ := query_issues hl
  refine ⟨hstore, hnil, ?_⟩
  rcases Prog.issues_eq_ok.mp hl with ⟨_, rfl⟩ | ⟨e, i, _, hi, rfl⟩
  · exact fun _ h => absurd h List.not_mem_nil
  · intro issue h
    rw [List.mem_singleton.mp h]
    obtain ⟨_, _, hi⟩ := except_bind_eq_ok.mp hi
    cases hi
    rfl

theorem lessonInstructorIssues_ok {instructorId : Uuid} {course : CourseForBooking} {b : Bool}
    (hl : lessonInstructorIssues instructorId course b db = (.ok l, t)) :
    t = db ∧ (l = [] ↔ assertInstructorCanBookCourse db instructorId course b = .ok ()) :=
  query_issues hl

theorem lessonScheduleIssues_ok {zone : PolishZone} {params : LessonWindowParams}
    (hl : lessonScheduleIssues zone params db = (.ok l, t)) :
    t = db ∧ (l = [] ↔ assertLessonSchedulingWindowAvailable zone db params = .ok ()) :=
  query_issues hl

theorem issuesWhen_ok {c : Bool} {p : Service (List ScheduleAvailabilityIssue)}
    (hl : issuesWhen c p db = (.ok l, t)) :
    (c = true ∧ p db = (.ok l, t)) ∨ (c = false ∧ l = [] ∧ t = db) := by
  cases c
  · exact Or.inr ⟨rfl, (Prog.pure_eq_ok.mp hl).1.symm, (Prog.pure_eq_ok.mp hl).2.symm⟩
  · exact Or.inl ⟨rfl, hl⟩

theorem issuesFor_ok {x : Option Uuid} {f : Uuid → Service (List ScheduleAvailabilityIssue)}
    (hl : issuesFor x f db = (.ok l, t)) :
    (∃ a, x = some a ∧ f a db = (.ok l, t)) ∨ (x = none ∧ l = [] ∧ t = db) := by
  cases x
  · exact Or.inr ⟨rfl, (Prog.pure_eq_ok.mp hl).1.symm, (Prog.pure_eq_ok.mp hl).2.symm⟩
  · exact Or.inl ⟨_, rfl, hl⟩

/-- The check answers, and its answer is that the slot is available. -/
def AnswersAvailable (check : Service ScheduleAvailabilityAnswer) (db : Db) : Prop :=
  ∃ answer t, check db = (.ok answer, t) ∧ answer.available = true

instance {check : Service ScheduleAvailabilityAnswer} {db : Db} :
    Decidable (AnswersAvailable check db) :=
  Prog.decidableSatisfies check db fun answer => answer.available = true

theorem query_issues_run {f : Db → Except Failure Unit}
    {h : Failure → Except Failure ScheduleAvailabilityIssue} (hf : f db = .ok ()) :
    Prog.issues (Prog.query f) h db = (.ok [], db) :=
  Prog.issues_run (Prog.query_eq_ok.mpr ⟨hf, rfl⟩)

theorem issuesWhen_run {c : Bool} {p : Service (List ScheduleAvailabilityIssue)}
    (hp : c = true → p db = (.ok [], db)) : issuesWhen c p db = (.ok [], db) := by
  cases c
  · rfl
  · exact hp rfl

end Issues

/-! ### Windows and durations -/

theorem parse_start_before_end {zone : PolishZone} {w : LocalWindow} {window : ScheduleWindow}
    (h : w.parse zone = .ok window) : window.start < window.stop := by
  simp only [LocalWindow.parse, parsePolishScheduleWindow, except_bind_eq_ok, throwIf_eq_ok, pure,
    Except.pure, Except.ok.injEq, not_le] at h
  obtain ⟨start, _, stop, _, _, hpos, rfl⟩ := h
  exact Int.lt_of_sub_pos hpos

theorem durationIssues_eq_nil {d : ℤ} {policy : ScheduleDurationPolicy} :
    durationIssues d policy = [] ↔
      policy.minDurationMinutes * msPerMinute ≤ d ∧ d ≤ policy.maxDurationMinutes * msPerMinute := by
  unfold durationIssues
  split
  · next h => simp [not_le.mpr h]
  · next h =>
    split
    · next h' => simp [not_le.mpr h']
    · next h' => simp [not_lt.mp h, not_lt.mp h']

theorem scheduleDurationAllowed_iff {db : Db} {schoolId : Uuid} {kind : DurationKind}
    {start stop : Instant} (h : start < stop) :
    (∃ policy, assertScheduleDurationAllowed db schoolId kind start stop = .ok policy) ↔
      durationIssues (stop - start) (resolveScheduleDurationPolicy db schoolId kind) = [] := by
  have hpos : ¬stop - start ≤ 0 := not_le.mpr (Int.sub_pos_of_lt h)
  simp only [assertScheduleDurationAllowed, except_bind_eq_ok, throwIf_eq_ok, pure, Except.pure,
    Except.ok.injEq, durationIssues_eq_nil, not_lt, gt_iff_lt]
  refine ⟨?_, ?_⟩
  · intro h
    obtain ⟨_, _, _, _, h1, _, h2, _⟩ := h
    exact ⟨h1, h2⟩
  · intro h
    obtain ⟨h1, h2⟩ := h
    exact ⟨_, (), hpos, (), h1, (), h2, rfl⟩

/-- Without a mode the duration rule is the one of the school. -/
theorem bookingDuration_without_mode {db : Db} {course : CourseForBooking}
    {input : PracticeLessonInput} (hmode : input.bookingMode = none) (hlt : input.start < input.stop) :
    assertBookingDurationAllowed db course input = .ok () ↔
      durationIssues (input.stop - input.start)
        (resolveScheduleDurationPolicy db course.schoolId .practice) = [] := by
  rw [← scheduleDurationAllowed_iff hlt]
  simp [assertBookingDurationAllowed, hmode, except_bind_eq_ok, pure, Except.pure]

theorem bookingDuration_with_mode {db : Db} {course : CourseForBooking}
    {input : PracticeLessonInput} (hmode : input.bookingMode.isSome = true) :
    assertBookingDurationAllowed db course input =
      assertStudentSelfBookingDurationAllowed db
        (course.duration input.studentProfileId input.start input.stop input.bookingMode) := by
  rw [assertBookingDurationAllowed, if_pos hmode]

end OSK
