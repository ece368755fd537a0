import OskManager.Courses.Enrolments
import OskManager.Lib.Calls
import OskManager.Model.BodySchemas
import OskManager.Sample.SmallSchool
import OskManager.Schedule.CourseWrites

/-! The seats of a theory group. An owner cannot lower the limit below the number of active
enrolments, but whoever enrols a student, or makes a finished enrolment active again, never looks at
the limit: it is kept as long as they find a free seat. -/

namespace OSK

open Relational

variable {env : Env} {db db' : Db}

def Db.activeParticipants (db : Db) (courseId : Uuid) : ℕ :=
  db.courseParticipants.count fun p => decide (p.courseId = courseId ∧ p.status = .active)

/-- No theory group has more active participants than seats. -/
def SeatsKept (db : Db) : Prop :=
  ∀ c ∈ db.courses.rows, c.deletedAt = none → c.kind = .theoryGroup → ∀ n, c.capacity = some n →
    (db.activeParticipants c.id : ℤ) ≤ n

/-- The course, if it is a theory group with a limit, has fewer active participants than seats. -/
def Db.HasFreeSeat (db : Db) (courseId : Uuid) : Prop :=
  ∀ c, db.courses.findUnique courseId = some c → c.kind = .theoryGroup → ∀ n, c.capacity = some n →
    (db.activeParticipants courseId : ℤ) < n

/-! ### Courses -/

section CourseWrites

variable {userId courseId : Uuid}

theorem activeParticipants_eq_zero (h : ∀ p ∈ db.courseParticipants.rows, p.courseId ≠ courseId) :
    db.activeParticipants courseId = 0 := by
  simp only [Db.activeParticipants, Table.count, List.length_eq_zero_iff, Table.findMany,
    List.filter_eq_nil_iff, decide_eq_true_eq, not_and]
  exact fun p hp hcourse => absurd hcourse (h p hp)

theorem no_enrolment_of_no_activity (h : courseHasActivity db courseId = false)
    {p : CourseParticipant} (hp : p ∈ db.courseParticipants.rows) : p.courseId ≠ courseId := by
  simp only [courseHasActivity, Bool.or_eq_false_iff, decide_eq_false_iff_not, ne_eq, not_not,
    Table.count, List.length_eq_zero_iff, Table.findMany, List.filter_eq_nil_iff,
    decide_eq_true_eq] at h
  exact h.1.1 p hp

/-- Nobody has a seat in a new course yet. -/
theorem SeatsKept.insertCourse {body : CreateCourseBody} (h : SeatsKept db)
    (hbody : body.Consistent) (courseType : CourseType) :
    SeatsKept (db.insertCourse env body courseType) := by
  intro c hc hlive hkind n hn
  rcases mem_insertCourse.mp hc with hold | rfl
  · exact h c hold hlive hkind n hn
  · have hcapacity : body.capacity = some n := (if_pos hkind).symm.trans hn
    have hempty : (db.insertCourse env body courseType).activeParticipants
        (db.nextCourse env body courseType).id = 0 :=
      activeParticipants_eq_zero fun p hp => no_enrolment_of_fresh hp
    rw [hempty]
    exact hbody.capacity_nonneg n hcapacity

/-- A new limit has passed the rule; a course that turns into a theory group has no enrolments. -/
theorem PatchCourseRules.seats {body : PatchCourseBody} {row : Course} {courseTypeId : Uuid} {n : ℤ}
    (h : PatchCourseRules userId body courseId db row courseTypeId) (hseats : SeatsKept db)
    (hstored : body.capacity = none → row.kind ≠ .theoryGroup → ∀ n, row.capacity = some n → 0 ≤ n)
    (hkind : body.nextKind row = .theoryGroup) (hn : body.nextCapacity row = some n) :
    (db.activeParticipants row.id : ℤ) ≤ n := by
  have hallowed := h.allowed
  simp only [assertCoursePatchAllowed, except_bind_eq_ok, throwIf_eq_ok, not_and, Bool.not_eq_true,
    onlyIf_eq_ok, forSome_eq_ok, not_lt] at hallowed
  obtain ⟨_, _, _, _, _, hactivity, hlimit⟩ := hallowed
  by_cases hsent : body.capacity = none
  · have hstored' : row.capacity = some n := by
      rwa [PatchCourseBody.nextCapacity, hsent] at hn
    by_cases hsame : row.kind = .theoryGroup
    · exact hseats row (Table.mem_of_findUnique h.found) h.live hsame n hstored'
    · have hchange : body.structuralChange row = true := by
        rw [PatchCourseBody.structuralChange, decide_eq_true_eq, hkind]
        exact Or.inl (Ne.symm hsame)
      rw [activeParticipants_eq_zero fun _ => no_enrolment_of_no_activity (hactivity hchange)]
      exact hstored hsent hsame n hstored'
  · exact hlimit ⟨hkind, hsent⟩ n hn

theorem SeatsKept.patchCourse {body : PatchCourseBody} {row : Course} {courseTypeId : Uuid}
    (h : SeatsKept db) (rules : PatchCourseRules userId body courseId db row courseTypeId)
    (hstored : body.capacity = none → body.kind = some .theoryGroup → row.kind ≠ .theoryGroup →
      ∀ n, row.capacity = some n → 0 ≤ n) :
    SeatsKept (db.patchCourse courseId body courseTypeId) := by
  intro c hc hlive hkind n hn
  rcases rules.mem_cases hc with ⟨hold, _⟩ | rfl
  · exact h c hold hlive hkind n hn
  · have hkind' : body.nextKind row = .theoryGroup := hkind
    have hcleared : body.datesCleared row = false := by
      simp [PatchCourseBody.datesCleared, hkind']
    have hn' : body.nextCapacity row = some n := by
      simpa [Course.patched, hcleared, PatchCourseBody.nextCapacity] using hn
    refine rules.seats h (fun hsent hother => hstored hsent ?_ hother) hkind' hn'
    cases hbody : body.kind with
    | none => simp [PatchCourseBody.nextKind, hbody, hother] at hkind'
    | some kind => simpa [PatchCourseBody.nextKind, hbody] using hkind'

end CourseWrites

/-! ### Enrolments -/

section EnrolmentWrites

variable {actor : Actor} {studentUserId courseId : Uuid}

/-- One more seat is taken in a course that has one. -/
theorem SeatsKept.of_activeParticipants (h : SeatsKept db) (hcourses : db'.courses = db.courses)
    (hseats : ∀ id, db'.activeParticipants id ≤ db.activeParticipants id ∨
      (db'.activeParticipants id ≤ db.activeParticipants id + 1 ∧ db.HasFreeSeat id)) :
    SeatsKept db' := by
  intro c hc hlive hkind n hn
  rw [hcourses] at hc
  have hkept := h c hc hlive hkind n hn
  rcases hseats c.id with hle | ⟨hle, hfree⟩
  · omega
  · have hlt := hfree c (Table.findUnique_of_mem hc) hkind n hn
    omega

theorem SeatsKept.insertParticipant {p : CourseParticipant} (h : SeatsKept db)
    (hfresh : (p.courseId, p.studentId) ∉ db.courseParticipants.keys)
    (hfree : db.HasFreeSeat p.courseId) :
    SeatsKept { db with courseParticipants := db.courseParticipants.insert p hfresh } := by
  refine h.of_activeParticipants rfl fun id => ?_
  simp only [Db.activeParticipants, Table.count_insert, decide_eq_true_eq]
  split
  · next hmine =>
    rw [← hmine.1]
    exact Or.inr ⟨le_rfl, hfree⟩
  · exact Or.inl le_rfl

theorem activeParticipants_setParticipantStatus {existing : CourseParticipant}
    (hstored : existing ∈ db.courseParticipants.rows) (status : CourseParticipantStatus)
    (id : Uuid) :
    ((db.setParticipantStatus existing.courseId existing.studentId status).activeParticipants id +
        if existing.courseId = id ∧ existing.status = .active then 1 else 0) =
      db.activeParticipants id + if existing.courseId = id ∧ status = .active then 1 else 0 := by
  have hcount := db.courseParticipants.count_update hstored (CourseParticipant.withStatus status)
    (fun _ => rfl) fun p => decide (p.courseId = id ∧ p.status = .active)
  simp only [decide_eq_true_eq] at hcount
  exact hcount

/-- Only an enrolment that was finished takes a seat when it becomes active. -/
theorem SeatsKept.setParticipantStatus {existing : CourseParticipant}
    {status : CourseParticipantStatus} (h : SeatsKept db)
    (hstored : existing ∈ db.courseParticipants.rows)
    (hfree : existing.status = .finished → status = .active → db.HasFreeSeat existing.courseId) :
    SeatsKept (db.setParticipantStatus existing.courseId existing.studentId status) := by
  refine h.of_activeParticipants rfl fun id => ?_
  have hcount := activeParticipants_setParticipantStatus hstored status id
  by_cases htaken : existing.status = .finished ∧ status = .active ∧ existing.courseId = id
  · obtain ⟨hstatus, hactive, rfl⟩ := htaken
    rw [if_neg (by simp [hstatus]), if_pos ⟨rfl, hactive⟩] at hcount
    exact Or.inr ⟨hcount.le, hfree hstatus hactive⟩
  · refine Or.inl ?_
    cases hstatus : existing.status with
    | active =>
      rw [hstatus] at hcount
      split_ifs at hcount <;> first | omega | tauto
    | finished =>
      have hother : ¬(existing.courseId = id ∧ status = .active) := by tauto
      rw [if_neg (by simp [hstatus]), if_neg hother] at hcount
      exact hcount.le

end EnrolmentWrites

/-! ### Runs -/

/-- The operations on courses and on their enrolments, with their arguments. -/
inductive SeatCall where
  | createCourseForUser (userId : Uuid) (body : CreateCourseBody)
  | patchCourseForOwner (userId courseId : Uuid) (body : PatchCourseBody)
  | assignStudentToCourseForStaff (actor : Actor) (studentUserId courseId : Uuid)
  | patchCourseParticipantStatusForStaff (actor : Actor) (studentUserId courseId : Uuid)
      (status : CourseParticipantStatus)

namespace SeatCall

/-- The state a call leaves, whether it succeeds or fails. -/
def run (env : Env) (db : Db) : SeatCall → Db
  | .createCourseForUser userId body => (OSK.createCourseForUser env userId body db).2
  | .patchCourseForOwner userId courseId body => (OSK.patchCourseForOwner userId courseId body db).2
  | .assignStudentToCourseForStaff actor studentUserId courseId =>
    (OSK.assignStudentToCourseForStaff actor studentUserId courseId db).2
  | .patchCourseParticipantStatusForStaff actor studentUserId courseId status =>
    (OSK.patchCourseParticipantStatusForStaff actor studentUserId courseId status db).2

/-- The body of the call is one that its schema accepts. -/
def Accepted : SeatCall → Prop
  | .createCourseForUser _ body => body.Accepted
  | .patchCourseForOwner _ _ body => body.Accepted
  | _ => True

/-- Whoever takes a seat finds one, and a course that turns into a theory group has no negative
limit. -/
def Careful (db : Db) : SeatCall → Prop
  | .createCourseForUser _ _ => True
  | .patchCourseForOwner userId courseId body => ∀ row courseTypeId,
    PatchCourseRules userId body courseId db row courseTypeId → body.capacity = none →
      body.kind = some .theoryGroup → row.kind ≠ .theoryGroup → ∀ n, row.capacity = some n → 0 ≤ n
  | .assignStudentToCourseForStaff actor studentUserId courseId =>
    ∀ p, prepareEnrolment db actor studentUserId courseId = .ok p →
      (p.courseId, p.studentId) ∉ db.courseParticipants.keys → db.HasFreeSeat courseId
  | .patchCourseParticipantStatusForStaff actor studentUserId courseId status =>
    ∀ existing, prepareParticipantStatus db actor studentUserId courseId = .ok existing →
      existing.status = .finished → status = .active → db.HasFreeSeat courseId

/-- Calls with accepted bodies, where `allowed` may refuse some. -/
def calls (allowed : Db → SeatCall → Prop) : Calls (Env × SeatCall) Db where
  allowed k db := k.2.Accepted ∧ allowed db k.2
  act k db := k.2.run k.1 db

theorem run_seatsKept {call : SeatCall} (haccepted : call.Accepted) (hcareful : call.Careful db)
    (h : SeatsKept db) : SeatsKept (call.run env db) := by
  cases call with
  | createCourseForUser userId body =>
    show SeatsKept (OSK.createCourseForUser env userId body db).2
    rcases (createCourseForUser_fails env userId body).cases db with ⟨dto, hok⟩ | hs
    · obtain ⟨courseType, _, hdb⟩ := createCourseForUser_ok hok
      rw [hdb]
      exact h.insertCourse (CreateCourseBody.Accepted.consistent haccepted) courseType
    · rw [hs]
      exact h
  | patchCourseForOwner userId courseId body =>
    show SeatsKept (OSK.patchCourseForOwner userId courseId body db).2
    rcases patchCourseForOwner_store userId courseId body db with hs | ⟨row, _, rules, hs⟩
    · rw [hs]
      exact h
    · rw [hs]
      exact h.patchCourse rules (hcareful row _ rules)
  | assignStudentToCourseForStaff actor studentUserId courseId =>
    show SeatsKept (OSK.assignStudentToCourseForStaff actor studentUserId courseId db).2
    rcases assignStudentToCourseForStaff_store actor studentUserId courseId db with
      hs | ⟨p, hfresh, hprepared, hs⟩
    · rw [hs]
      exact h
    · rw [hs]
      have hfree := hcareful p hprepared hfresh
      obtain ⟨studentId, _, rfl⟩ := prepareEnrolment_ok hprepared
      exact h.insertParticipant hfresh hfree
  | patchCourseParticipantStatusForStaff actor studentUserId courseId status =>
    show SeatsKept
      (OSK.patchCourseParticipantStatusForStaff actor studentUserId courseId status db).2
    rcases patchCourseParticipantStatusForStaff_store actor studentUserId courseId status db with
      hs | ⟨existing, hprepared, hs⟩
    · rw [hs]
      exact h
    · rw [hs]
      obtain ⟨hstored, rfl, _⟩ := prepareParticipantStatus_ok hprepared
      exact h.setParticipantStatus hstored (hcareful existing hprepared)

end SeatCall

namespace FullTheoryGroup

/-- The school, where the course is a theory group with one of its students. -/
def start (capacity : ℤ) : Db :=
  { SmallSchool.db with
    courses :=
      ⟨[{ id := 50, schoolId := 10, courseTypeId := 7, kind := .theoryGroup, totalHours := 30,
          capacity := some capacity, theoryStartDate := some 0, theoryEndDate := some 1
          total_hours_pos := SmallSchool.course.total_hours_pos }],
        List.nodup_singleton _⟩
    courseParticipants := .singleton ⟨50, 30, .active⟩ }

theorem start_seatsKept {capacity : ℤ} (h : 1 ≤ capacity) : SeatsKept (start capacity) := by
  intro c hc _ _ n hn
  obtain rfl := List.mem_singleton.mp hc
  cases hn
  exact h

def second : Env × SeatCall :=
  (SmallSchool.envAt 0, .assignStudentToCourseForStaff SmallSchool.manager 4 50)

def finished : Env × SeatCall :=
  (SmallSchool.envAt 0, .patchCourseParticipantStatusForStaff SmallSchool.manager 3 50 .finished)

end FullTheoryGroup

open FullTheoryGroup in
/-- A second student is enrolled in a course that has one seat. -/
theorem run_not_seatsKept : ¬∀ db db' : Db, SeatsKept db →
    (SeatCall.calls fun _ _ => True).Run db db' → SeatsKept db' := by
  intro h
  have hrun := Calls.run_after (SeatCall.calls fun _ _ => True) [second] (start 1)
    ⟨⟨trivial, trivial⟩, trivial⟩
  exact absurd (h _ _ (start_seatsKept le_rfl) hrun _ List.mem_cons_self rfl rfl 1 rfl) (by decide)

/-- In every run of careful calls a theory group has no more active participants than seats. -/
theorem careful_run_seatsKept {db db' : Db} (h : SeatsKept db)
    (hrun : (SeatCall.calls fun db call => call.Careful db).Run db db') : SeatsKept db' := by
  refine Calls.Run.invariant (fun _ _ hallowed hdb => ?_) h hrun
  exact SeatCall.run_seatsKept hallowed.1 hallowed.2 hdb

open FullTheoryGroup in
/-- A second student is enrolled in a course that has two seats, and the first one finishes. -/
theorem careful_run_seatsKept_two_seats :
    SeatsKept ((SeatCall.calls fun db call => call.Careful db).after [second, finished] (start 2)) ∧
      ((SeatCall.calls fun db call => call.Careful db).after [second, finished]
        (start 2)).courseParticipants.rows.map CourseParticipant.status = [.finished, .active] := by
  refine ⟨careful_run_seatsKept (start_seatsKept (by decide)) (Calls.run_after _ _ _ ?_), by decide⟩
  refine ⟨⟨trivial, ?_⟩, ⟨trivial, ?_⟩, trivial⟩
  · intro _ _ _ c hc _ n hn
    cases hc
    cases hn
    decide
  · exact fun _ _ _ hactive => nomatch hactive

end OSK
