import OskManager.Lib.Calls
import OskManager.Model.BodySchemas
import OskManager.Sample.SmallSchool
import OskManager.Schedule.CourseWrites

/-! The shape of a course. A theory group has its dates in order, and any other course has neither
dates nor a limit on seats. An edit that names the kind settles all of it; an edit that does not can
give dates to a course that should have none. -/

namespace OSK

open Relational

variable {db db' : Db}

structure Course.WellShaped (c : Course) : Prop where
  theory : c.kind = .theoryGroup → ∃ start stop, c.theoryStartDate = some start ∧
    c.theoryEndDate = some stop ∧ start ≤ stop
  other : c.kind ≠ .theoryGroup →
    c.theoryStartDate = none ∧ c.theoryEndDate = none ∧ c.capacity = none

def CoursesWellShaped (db : Db) : Prop := ∀ c ∈ db.courses.rows, c.WellShaped

/-! ### Dates -/

theorem dateToYYYYMMDD_mono {t t' : Instant} (h : t ≤ t') : dateToYYYYMMDD t ≤ dateToYYYYMMDD t' :=
  Int.ediv_le_ediv (by decide) h

/-- A stored date is written back as the day it was. -/
theorem map_dateToYYYYMMDD_getD (sent : Option (Option Instant)) (stored : Option Day) :
    (sent.getD (stored.map yyyymmddToDate)).map dateToYYYYMMDD =
      (sent.map fun d => d.map dateToYYYYMMDD).getD stored := by
  cases sent with
  | some d => rfl
  | none => cases stored <;> simp

/-! ### Adding -/

theorem CreateCourseBody.Consistent.row_wellShaped {body : CreateCourseBody} (h : body.Consistent)
    (courseType : CourseType) (id : Uuid) (createdAt : Instant) :
    (body.row courseType id createdAt).WellShaped := by
  refine ⟨fun hkind => ?_, fun hkind => ?_⟩
  · have hkind : body.kind = .theoryGroup := hkind
    obtain ⟨start, stop, hstart, hstop, hle⟩ := h.theory hkind
    have hdates : body.theoryDates = (some (dateToYYYYMMDD start), some (dateToYYYYMMDD stop)) := by
      rw [theoryDates, hkind, hstart, hstop]
    exact ⟨_, _, congrArg Prod.fst hdates, congrArg Prod.snd hdates, dateToYYYYMMDD_mono hle⟩
  · have hdates : body.theoryDates = (none, none) := by
      unfold theoryDates
      split
      · next htheory _ _ => exact absurd htheory hkind
      · rfl
    exact ⟨congrArg Prod.fst hdates, congrArg Prod.snd hdates, if_neg hkind⟩

theorem CoursesWellShaped.insertCourse {env : Env} {body : CreateCourseBody}
    (h : CoursesWellShaped db) (hbody : body.Consistent) (courseType : CourseType) :
    CoursesWellShaped (db.insertCourse env body courseType) := by
  intro c hc
  rcases mem_insertCourse.mp hc with hold | rfl
  · exact h c hold
  · exact hbody.row_wellShaped courseType _ _

/-! ### Editing -/

section Editing

variable {body : PatchCourseBody} {row : Course} {userId courseId courseTypeId : Uuid}

/-- The edit gives the course a theory date and leaves its kind to what is stored. -/
def PatchCourseBody.DatesOnly (body : PatchCourseBody) : Prop :=
  body.kind = none ∧ (body.theoryStartDate.join ≠ none ∨ body.theoryEndDate.join ≠ none)

/-- What remains after an edit is the dates that the rule has looked at. -/
theorem Course.patched_dates (courseTypeId : Uuid) (hcleared : body.datesCleared row = false) :
    (row.patched body courseTypeId).theoryStartDate = (body.nextStart row).map dateToYYYYMMDD ∧
      (row.patched body courseTypeId).theoryEndDate = (body.nextEnd row).map dateToYYYYMMDD := by
  simp only [Course.patched, hcleared, PatchCourseBody.nextStart, PatchCourseBody.nextEnd,
    map_dateToYYYYMMDD_getD]
  exact ⟨rfl, rfl⟩

theorem PatchCourseBody.datesInOrder_eq_true :
    body.datesInOrder row = true ↔ ∃ start stop, body.nextStart row = some start ∧
      body.nextEnd row = some stop ∧ start ≤ stop := by
  unfold datesInOrder
  split <;> simp_all

/-- An edit of a theory group has put its dates in order, or has not touched them. -/
theorem PatchCourseRules.theory_dates (h : PatchCourseRules userId body courseId db row courseTypeId)
    (hrow : row.WellShaped) (hkind : body.nextKind row = .theoryGroup) :
    body.datesInOrder row = true := by
  have hallowed := h.allowed
  simp only [assertCoursePatchAllowed, except_bind_eq_ok, throwIf_eq_ok, not_and,
    Bool.not_eq_false] at hallowed
  obtain ⟨_, hdates, _⟩ := hallowed
  by_cases hsent : body.kind ≠ none ∨ body.theoryStartDate ≠ none ∨ body.theoryEndDate ≠ none
  · exact hdates hkind hsent
  · simp only [not_or, not_not] at hsent
    obtain ⟨hnokind, hnostart, hnostop⟩ := hsent
    have hsame : row.kind = .theoryGroup := by
      rwa [PatchCourseBody.nextKind, hnokind] at hkind
    obtain ⟨start, stop, hstart, hstop, hle⟩ := hrow.theory hsame
    refine PatchCourseBody.datesInOrder_eq_true.mpr
      ⟨yyyymmddToDate start, yyyymmddToDate stop, ?_, ?_, ?_⟩
    · rw [PatchCourseBody.nextStart, hnostart, hstart]
      rfl
    · rw [PatchCourseBody.nextEnd, hnostop, hstop]
      rfl
    · exact Int.mul_le_mul_of_nonneg_right hle (by decide)

/-- An edit that keeps the kind of another course writes no limit, and no date unless it sends
one. -/
theorem PatchCourseRules.other_empty (h : PatchCourseRules userId body courseId db row courseTypeId)
    (hrow : row.WellShaped) (hkind : body.nextKind row ≠ .theoryGroup)
    (hcleared : body.datesCleared row = false) (hdates : ¬body.DatesOnly) :
    body.nextStart row = none ∧ body.nextEnd row = none ∧ body.nextCapacity row = none := by
  have hallowed := h.allowed
  simp only [assertCoursePatchAllowed, except_bind_eq_ok, throwIf_eq_ok, not_and,
    not_not] at hallowed
  obtain ⟨_, _, _, hcapacity, _⟩ := hallowed
  have hnokind : body.kind = none := by
    simpa [PatchCourseBody.datesCleared, hkind] using hcleared
  rw [PatchCourseBody.nextKind, hnokind, Option.getD_none] at hkind
  obtain ⟨hstart, hstop, hstored⟩ := hrow.other hkind
  simp only [PatchCourseBody.DatesOnly, hnokind, true_and, not_or, not_not] at hdates
  refine ⟨?_, ?_, ?_⟩
  · rw [PatchCourseBody.nextStart, hstart]
    cases hsent : body.theoryStartDate with
    | none => rfl
    | some d => simpa [hsent] using hdates.1
  · rw [PatchCourseBody.nextEnd, hstop]
    cases hsent : body.theoryEndDate with
    | none => rfl
    | some d => simpa [hsent] using hdates.2
  · by_contra hsome
    have hnext : body.nextKind row ≠ .theoryGroup := by
      rwa [PatchCourseBody.nextKind, hnokind]
    rw [PatchCourseBody.nextCapacity, hcapacity hnext hsome, hstored] at hsome
    exact hsome rfl

theorem PatchCourseRules.patched_wellShaped
    (h : PatchCourseRules userId body courseId db row courseTypeId) (hrow : row.WellShaped)
    (hdates : row.kind ≠ .theoryGroup → ¬body.DatesOnly) :
    (row.patched body courseTypeId).WellShaped := by
  refine ⟨fun hkind => ?_, fun hkind => ?_⟩
  · have hkind : body.nextKind row = .theoryGroup := hkind
    obtain ⟨start, stop, hstart, hstop, hle⟩ :=
      PatchCourseBody.datesInOrder_eq_true.mp (h.theory_dates hrow hkind)
    have hcleared : body.datesCleared row = false := by
      simp [PatchCourseBody.datesCleared, hkind]
    obtain ⟨hstart', hstop'⟩ := Course.patched_dates courseTypeId hcleared
    refine ⟨_, _, ?_, ?_, dateToYYYYMMDD_mono hle⟩
    · rw [hstart', hstart, Option.map_some]
    · rw [hstop', hstop, Option.map_some]
  · have hkind : body.nextKind row ≠ .theoryGroup := hkind
    cases hcleared : body.datesCleared row with
    | true => simp [Course.patched, hcleared]
    | false =>
      obtain ⟨hstart', hstop'⟩ := Course.patched_dates courseTypeId hcleared
      have hsent : ¬body.DatesOnly := by
        by_cases htheory : row.kind = .theoryGroup
        · rintro ⟨hnokind, _⟩
          rw [PatchCourseBody.nextKind, hnokind] at hkind
          exact hkind htheory
        · exact hdates htheory
      obtain ⟨hstart, hstop, hcapacity⟩ := h.other_empty hrow hkind hcleared hsent
      refine ⟨?_, ?_, ?_⟩
      · rw [hstart', hstart, Option.map_none]
      · rw [hstop', hstop, Option.map_none]
      · simpa [Course.patched, hcleared, PatchCourseBody.nextCapacity] using hcapacity

end Editing

/-! ### Runs -/

inductive CourseCall where
  | createCourseForUser (userId : Uuid) (body : CreateCourseBody)
  | patchCourseForOwner (userId courseId : Uuid) (body : PatchCourseBody)

namespace CourseCall

/-- The state a call leaves, whether it succeeds or fails. -/
def run (env : Env) (db : Db) : CourseCall → Db
  | .createCourseForUser userId body => (OSK.createCourseForUser env userId body db).2
  | .patchCourseForOwner userId courseId body => (OSK.patchCourseForOwner userId courseId body db).2

def Accepted : CourseCall → Prop
  | .createCourseForUser _ body => body.Accepted
  | .patchCourseForOwner _ _ body => body.Accepted

/-- An edit whose rules pass, and that sends a theory date but no kind, is of a theory group. -/
def Careful (db : Db) : CourseCall → Prop
  | .createCourseForUser _ _ => True
  | .patchCourseForOwner userId courseId body => ∀ row courseTypeId,
    PatchCourseRules userId body courseId db row courseTypeId → row.kind ≠ .theoryGroup →
      ¬body.DatesOnly

/-- Calls with accepted bodies, where `allowed` may refuse some. -/
def calls (allowed : Db → CourseCall → Prop) : Calls (Env × CourseCall) Db where
  allowed k db := k.2.Accepted ∧ allowed db k.2
  act k db := k.2.run k.1 db

theorem run_coursesWellShaped {env : Env} {call : CourseCall} (haccepted : call.Accepted)
    (hcareful : call.Careful db) (h : CoursesWellShaped db) :
    CoursesWellShaped (call.run env db) := by
  cases call with
  | createCourseForUser userId body =>
    show CoursesWellShaped (OSK.createCourseForUser env userId body db).2
    rcases (createCourseForUser_fails env userId body).cases db with ⟨dto, hok⟩ | hs
    · obtain ⟨courseType, _, hdb⟩ := createCourseForUser_ok hok
      rw [hdb]
      exact h.insertCourse (CreateCourseBody.Accepted.consistent haccepted) courseType
    · rw [hs]
      exact h
  | patchCourseForOwner userId courseId body =>
    show CoursesWellShaped (OSK.patchCourseForOwner userId courseId body db).2
    rcases patchCourseForOwner_store userId courseId body db with hs | ⟨row, _, rules, hs⟩
    · rw [hs]
      exact h
    · rw [hs]
      intro c hc
      rcases rules.mem_cases hc with ⟨hold, _⟩ | rfl
      · exact h c hold
      · have hrow := h row (Table.mem_of_findUnique rules.found)
        exact rules.patched_wellShaped hrow (hcareful row _ rules)

end CourseCall

namespace DatedCourse

/-- The school, where nobody takes the practical course yet and both kinds are offered. -/
def start : Db :=
  { SmallSchool.db with
    schoolSettings :=
      .singleton {
        schoolId := 10, enabledCourseKinds := [.theoryGroup, .practical]
        min_final_pos := SmallSchool.settings.min_final_pos
        min_final_le := SmallSchool.settings.min_final_le }
    courseParticipants := .empty }

theorem start_coursesWellShaped : CoursesWellShaped start := by
  intro c hc
  obtain rfl := List.mem_singleton.mp hc
  exact ⟨nofun, fun _ => ⟨rfl, rfl, rfl⟩⟩

def patch (body : PatchCourseBody) : Env × CourseCall :=
  (SmallSchool.envAt 0, .patchCourseForOwner 1 50 body)

def dated : Env × CourseCall := patch { theoryStartDate := some (some 0) }

def theoryGroup : Env × CourseCall :=
  patch {
    kind := some .theoryGroup
    theoryStartDate := some (some 0)
    theoryEndDate := some (some (3 * msPerDay))
    capacity := some (some 12) }

end DatedCourse

open DatedCourse in
/-- A practical course is given a date. -/
theorem run_not_coursesWellShaped : ¬∀ db db' : Db, CoursesWellShaped db →
    (CourseCall.calls fun _ _ => True).Run db db' → CoursesWellShaped db' := by
  intro h
  have hrun := Calls.run_after (CourseCall.calls fun _ _ => True) [dated] start
    ⟨⟨rfl, trivial⟩, trivial⟩
  have hshape := h _ _ start_coursesWellShaped hrun _ List.mem_cons_self
  exact absurd (hshape.other (by decide)).1 (by decide)

/-- In every run of careful calls every course has the shape of its kind. -/
theorem careful_run_coursesWellShaped {db db' : Db} (h : CoursesWellShaped db)
    (hrun : (CourseCall.calls fun db call => call.Careful db).Run db db') :
    CoursesWellShaped db' := by
  refine Calls.Run.invariant (fun _ _ hallowed hdb => ?_) h hrun
  exact CourseCall.run_coursesWellShaped hallowed.1 hallowed.2 hdb

open DatedCourse in
/-- The course becomes a theory group, and its first date is moved. -/
theorem careful_run_coursesWellShaped_theoryGroup :
    CoursesWellShaped ((CourseCall.calls fun db call => call.Careful db).after
        [theoryGroup, dated] start) ∧
      ((CourseCall.calls fun db call => call.Careful db).after [theoryGroup, dated]
        start).courses.rows.map Course.theoryEndDate = [some 3] := by
  refine ⟨careful_run_coursesWellShaped start_coursesWellShaped (Calls.run_after _ _ _ ?_), by decide⟩
  refine ⟨⟨rfl, ?_⟩, ⟨rfl, ?_⟩, trivial⟩
  · exact fun _ _ _ _ hdates => nomatch hdates.1
  · intro row _ rules hother
    have hrow := rules.found
    cases hrow
    exact absurd rfl hother

end OSK
