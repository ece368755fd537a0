import OskManager.Schedule.Qualifications

/-! Qualifications and events. The instructor of a pending event with a course is qualified for the
category of the course, as long as no call makes an event pending or hands it over without asking
for the qualification: an edit asks only for theory, and only with an instructor or a type in its
body, and a change of many statuses does not ask. -/

namespace OSK

open Relational

/-- Every pending event with a course has an instructor who is qualified for its category. -/
def EventsQualified (now : Instant) (db : Db) : Prop :=
  ∀ e ∈ db.instructorEvents.rows, e.isPending now = true → ∀ courseId, e.courseId = some courseId →
    QualifiedForCourse db e.instructorId courseId

theorem eventsQualified_lasting : Timeline.Lasting EventsQualified :=
  fun _ _ _ hle h e he hpending => h e he (InstructorEvent.isPending_mono hle hpending)

/-- The edit asks whether the instructor may teach the course. -/
def PatchInstructorEventBody.AsksEligibility (body : PatchInstructorEventBody)
    (merged : MergedEvent) : Prop :=
  merged.type = .theory ∧ (body.instructorId ≠ none ∨ body.type ≠ none)

/-- The edit makes the event pending or gives it another instructor, and does not ask for his
qualification. -/
structure PreparedEventUpdate.HandedOver (now : Instant) (body : PatchInstructorEventBody)
    (u : PreparedEventUpdate) : Prop where
  pending : (u.current.rewritten u).isPending now = true
  new : u.current.isPending now = false ∨ u.merged.instructorId.uuid ≠ u.current.instructorId
  unasked : ¬body.AsksEligibility u.merged

/-! ### Each write -/

section Writes

variable {env : Env} {now : Instant} {db db' : Db}

theorem assertCourseEligible_ok {instructorId courseId : Uuid}
    (h : assertCourseEligibleForInstructorEvent db instructorId courseId = .ok ()) :
    QualifiedForCourse db instructorId courseId := by
  simp only [assertCourseEligibleForInstructorEvent, except_bind_eq_ok, orThrow_eq_ok] at h
  obtain ⟨c, hc, _, _, hqualified⟩ := h
  obtain ⟨hmem, hwhere⟩ := Table.mem_of_findFirst hc
  refine ⟨c, (Table.findUnique_eq_some _ _ _).mpr ⟨hmem, (of_decide_eq_true hwhere).1⟩, ?_⟩
  exact (assertInstructorQualified_ok hqualified).1

theorem EventsQualified.refreshed (h : EventsQualified now db) (p : Vehicle → Bool) :
    EventsQualified now (db.refreshed p) := h

theorem EventsQualified.withEvents (h : EventsQualified now db) {t : Table InstructorEvent.id}
    (hevents : ∀ e ∈ t.rows, e ∈ db.instructorEvents.rows ∨ (e.isPending now = true →
      ∀ courseId, e.courseId = some courseId → QualifiedForCourse db e.instructorId courseId)) :
    EventsQualified now { db with instructorEvents := t } := by
  intro e he hpending
  rcases hevents e he with hold | hnew
  · exact h e hold hpending
  · exact hnew hpending

theorem EventCreated.eventsQualified {actor : Actor} {body : CreateInstructorEventBody}
    (hwrite : EventCreated env actor body db db') (h : EventsQualified now db) :
    EventsQualified now db' := by
  cases hwrite with
  | refreshed p => exact h.refreshed p
  | created p schoolId rules =>
    refine (h.refreshed p).withEvents fun e he => ?_
    rcases mem_insertEvent.mp he with hold | rfl
    · exact Or.inl hold
    · exact Or.inr fun _ courseId hcourse => assertCourseEligible_ok (rules.course courseId hcourse)

theorem EventEdited.eventsQualified {actor : Actor} {eventId : Uuid}
    {body : PatchInstructorEventBody} (hwrite : EventEdited env actor eventId body db db')
    (h : EventsQualified now db)
    (hcareful : ∀ u, EventEditPasses env actor eventId body db u → u.HandedOver now body →
      ∀ courseId, u.current.courseId = some courseId →
        QualifiedForCourse db u.merged.instructorId.uuid courseId) :
    EventsQualified now db' := by
  cases hwrite with
  | refreshed p => exact h.refreshed p
  | edited p u passes =>
    have prepared := passes.rules.prepared
    refine (h.refreshed p).withEvents fun e he => ?_
    rcases prepared.mem_cases he with ⟨hold, _⟩ | rfl
    · exact Or.inl hold
    refine Or.inr fun hpending courseId hcourse => ?_
    show QualifiedForCourse db u.merged.instructorId.uuid courseId
    by_cases hasks : body.AsksEligibility u.merged
    · refine assertCourseEligible_ok (prepared.course courseId ?_ hasks)
      rw [prepared.merged]
      exact hcourse
    · by_cases hnew : u.current.isPending now = false ∨
          u.merged.instructorId.uuid ≠ u.current.instructorId
      · exact hcareful u passes ⟨hpending, hnew, hasks⟩ courseId hcourse
      · -- pending before, and with the same instructor
        obtain ⟨hbefore, hsame⟩ := not_or.mp hnew
        rw [not_not.mp hsame]
        have hmem := Table.mem_of_findUnique prepared.found
        exact h u.current hmem (Bool.not_eq_false _ ▸ hbefore) courseId hcourse

theorem StatusesChanged.eventsQualified {actor : Actor} {body : BulkUpdateEventStatusBody}
    (hwrite : StatusesChanged actor body db db') (h : EventsQualified now db)
    (hcareful : ∀ ids, StatusChangePasses actor body db ids → ∀ e ∈ db.instructorEvents.rows,
      e.id ∈ ids → e.Replanned now body.status → ∀ courseId, e.courseId = some courseId →
        QualifiedForCourse db e.instructorId courseId) :
    EventsQualified now db' := by
  cases hwrite with
  | refreshed p => exact h.refreshed p
  | changed ids passes =>
    refine h.withEvents fun e he => ?_
    rcases mem_setEventStatuses he with hold | ⟨q, hq, hid, rfl⟩
    · exact Or.inl hold
    refine Or.inr fun hpending courseId hcourse => ?_
    rcases InstructorEvent.pending_cases hpending with hbefore | hreplanned
    · exact h q hq hbefore courseId hcourse
    · exact hcareful ids passes q hq hid hreplanned courseId hcourse

/-- An instructor keeps the qualifications that pending events need. -/
theorem KeepsQualifications.eventsQualified {current : InstructorProfile}
    {ids : Option (List Uuid)} (hkeeps : KeepsQualifications db db' current.id ids)
    (hmem : current ∈ db.instructorProfiles.rows)
    (hguard : assertQualificationsCanChange env db current ids = .ok ())
    (h : EventsQualified env.now db)
    (hcareful : ∀ selectedIds, ids = some selectedIds → ∀ e ∈ db.instructorEvents.rows,
      e.instructorId = current.id → e.isPending env.now = true →
        ∀ courseId, e.courseId = some courseId → ∀ c, db.courses.findUnique courseId = some c →
          c.courseTypeId ∈ current.qualifiedCourseTypes → c.courseTypeId ∉ selectedIds →
            c.deletedAt = none) :
    EventsQualified env.now db' := by
  intro e he hpending courseId hcourse
  rw [hkeeps.events] at he
  obtain ⟨c, hc, hqualified⟩ := h e he hpending courseId hcourse
  refine ⟨c, by rw [hkeeps.courses, hc], ?_⟩
  refine hkeeps.qualified e.instructorId _ hqualified fun hi selectedIds hids => ?_
  obtain ⟨p, hp, hid, htype⟩ := hqualified
  rw [db.instructorProfiles.key_inj hp hmem (hid.trans hi)] at htype
  rw [hids] at hguard
  by_contra hremoved
  obtain ⟨_, hevents, _⟩ := removedQualification_unused hguard htype hremoved
  have hunused := hevents e he hi hpending
  rw [hcourse, Option.any_some, Db.openCourseIsOfTypes, hc, Option.any_some] at hunused
  refine of_decide_eq_false hunused ⟨List.mem_singleton_self _, ?_⟩
  exact hcareful selectedIds hids e he hi hpending courseId hcourse c hc htype hremoved

end Writes

/-! ### Runs -/

/-- The operations that write events or the qualifications of an instructor. -/
inductive EventQualificationCall where
  | createInstructorEvent (actor : Actor) (body : CreateInstructorEventBody)
  | updateInstructorEvent (actor : Actor) (eventId : Uuid) (body : PatchInstructorEventBody)
  | bulkUpdateEventStatus (actor : Actor) (body : BulkUpdateEventStatusBody)
  | updateInstructorForManagerOrAdmin (actor : Actor) (instructorId : Uuid)
      (patch : InstructorPatchInput)

namespace EventQualificationCall

/-- The state a call leaves, whether it succeeds or fails. -/
def run (env : Env) (db : Db) : EventQualificationCall → Db
  | .createInstructorEvent actor body => (OSK.createInstructorEvent env actor body db).2
  | .updateInstructorEvent actor eventId body =>
    (OSK.updateInstructorEvent env actor eventId body db).2
  | .bulkUpdateEventStatus actor body => (OSK.bulkUpdateEventStatus actor body db).2
  | .updateInstructorForManagerOrAdmin actor instructorId patch =>
    (OSK.updateInstructorForManagerOrAdmin env actor instructorId patch db).2

/-- A call whose checks pass gives no event to an instructor who is not qualified for its course,
unless it asks for that itself. The guard on qualifications does not see events of deleted courses,
which the trigger `guard_course_event_reference` keeps out of the table. -/
def Careful (env : Env) (db : Db) : EventQualificationCall → Prop
  | .createInstructorEvent _ _ => True
  | .updateInstructorEvent actor eventId body => ∀ u, EventEditPasses env actor eventId body db u →
    u.HandedOver env.now body → ∀ courseId, u.current.courseId = some courseId →
      QualifiedForCourse db u.merged.instructorId.uuid courseId
  | .bulkUpdateEventStatus actor body => ∀ ids, StatusChangePasses actor body db ids →
    ∀ e ∈ db.instructorEvents.rows, e.id ∈ ids → e.Replanned env.now body.status →
      ∀ courseId, e.courseId = some courseId → QualifiedForCourse db e.instructorId courseId
  | .updateInstructorForManagerOrAdmin actor instructorId patch => ∀ current,
    InstructorEditPasses env actor instructorId patch db current → ∀ selectedIds,
      patch.qualifiedCourseTypeIds = some selectedIds → ∀ e ∈ db.instructorEvents.rows,
        e.instructorId = current.id → e.isPending env.now = true →
          ∀ courseId, e.courseId = some courseId → ∀ c, db.courses.findUnique courseId = some c →
            c.courseTypeId ∈ current.qualifiedCourseTypes → c.courseTypeId ∉ selectedIds →
              c.deletedAt = none

/-- Calls with the clocks they run at, where `allowed` may refuse some. -/
def timeline (allowed : Env → Db → EventQualificationCall → Prop) :
    Timeline (Env × EventQualificationCall) Instant Db where
  time k := k.1.now
  allowed k db := allowed k.1 db k.2
  act k db := k.2.run k.1 db

theorem run_eventsQualified {env : Env} {db : Db} {call : EventQualificationCall}
    (hcareful : call.Careful env db) (h : EventsQualified env.now db) :
    EventsQualified env.now (call.run env db) := by
  cases call with
  | createInstructorEvent actor body =>
    exact (createInstructorEvent_written actor body).eventsQualified h
  | updateInstructorEvent actor eventId body =>
    exact (updateInstructorEvent_written actor eventId body).eventsQualified h hcareful
  | bulkUpdateEventStatus actor body =>
    exact (bulkUpdateEventStatus_written actor body).eventsQualified h hcareful
  | updateInstructorForManagerOrAdmin actor instructorId patch =>
    show EventsQualified env.now
      (OSK.updateInstructorForManagerOrAdmin env actor instructorId patch db).2
    rcases updateInstructor_store env actor instructorId patch db with
      hs | ⟨current, passes, hkeeps⟩
    · rw [hs]
      exact h
    · exact hkeeps.eventsQualified passes.mem.1 passes.guard h (hcareful current passes)

end EventQualificationCall

namespace ReplannedTheory

open SmallSchool

/-- A cancelled theory event of the course, on Tuesday at noon. -/
def event : InstructorEvent where
  id := 61
  instructorId := 20
  schoolId := 10
  courseId := some 50
  type := .theory
  startTime := clock 5 12 0
  endTime := clock 5 13 0
  status := .cancelled

/-- The school with the event, and another category that no course has. -/
def start : Clocked Instant Db where
  now := clock 4 7 0
  store := { SmallSchool.db .empty ⟨[event], List.nodup_singleton _⟩ with
    courseTypes := TwoCategories.start.store.courseTypes }

theorem start_eventsQualified : EventsQualified start.now start.store := by
  intro e he hpending
  rw [List.mem_singleton.mp he] at hpending
  cases hpending

def after (hour : ℤ) (call : EventQualificationCall) (c : Clocked Instant Db) :
    Clocked Instant Db :=
  ⟨clock 4 hour 0, call.run (envAt (clock 4 hour 0)) c.store⟩

theorem after_step {allowed : Env → Db → EventQualificationCall → Prop} {hour : ℤ}
    {call : EventQualificationCall} {c : Clocked Instant Db} (hc : c.now ≤ clock 4 hour 0)
    (hallowed : allowed (envAt (clock 4 hour 0)) c.store call) :
    (EventQualificationCall.timeline allowed).Step c (after hour call c) :=
  ⟨(envAt (clock 4 hour 0), call), hc, hallowed, rfl⟩

/-- An edit that leaves an instructor with the other category only. -/
def onlyC (instructorId : Uuid) : EventQualificationCall :=
  .updateInstructorForManagerOrAdmin manager instructorId { qualifiedCourseTypeIds := some [8] }

def replanning : EventQualificationCall :=
  .bulkUpdateEventStatus manager { status := .planned, eventIds := [61] }

end ReplannedTheory

open ReplannedTheory in
/-- The instructor loses the qualification while his event is cancelled, and the event is planned
again. -/
theorem run_not_eventsQualified : ¬∀ c c' : Clocked Instant Db, EventsQualified c.now c.store →
    (EventQualificationCall.timeline fun _ _ _ => True).Run c c' →
      EventsQualified c'.now c'.store := by
  intro h
  have hrun : (EventQualificationCall.timeline fun _ _ _ => True).Run start
      (after 9 replanning (after 8 (onlyC 20) start)) :=
    (Relation.ReflTransGen.single (after_step (by decide) trivial)).tail
      (after_step (by decide) trivial)
  have hplanned := h _ _ start_eventsQualified hrun (event.withStatus .planned)
    (Table.mem_of_findUnique (k := 61) rfl) (by decide) 50 rfl
  obtain ⟨c, hc, p, hp, hid, htype⟩ := hplanned
  have hcategory : c.courseTypeId = 7 := by
    cases hc
    rfl
  rw [hcategory] at htype
  have hlost : ∀ p ∈ (after 9 replanning (after 8 (onlyC 20) start)).store.instructorProfiles.rows,
      p.id = 20 → 7 ∉ p.qualifiedCourseTypes := by
    decide +kernel
  exact hlost p hp hid htype

/-- After any run of careful calls, and while nothing happens, instructors are qualified for their
pending events. -/
theorem careful_run_eventsQualified {c c' : Clocked Instant Db}
    (h : EventsQualified c.now c.store)
    (hrun : (EventQualificationCall.timeline fun env db call => call.Careful env db).Run c c')
    {t : Instant} (ht : c'.now ≤ t) : EventsQualified t c'.store :=
  hrun.invariant_at eventsQualified_lasting
    (fun _ _ hcareful hdb => EventQualificationCall.run_eventsQualified hcareful hdb) h ht

open ReplannedTheory in
theorem careful_run_eventsQualified_other :
    EventsQualified (SmallSchool.clock 5 9 0)
        (after 9 replanning (after 8 (onlyC 21) start)).store ∧
      (after 9 replanning (after 8 (onlyC 21) start)).store.instructorEvents.rows.map
        InstructorEvent.status = [.planned] := by
  refine ⟨?_, by decide +kernel⟩
  have hremoving : (onlyC 21).Careful (SmallSchool.envAt (SmallSchool.clock 4 8 0)) start.store := by
    intro current passes _ _ e he hinstructor
    rw [List.mem_singleton.mp he, passes.mem.2] at hinstructor
    cases hinstructor
  have hreplanning : replanning.Careful (SmallSchool.envAt (SmallSchool.clock 4 9 0))
      (after 8 (onlyC 21) start).store := by
    intro _ _ e he _ _ courseId hcourse
    have hevent : ∀ e ∈ (after 8 (onlyC 21) start).store.instructorEvents.rows,
        e.instructorId = 20 ∧ e.courseId = some 50 := by
      decide +kernel
    obtain ⟨hinstructor, hcourse'⟩ := hevent e he
    obtain rfl : courseId = 50 := Option.some_inj.mp (hcourse.symm.trans hcourse')
    rw [hinstructor]
    exact ⟨{ id := 50, schoolId := 10, courseTypeId := 7, kind := .practical, totalHours := 30 },
      rfl, { id := 20, userId := 2, qualifiedCourseTypes := [7] },
      Table.mem_of_findUnique (k := 20) rfl, rfl, List.mem_singleton_self _⟩
  exact careful_run_eventsQualified start_eventsQualified
    ((Relation.ReflTransGen.single (after_step (by decide) hremoving)).tail
      (after_step (by decide) hreplanning)) (by decide)

end OSK
