import Mathlib.Logic.Relation
import OskManager.Sample.SmallSchool
import OskManager.Schedule.EventSafety
import OskManager.Schedule.LessonSafety

/-! No double booking. A run of the operations that write the schedule keeps the calendar free
of conflicts as long as none of them takes an event out of CANCELLED; the two operations that
can do so keep it under a condition on the event's slot that they do not check. -/

namespace OSK

open Relational Booking

/-! ### Runs -/

inductive ScheduleCall where
  | bookLesson (actor : Actor) (body : BookLessonBody)
  | bookOwnLesson (actor : Actor) (body : BookOwnLessonBody)
  | updateLesson (actor : Actor) (lessonId : Uuid) (body : UpdateLessonBody)
  | cancelLesson (actor : Actor) (lessonId : Uuid)
  | cancelOwnLesson (actor : Actor) (lessonId : Uuid)
  | createInstructorEvent (actor : Actor) (body : CreateInstructorEventBody)
  | updateInstructorEvent (actor : Actor) (eventId : Uuid) (body : PatchInstructorEventBody)
  | deleteInstructorEvent (actor : Actor) (eventId : Uuid)
  | bulkUpdateEventStatus (actor : Actor) (body : BulkUpdateEventStatusBody)
  | assignStudentsToEvent (actor : Actor) (eventId : Uuid) (studentIds : List Uuid)
  | replaceEventStudents (actor : Actor) (eventId : Uuid) (studentIds : List Uuid)
  | removeStudentFromEvent (actor : Actor) (eventId studentUserId : Uuid)

/-- The state a call leaves, whether it succeeds or fails. -/
def ScheduleCall.run (env : Env) (db : Db) : ScheduleCall → Db
  | .bookLesson actor body => (OSK.bookLesson env actor body db).2
  | .bookOwnLesson actor body => (OSK.bookOwnLesson env actor body db).2
  | .updateLesson actor lessonId body => (OSK.updateLesson env actor lessonId body db).2
  | .cancelLesson actor lessonId => (OSK.cancelLesson env actor lessonId db).2
  | .cancelOwnLesson actor lessonId => (OSK.cancelOwnLesson env actor lessonId db).2
  | .createInstructorEvent actor body => (OSK.createInstructorEvent env actor body db).2
  | .updateInstructorEvent actor eventId body =>
    (OSK.updateInstructorEvent env actor eventId body db).2
  | .deleteInstructorEvent actor eventId => (OSK.deleteInstructorEvent actor eventId db).2
  | .bulkUpdateEventStatus actor body => (OSK.bulkUpdateEventStatus actor body db).2
  | .assignStudentsToEvent actor eventId studentIds =>
    (OSK.assignStudentsToEvent env actor eventId studentIds db).2
  | .replaceEventStudents actor eventId studentIds =>
    (OSK.replaceEventStudents env actor eventId studentIds db).2
  | .removeStudentFromEvent actor eventId studentUserId =>
    (OSK.removeStudentFromEvent actor eventId studentUserId db).2

/-- Some event is CANCELLED before and has another status after. -/
def Reactivates (db db' : Db) : Prop :=
  ∃ e ∈ db.instructorEvents.rows, e.status = .cancelled ∧
    ∃ e' ∈ db'.instructorEvents.rows, e'.id = e.id ∧ e'.status ≠ .cancelled

def ScheduleStep (db db' : Db) : Prop :=
  ∃ (env : Env) (call : ScheduleCall), db' = call.run env db ∧ ¬Reactivates db db'

/-- The write phase of an edit that has looked its slot up or finds the event still in it. -/
theorem writeEventUpdate_noDoubleBooking {env : Env} {db : Db} {eventId : Uuid}
    {body : PatchInstructorEventBody} {u : PreparedEventUpdate} (h : NoDoubleBooking db)
    (hfresh : ∀ row ∈ db.instructorEvents.findUnique eventId,
      u.merged.timeChanged u.current = true ∨ u.merged.instructorChanged u.current = true ∨
        u.merged.status = .cancelled ∨ u.Fresh row)
    (hno : ¬Reactivates db (writeEventUpdate env eventId body u db).2) :
    NoDoubleBooking (writeEventUpdate env eventId body u db).2 := by
  refine noDoubleBooking_after (writeEventUpdate_fails eventId body u) h fun dto db' hok => ?_
  rw [hok] at hno
  obtain ⟨hrules, row, hfound, rfl, -⟩ := (writeEventUpdate_eq_ok ..).mp hok
  rw [rewriteEvent_noDoubleBooking_iff h hfound]
  intro hactive hstatus
  have hmem := Table.mem_of_findUnique hfound
  have hid : row.id = eventId := Table.key_of_findUnique hfound
  have hocc : row.occupies = true := by
    rw [InstructorEvent.occupies_eq_true]
    refine ⟨hactive, fun hcancelled => hno ⟨row, hmem, hcancelled, ?_⟩⟩
    refine ⟨row.rewritten u, ?_, rfl, hstatus⟩
    refine (Table.mem_updateMany _ _ _ (InstructorEvent.id_rewritten u) _).mpr ⟨row, hmem, ?_⟩
    rw [if_pos (decide_eq_true hid)]
  apply rewritten_freeFor h hfound hrules
  rcases hfresh row hfound with ht | hi | hs | hrow
  · exact Or.inl (Or.inl ht)
  · exact Or.inl (Or.inr hi)
  · exact absurd hs hstatus
  · exact Or.inr ⟨hocc, hrow⟩

theorem updateInstructorEvent_noDoubleBooking {env : Env} {db : Db} (actor : Actor)
    (eventId : Uuid) (body : PatchInstructorEventBody) (h : NoDoubleBooking db)
    (hno : ¬Reactivates db (updateInstructorEvent env actor eventId body db).2) :
    NoDoubleBooking (updateInstructorEvent env actor eventId body db).2 := by
  have hkeeps : Prog.Keeps Refreshed (prepareEventUpdate env actor eventId body) :=
    prepareEventUpdate_keeps actor eventId body
  obtain ⟨p, hread⟩ := hkeeps db
  have hrefreshed := (noDoubleBooking_refreshed db p).mpr h
  rw [updateInstructorEvent, Prog.bind_run] at hno ⊢
  rcases hprep : prepareEventUpdate env actor eventId body db with ⟨_ | u, t⟩ <;>
    rw [hprep] at hno hread <;> dsimp only at hno hread ⊢ <;> rw [hread] at hno ⊢
  · exact hrefreshed
  · obtain ⟨hrules, -, -⟩ := (prepareEventUpdate_eq_ok ..).mp hprep
    apply writeEventUpdate_noDoubleBooking hrefreshed _ hno
    intro row hrow
    cases hrules.found.symm.trans hrow
    exact Or.inr (Or.inr (Or.inr u.fresh_current))

theorem bulkUpdateEventStatus_noDoubleBooking {db : Db} (actor : Actor)
    (body : BulkUpdateEventStatusBody) (h : NoDoubleBooking db)
    (hno : ¬Reactivates db (bulkUpdateEventStatus actor body db).2) :
    NoDoubleBooking (bulkUpdateEventStatus actor body db).2 := by
  apply noDoubleBooking_after (bulkUpdateEventStatus_fails actor body) h
  intro r db' hok
  rw [hok] at hno
  obtain ⟨_, ids, hids, ⟨_, _, rfl⟩ | ⟨_, _, _, rfl⟩⟩ := (bulkUpdateEventStatus_eq_ok ..).mp hok
  · exact h
  by_cases hstatus : body.status = .cancelled
  · rw [hstatus]
    exact setEventStatuses_cancelled h ids
  rw [setEventStatuses_noDoubleBooking_iff h (bulkAllowedEventIds_active hids) hstatus]
  intro e he hid hcancelled
  refine absurd ⟨e, he, hcancelled, e.withStatus body.status, ?_, rfl, hstatus⟩ hno
  refine (Table.mem_updateMany _ _ _ (InstructorEvent.id_withStatus body.status) _).mpr ⟨e, he, ?_⟩
  rw [if_pos (decide_eq_true hid)]

theorem scheduleStep_noDoubleBooking {db db' : Db} (h : NoDoubleBooking db)
    (hstep : ScheduleStep db db') : NoDoubleBooking db' := by
  obtain ⟨env, call, rfl, hno⟩ := hstep
  cases call with
  | bookLesson actor body => exact bookLesson_noDoubleBooking actor body h
  | bookOwnLesson actor body => exact bookOwnLesson_noDoubleBooking actor body h
  | updateLesson actor lessonId body => exact updateLesson_noDoubleBooking actor lessonId body h
  | cancelLesson actor lessonId => exact cancelLesson_noDoubleBooking actor lessonId h
  | cancelOwnLesson actor lessonId => exact cancelOwnLesson_noDoubleBooking actor lessonId h
  | createInstructorEvent actor body => exact createInstructorEvent_noDoubleBooking actor body h
  | updateInstructorEvent actor eventId body =>
    exact updateInstructorEvent_noDoubleBooking actor eventId body h hno
  | deleteInstructorEvent actor eventId =>
    exact deleteInstructorEvent_noDoubleBooking actor eventId h
  | bulkUpdateEventStatus actor body =>
    exact bulkUpdateEventStatus_noDoubleBooking actor body h hno
  | assignStudentsToEvent actor eventId ids =>
    exact assignStudentsToEvent_noDoubleBooking actor eventId ids h
  | replaceEventStudents actor eventId ids =>
    exact replaceEventStudents_noDoubleBooking actor eventId ids h
  | removeStudentFromEvent actor eventId id =>
    exact removeStudentFromEvent_noDoubleBooking actor eventId id h

/-- Whatever is called, in whatever order, at whatever times. -/
theorem run_noDoubleBooking {db db' : Db} (h : NoDoubleBooking db)
    (hrun : Relation.ReflTransGen ScheduleStep db db') : NoDoubleBooking db' := by
  induction hrun with
  | refl => exact h
  | tail _ hstep ih => exact scheduleStep_noDoubleBooking ih hstep

open SmallSchool in
theorem smallSchool_noDoubleBooking : NoDoubleBooking SmallSchool.db := by
  intro i j _ a b ha
  cases i <;> cases ha

def SmallSchool.tuesdayDrive : ScheduleCall :=
  .bookLesson manager ⟨50, 3, 20, clock 5 10 0, clock 5 11 0, 40⟩

open SmallSchool in
theorem run_noDoubleBooking_tuesdayDrive :
    (tuesdayDrive.run (envAt (clock 4 8 0)) SmallSchool.db).lessons.rows.length = 1 ∧
      NoDoubleBooking (tuesdayDrive.run (envAt (clock 4 8 0)) SmallSchool.db) := by
  refine ⟨by decide, run_noDoubleBooking smallSchool_noDoubleBooking (.single ?_)⟩
  refine ⟨envAt (clock 4 8 0), tuesdayDrive, rfl, ?_⟩
  intro h
  obtain ⟨e, he, _⟩ := h
  cases he

/-! ### Reactivation -/

/-- The slot the event would hold after the edit. -/
def InstructorEvent.patchedEntry (db : Db) (current : InstructorEvent)
    (body : PatchInstructorEventBody) : Entry Instant Resource :=
  (current.rewritten ⟨current, mergeEvent current body, current.schoolId⟩).entry db

/-- An operation that reactivates events is safe exactly when it looks their slots up, which
only an edit of time or instructor does, or when the slots are free anyway. -/
theorem reactivation_noDoubleBooking_iff {db : Db} (h : NoDoubleBooking db) (env : Env)
    (actor : Actor) (db' : Db) :
    (∀ eventId body dto current, updateInstructorEvent env actor eventId body db = (.ok dto, db') →
      db.instructorEvents.findUnique eventId = some current → current.status = .cancelled →
      (mergeEvent current body).status ≠ .cancelled →
      (NoDoubleBooking db' ↔
        ((mergeEvent current body).timeChanged current = true ∨
          (mergeEvent current body).instructorChanged current = true) ∨
        (calendar db).FreeFor (.event eventId) (current.patchedEntry db body))) ∧
    (∀ body result ids, bulkUpdateEventStatus actor body db = (.ok result, db') →
      bulkAllowedEventIds db actor body.eventIds.eraseDups = .ok ids → body.status ≠ .cancelled →
      (NoDoubleBooking db' ↔ ReactivationFits db ids)) := by
  refine ⟨?_, ?_⟩
  · intro eventId body dto current hok hfound hcancelled hstatus
    obtain ⟨u, p, hprep, _, _, hrules, rfl, _⟩ := (updateInstructorEvent_eq_ok ..).mp hok
    have hcurrent : u.current = current := by
      rw [hprep.found, Option.some.injEq] at hfound
      exact hfound
    have hmerged : u.merged = mergeEvent current body := hcurrent ▸ hprep.merged
    have hentry : (u.current.rewritten u).entry db = current.patchedEntry db body := by
      rw [InstructorEvent.patchedEntry, hcurrent, ← hmerged]
      rfl
    rw [rewriteEvent_refreshed, noDoubleBooking_refreshed,
      rewriteEvent_noDoubleBooking_iff h hprep.found, hentry, hmerged]
    refine ⟨?_, ?_⟩
    · exact fun hfree => Or.inr (hfree hprep.active hstatus)
    · rintro (hch | hfree) _ _
      · rw [← hentry]
        rw [← hcurrent, ← hprep.merged] at hch
        exact rewritten_freeFor h hprep.found hrules (Or.inl hch)
      · exact hfree
  · intro body result ids hok hids hstatus
    obtain ⟨_, ids', hids', hcase⟩ := (bulkUpdateEventStatus_eq_ok ..).mp hok
    rw [hids, Except.ok.injEq] at hids'
    subst hids'
    rcases hcase with ⟨rfl, _, rfl⟩ | ⟨_, _, _, rfl⟩
    · exact ⟨fun _ e _ hid => absurd hid List.not_mem_nil, fun _ => h⟩
    · exact setEventStatuses_noDoubleBooking_iff h (bulkAllowedEventIds_active hids) hstatus

namespace SmallSchool

/-- A drive on Tuesday at ten that was called off, -/
def cancelledDrive : InstructorEvent where
  id := 60
  instructorId := 20
  schoolId := 10
  type := .drive
  startTime := clock 5 10 0
  endTime := clock 5 11 0
  vehicleId := some 40
  status := .cancelled

/-- and a lesson that took its slot. -/
def rebookedLesson : Lesson := tuesdayLesson .practice

def withCancelledDrive : Db := db .empty ⟨[cancelledDrive], by decide⟩

def withRebookedSlot : Db := db ⟨[rebookedLesson], by decide⟩ ⟨[cancelledDrive], by decide⟩

theorem cancelledDrive_not_in_calendar (lessons : Table Lesson.id) (id : Uuid) :
    calendar (db lessons ⟨[cancelledDrive], by decide⟩) (.event id) = none := by
  rw [Option.eq_none_iff_forall_ne_some]
  intro b hb
  obtain ⟨e, he, _, ho, _⟩ := (calendar_event_eq_some _ _ _).mp hb
  rw [List.mem_singleton.mp he] at ho
  cases ho

theorem withCancelledDrive_free (i : RecordId) : calendar withCancelledDrive i = none := by
  cases i with
  | lesson id => rfl
  | event id => exact cancelledDrive_not_in_calendar _ id

end SmallSchool

open SmallSchool in
/-- Planning the drive again is safe while its slot is free, by either operation. -/
theorem reactivation_noDoubleBooking_free_slot :
    NoDoubleBooking (updateInstructorEvent (envAt (clock 4 8 0)) manager 60
      { status := some .planned } withCancelledDrive).2 ∧
    NoDoubleBooking (bulkUpdateEventStatus manager ⟨.planned, [60]⟩ withCancelledDrive).2 := by
  have hnothing : NoDoubleBooking withCancelledDrive := by
    intro i j _ a b ha
    rw [withCancelledDrive_free] at ha
    cases ha
  have hfree (i : RecordId) (e : Entry Instant Resource) :
      (calendar withCancelledDrive).FreeFor i e := by
    intro j _ b hb
    rw [withCancelledDrive_free] at hb
    cases hb
  have hiff := reactivation_noDoubleBooking_iff hnothing (envAt (clock 4 8 0)) manager
  refine ⟨?_, ?_⟩
  · obtain ⟨dto, t, hok⟩ : Prog.Succeeds (updateInstructorEvent (envAt (clock 4 8 0)) manager 60
        { status := some .planned }) withCancelledDrive := by decide
    rw [hok]
    exact ((hiff t).1 60 _ dto cancelledDrive hok rfl rfl (by decide)).mpr (Or.inr (hfree _ _))
  · obtain ⟨result, t, hok⟩ : Prog.Succeeds (bulkUpdateEventStatus manager ⟨.planned, [60]⟩)
        withCancelledDrive := by decide
    rw [hok]
    apply ((hiff t).2 _ result [60] hok rfl (by decide)).mpr
    refine fun e he _ _ => ⟨hfree _ _, fun e' he' _ _ hne => absurd ?_ hne⟩
    rw [List.mem_singleton.mp he, List.mem_singleton.mp he']

open SmallSchool in
/-- With the slot taken both operations succeed and book instructor and vehicle twice. -/
theorem reactivation_double_books :
    NoDoubleBooking withRebookedSlot ∧
    (Prog.Succeeds (updateInstructorEvent (envAt (clock 4 8 0)) manager 60
        { status := some .planned }) withRebookedSlot ∧
      ¬NoDoubleBooking (updateInstructorEvent (envAt (clock 4 8 0)) manager 60
        { status := some .planned } withRebookedSlot).2) ∧
    (Prog.Succeeds (bulkUpdateEventStatus manager ⟨.planned, [60]⟩) withRebookedSlot ∧
      ¬NoDoubleBooking (bulkUpdateEventStatus manager ⟨.planned, [60]⟩ withRebookedSlot).2) := by
  refine ⟨?_, ⟨by decide, fun h => ?_⟩, by decide, fun h => ?_⟩
  · intro i j hij a b ha hb
    cases i with
    | event id => rw [withRebookedSlot, cancelledDrive_not_in_calendar] at ha; cases ha
    | lesson id =>
      cases j with
      | event id' => rw [withRebookedSlot, cancelledDrive_not_in_calendar] at hb; cases hb
      | lesson id' =>
        obtain ⟨l, hl, rfl, _⟩ := (calendar_lesson_eq_some _ _ _).mp ha
        obtain ⟨l', hl', rfl, _⟩ := (calendar_lesson_eq_some _ _ _).mp hb
        rw [List.mem_singleton.mp hl, List.mem_singleton.mp hl'] at hij
        exact absurd rfl hij
  · apply h (.lesson 70) (.event 60) (by decide) rebookedLesson.entry _ rfl rfl
    exact ⟨⟨clock 5 10 0, by decide, by decide, by decide, by decide⟩, .instructor 20, rfl, rfl⟩
  · apply h (.lesson 70) (.event 60) (by decide) rebookedLesson.entry _ rfl rfl
    exact ⟨⟨clock 5 10 0, by decide, by decide, by decide, by decide⟩, .instructor 20, rfl, rfl⟩

end OSK
