import Mathlib.Tactic.MkIffOfInductiveProp
import OskManager.Schedule.CalendarWrites
import OskManager.Schedule.EventWrites

/-! Writes of events and of their participants. The rules of an edit find its slot open only
when time or instructor change, so what an edit does to the calendar depends on whether the
event already held that slot. -/

namespace OSK

open Relational Booking

section Events

variable {env : Env} {db : Db}

/-! ### Creating -/

/-- A new event has no participants, as its id is in use nowhere. -/
theorem no_participant_of_fresh (s : Uuid) :
    (env.uuid db.takenEventIds, s) ∉ db.eventParticipants.keys := by
  intro hs
  obtain ⟨p, hp, hk⟩ := (Table.mem_keys _ _).mp hs
  rw [Prod.mk.injEq] at hk
  refine env.uuid_fresh db.takenEventIds (List.mem_append_right _ ?_)
  exact hk.1 ▸ List.mem_map_of_mem hp

theorem insertEvent_noDoubleBooking {body : CreateInstructorEventBody} {schoolId : Uuid}
    (h : NoDoubleBooking db)
    (hwindow : assertInstructorEventWindowAvailable env.zone db
      { instructorId := body.instructorId, start := body.startTime, stop := body.endTime } = .ok ())
    (hvehicle : body.type = .drive → ∀ v, body.vehicleId = some v →
      assertVehicleAvailableForEventWindow db v body.startTime body.endTime = .ok ())
    (p : Vehicle → Bool) :
    NoDoubleBooking ((db.refreshed p).insertEvent env body schoolId body.storedVehicleId) := by
  refine h.set (.event (env.uuid db.takenEventIds)) (fun j hj => ?_) fun e he => ?_
  · rw [← calendar_refreshed db p]
    exact calendar_one_event (fun k hk => (Table.findUnique_insert ..).trans (if_neg hk)) j hj
  · simp only [calendar, Db.insertEvent, Table.findUnique_insert, refreshed_events, Db.nextEvent,
      CreateInstructorEventBody.row, takenEventIds_refreshed, if_true, Option.map_eq_some_iff,
      Option.filter_eq_some_iff, Option.some.injEq] at he
    obtain ⟨row, ⟨rfl, _⟩, rfl⟩ := he
    have hi := (eventWindow_iff.mp hwindow).1
    refine event_freeFor (fun s hs => ?_) (hi.freeFor (skipped_none _)) fun v hv hdrive => ?_
    · exact absurd hs (no_participant_of_fresh s)
    · have hbody : body.vehicleId = some v := by
        simpa only [CreateInstructorEventBody.storedVehicleId, if_pos hdrive] using hv
      exact (eventVehicle_open_iff.mp (hvehicle hdrive v hbody)).freeFor (skipped_none _)

theorem createInstructorEvent_noDoubleBooking (actor : Actor) (body : CreateInstructorEventBody)
    (h : NoDoubleBooking db) : NoDoubleBooking (createInstructorEvent env actor body db).2 := by
  apply noDoubleBooking_after (createInstructorEvent_fails actor body) h
  intro dto db' hok
  obtain ⟨schoolId, p, hrules, _, rfl, _⟩ := (createInstructorEvent_eq_ok ..).mp hok
  exact insertEvent_noDoubleBooking h hrules.window hrules.vehicle_free p

/-! ### Editing -/

theorem event_slot_kept {u : PreparedEventUpdate}
    (h : ¬(u.merged.timeChanged u.current = true ∨ u.merged.instructorChanged u.current = true)) :
    u.merged.start = u.current.startTime ∧ u.merged.stop = u.current.endTime ∧
      u.merged.instructorId.uuid = u.current.instructorId := by
  simp only [MergedEvent.timeChanged, MergedEvent.instructorChanged, decide_eq_true_eq, not_or,
    ne_eq, not_not] at h
  exact ⟨h.1.1, h.1.2, (UuidText.eq_ofUuid_iff.mp h.2).1⟩

theorem event_vehicle_kept {u : PreparedEventUpdate} (h : ¬u.vehicleMatters = true) :
    u.merged.vehicleId.map UuidText.uuid = u.current.vehicleId ∧
      u.merged.type = u.current.type := by
  rw [u.vehicleMatters_eq_true] at h
  simp only [MergedEvent.vehicleChanged, MergedEvent.typeChanged, decide_eq_true_eq, not_or,
    ne_eq, not_not] at h
  exact ⟨h.2.1 ▸ UuidText.map_uuid_ofUuid _, h.2.2.1⟩

/-- The row holds the slot that the edit has read and writes back without a lookup. -/
@[mk_iff]
structure PreparedEventUpdate.Fresh (u : PreparedEventUpdate) (row : InstructorEvent) : Prop where
  start : row.startTime = u.current.startTime
  stop : row.endTime = u.current.endTime
  instructor : row.instructorId = u.current.instructorId
  vehicle : u.vehicleMatters = false →
    row.vehicleId = u.current.vehicleId ∧ row.type = u.current.type

instance (u : PreparedEventUpdate) (row : InstructorEvent) : Decidable (u.Fresh row) :=
  decidable_of_iff _ (u.fresh_iff row).symm

theorem PreparedEventUpdate.fresh_current (u : PreparedEventUpdate) : u.Fresh u.current :=
  ⟨rfl, rfl, rfl, fun _ => ⟨rfl, rfl⟩⟩

/-- The slot of an edit is free when the rules have looked it up, or when the event holds it. -/
theorem rewritten_freeFor {eventId : Uuid} {body : PatchInstructorEventBody}
    {u : PreparedEventUpdate} {row : InstructorEvent} (h : NoDoubleBooking db)
    (hfound : db.instructorEvents.findUnique eventId = some row)
    (hrules : EventUpdateRules env.zone db eventId body u)
    (hheld : (u.merged.timeChanged u.current = true ∨ u.merged.instructorChanged u.current = true) ∨
      row.occupies = true ∧ u.Fresh row) :
    (calendar db).FreeFor (.event eventId) ((row.rewritten u).entry db) := by
  have hid : row.id = eventId := Table.key_of_findUnique hfound
  have hmem := Table.mem_of_findUnique hfound
  have hlooked (v : Uuid) (hv : u.merged.resolvedVehicleId = some v) (hd : u.merged.type = .drive)
      (hm : u.vehicleMatters = true) : (calendar db).FreeFor (.event eventId)
        ⟨u.merged.start, u.merged.stop, {.vehicle v}⟩ :=
    (eventVehicle_open_iff.mp (hrules.vehicle_free hd hm v hv)).freeFor (skipped_event _)
  by_cases hch : u.merged.timeChanged u.current = true ∨ u.merged.instructorChanged u.current = true
  · have hwindow := hrules.window hch
    have hm : u.vehicleMatters = true := by
      rw [u.vehicleMatters_eq_true]
      tauto
    refine event_freeFor (fun s hs => ?_) ((eventWindow_iff.mp hwindow).1.freeFor (skipped_event _))
      fun v hv hd => hlooked v hv hd hm
    rw [InstructorEvent.id_rewritten, hid] at hs
    exact ((eventWindow_iff.mp hwindow).2.2 _ rfl s hs).freeFor (skipped_event _)
  · obtain ⟨hocc, hfresh⟩ := hheld.resolve_left hch
    obtain ⟨hstart, hstop, hinstructor⟩ := event_slot_kept hch
    have hentry : calendar db (.event eventId) = some (row.entry db) :=
      hid ▸ calendar_of_event hmem hocc
    have hkept {r : Resource} (hr : r ∈ (row.entry db).uses) :
        (calendar db).FreeFor (.event eventId) ⟨u.merged.start, u.merged.stop, {r}⟩ := by
      rw [hstart, hstop, ← hfresh.start, ← hfresh.stop]
      exact freeFor_kept h hentry hr
    apply event_freeFor (fun s hs => hkept hs) (hkept (hfresh.instructor.trans hinstructor.symm))
    intro v hv hd
    by_cases hm : u.vehicleMatters = true
    · exact hlooked v hv hd hm
    · obtain ⟨hvehicle, htype⟩ := event_vehicle_kept hm
      obtain ⟨hvehicle', htype'⟩ := hfresh.vehicle (Bool.eq_false_iff.mpr hm)
      have hd' : u.merged.type = .drive := hd
      have hv' : u.merged.resolvedVehicleId = some v := hv
      rw [MergedEvent.resolvedVehicleId, if_pos hd'] at hv'
      exact hkept ⟨hvehicle'.trans (hvehicle ▸ hv'), htype'.trans (htype ▸ hd')⟩

/-- An edit keeps the calendar free of conflicts exactly when the event, if it occupies a slot
afterwards, finds that slot free. -/
theorem rewriteEvent_noDoubleBooking_iff {eventId : Uuid} {u : PreparedEventUpdate}
    {row : InstructorEvent} (h : NoDoubleBooking db)
    (hfound : db.instructorEvents.findUnique eventId = some row) :
    NoDoubleBooking (db.rewriteEvent eventId u) ↔
      (row.isActive = true → u.merged.status ≠ .cancelled →
        (calendar db).FreeFor (.event eventId) ((row.rewritten u).entry db)) := by
  have hothers (j : RecordId) (hj : j ≠ .event eventId) :
      calendar (db.rewriteEvent eventId u) j = calendar db j :=
    calendar_one_event (fun k hk => (Table.findUnique_update ..).trans (if_neg hk)) j hj
  have hself : calendar (db.rewriteEvent eventId u) (.event eventId) =
      if row.isActive = true ∧ u.merged.status ≠ .cancelled then
        some ((row.rewritten u).entry db) else none := by
    have hrow : (db.rewriteEvent eventId u).instructorEvents.findUnique eventId =
        some (row.rewritten u) := by
      apply (Table.findUnique_update _ _ _ (InstructorEvent.id_rewritten u) _).trans
      rw [if_pos rfl, hfound, Option.map_some]
    have hocc : (row.rewritten u).occupies = true ↔
        row.isActive = true ∧ u.merged.status ≠ .cancelled := InstructorEvent.occupies_eq_true _
    simp only [calendar, hrow, Option.filter_some, hocc]
    split <;> rfl
  rw [NoDoubleBooking, Calendar.conflictFree_set_iff h (.event eventId) hothers, hself]
  by_cases hs : row.isActive = true ∧ u.merged.status ≠ .cancelled
  · simp [hs.1, hs.2]
  · rw [if_neg hs]
    exact iff_of_true (fun _ hb => by cases hb) fun h1 h2 => absurd ⟨h1, h2⟩ hs

theorem rewriteEvent_refreshed (db : Db) (p : Vehicle → Bool) (eventId : Uuid)
    (u : PreparedEventUpdate) :
    (db.refreshed p).rewriteEvent eventId u = (db.rewriteEvent eventId u).refreshed p := rfl

/-! ### Deleting and changing many statuses -/

theorem deleteInstructorEvent_noDoubleBooking (actor : Actor) (eventId : Uuid)
    (h : NoDoubleBooking db) : NoDoubleBooking (deleteInstructorEvent actor eventId db).2 := by
  refine noDoubleBooking_after ?_ h fun _ db' hok => ?_
  · refine fails_bind (keeps_query _) fun _ => fails_bind (keeps_lift _) fun _ => ?_
    exact fails_bind (keeps_query _) fun _ => Prog.FailsWithin.write _
  · obtain ⟨event, _, _, _, rfl⟩ := (deleteInstructorEvent_eq_ok ..).mp hok
    refine h.shrink (shrinks_updateEvents db _ _ InstructorEvent.id_deactivated ?_ fun _ => rfl)
    intro e _ _ ho
    simp [InstructorEvent.occupies, InstructorEvent.deactivated] at ho

/-- The records that a change of many statuses takes out of CANCELLED. -/
def reactivatedRecords (db : Db) (ids : List Uuid) : Set RecordId :=
  {i | ∃ e ∈ db.instructorEvents.rows, i = .event e.id ∧ e.id ∈ ids ∧ e.status = .cancelled}

theorem calendar_setEventStatuses_reactivated {ids : List Uuid} {status : EventStatus}
    (hstatus : status ≠ .cancelled) {e : InstructorEvent} (he : e ∈ db.instructorEvents.rows)
    (hid : e.id ∈ ids) (hactive : e.isActive = true) :
    calendar (db.setEventStatuses ids status) (.event e.id) = some (e.entry db) := by
  have hmem : e.withStatus status ∈ (db.setEventStatuses ids status).instructorEvents.rows := by
    refine (Table.mem_updateMany _ _ _ (InstructorEvent.id_withStatus status) _).mpr ⟨e, he, ?_⟩
    rw [if_pos (decide_eq_true hid)]
  have hentry := calendar_of_event hmem ((InstructorEvent.occupies_eq_true _).mpr
    ⟨hactive, hstatus⟩)
  exact hentry

/-- Every other record keeps its slot. -/
theorem calendar_setEventStatuses_others {ids : List Uuid} {status : EventStatus}
    (hstatus : status ≠ .cancelled)
    (hactive : ∀ e ∈ db.instructorEvents.rows, e.id ∈ ids → e.isActive = true) (i : RecordId)
    (hi : i ∉ reactivatedRecords db ids) :
    calendar (db.setEventStatuses ids status) i = calendar db i := by
  cases i with
  | lesson k => rfl
  | event k =>
    cases hk : db.instructorEvents.findUnique k with
    | none =>
      have hnone : (db.setEventStatuses ids status).instructorEvents.findUnique k = none := by
        apply (Table.findUnique_updateMany _ _ _ (InstructorEvent.id_withStatus status) _).trans
        rw [hk, Option.map_none]
      simp only [calendar, hk, hnone, Option.filter_none, Option.map_none]
    | some e =>
      obtain ⟨hmem, rfl⟩ := (Table.findUnique_eq_some _ _ _).mp hk
      by_cases hid : e.id ∈ ids
      · have hnot : e.status ≠ .cancelled := fun hs => hi ⟨e, hmem, rfl, hid, hs⟩
        have ho : e.occupies = true := (e.occupies_eq_true).mpr ⟨hactive e hmem hid, hnot⟩
        rw [calendar_of_event hmem ho]
        exact calendar_setEventStatuses_reactivated hstatus hmem hid (hactive e hmem hid)
      · have hsame : (db.setEventStatuses ids status).instructorEvents.findUnique e.id = some e := by
          apply (Table.findUnique_updateMany _ _ _ (InstructorEvent.id_withStatus status) _).trans
          rw [hk, Option.map_some, if_neg (by simpa using hid)]
        simp only [calendar, hk, hsame]
        rfl

theorem calendar_reactivatedRecords {ids : List Uuid} (i : RecordId)
    (hi : i ∈ reactivatedRecords db ids) : calendar db i = none := by
  obtain ⟨e, hmem, rfl, _, hs⟩ := hi
  have hocc : e.occupies = false := by
    rw [← Bool.not_eq_true, InstructorEvent.occupies_eq_true, hs]
    simp
  simp only [calendar, Table.findUnique_of_mem hmem, Option.filter_some, hocc,
    Bool.false_eq_true, if_false, Option.map_none]

/-- Every cancelled event among the listed ones fits into the calendar, and with the others. -/
def ReactivationFits (db : Db) (ids : List Uuid) : Prop :=
  ∀ e ∈ db.instructorEvents.rows, e.id ∈ ids → e.status = .cancelled →
    (calendar db).FreeFor (.event e.id) (e.entry db) ∧
    ∀ e' ∈ db.instructorEvents.rows, e'.id ∈ ids → e'.status = .cancelled → e'.id ≠ e.id →
      ¬(e.entry db).Clash (e'.entry db)

theorem setEventStatuses_noDoubleBooking_iff {ids : List Uuid} {status : EventStatus}
    (h : NoDoubleBooking db)
    (hactive : ∀ e ∈ db.instructorEvents.rows, e.id ∈ ids → e.isActive = true)
    (hstatus : status ≠ .cancelled) :
    NoDoubleBooking (db.setEventStatuses ids status) ↔ ReactivationFits db ids := by
  have hout := calendar_setEventStatuses_others hstatus hactive
  have hnew {e : InstructorEvent} (he : e ∈ db.instructorEvents.rows) (hid : e.id ∈ ids) :=
    calendar_setEventStatuses_reactivated hstatus he hid (hactive e he hid)
  rw [NoDoubleBooking, Calendar.conflictFree_rewrite_iff h (reactivatedRecords db ids) hout]
  simp only [Calendar.freeFor_rewrite_iff hout calendar_reactivatedRecords]
  refine ⟨?_, ?_⟩
  · intro hfree e he hid hs
    obtain ⟨h1, h2⟩ := hfree _ ⟨e, he, rfl, hid, hs⟩ _ (hnew he hid)
    refine ⟨h1, fun e' he' hid' hs' hne => ?_⟩
    exact h2 _ ⟨e', he', rfl, hid', hs'⟩ (by simpa using hne) _ (hnew he' hid')
  · rintro hfits _ ⟨e, he, rfl, hid, hs⟩ b hb
    rw [hnew he hid, Option.some.injEq] at hb
    subst hb
    obtain ⟨h1, h2⟩ := hfits e he hid hs
    refine ⟨h1, ?_⟩
    rintro _ ⟨e', he', rfl, hid', hs'⟩ hne b hb
    rw [hnew he' hid', Option.some.injEq] at hb
    subst hb
    exact h2 e' he' hid' hs' (by simpa using hne)

/-- Cancelling many events only takes bookings away. -/
theorem setEventStatuses_cancelled (h : NoDoubleBooking db) (ids : List Uuid) :
    NoDoubleBooking (db.setEventStatuses ids .cancelled) := by
  refine h.shrink (shrinks_updateEvents db _ _ (InstructorEvent.id_withStatus _) ?_ fun _ => rfl)
  intro e _ _ ho
  simp [InstructorEvent.occupies, InstructorEvent.withStatus] at ho

/-! ### Participants -/

/-- Changing the participants of one event is safe when each of the new ones is free. -/
theorem participants_noDoubleBooking {db' : Db} {eventId : Uuid} {p : Uuid → Prop}
    (h : NoDoubleBooking db) (hb : ParticipantsBecome db db' eventId p)
    (hfree : ∀ e, db.instructorEvents.findUnique eventId = some e → ∀ s, p s →
      (eventId, s) ∉ db.eventParticipants.keys →
        (calendar db).FreeFor (.event eventId) ⟨e.startTime, e.endTime, {.student s}⟩) :
    NoDoubleBooking db' := by
  apply h.set (.event eventId) (calendar_participants hb)
  intro b hcal
  obtain ⟨e, hmem, rfl, ho, rfl⟩ := (calendar_event_eq_some _ _ _).mp hcal
  obtain ⟨t, hdb'⟩ := hb.only
  have hrows : db'.instructorEvents = db.instructorEvents := by rw [hdb']
  rw [hrows] at hmem
  have hkept {r : Resource} (hr : r ∈ (e.entry db).uses) :=
    freeFor_kept h (calendar_of_event hmem ho) hr
  refine event_freeFor (fun s hs => ?_) (hkept rfl) fun v hv hd => hkept ⟨hv, hd⟩
  by_cases hold : (e.id, s) ∈ db.eventParticipants.keys
  · exact hkept hold
  · exact hfree e (Table.findUnique_of_mem hmem) s ((hb.event s).mp hs) hold

/-- The write phase of an assignment that finds the event in the slot it has read. -/
theorem writeAssignStudents_noDoubleBooking {eventId : Uuid} {prepared : PreparedAssignment}
    (h : NoDoubleBooking db) (hslot : ∀ row ∈ db.instructorEvents.findUnique eventId,
      row.startTime = prepared.event.startTime ∧ row.endTime = prepared.event.endTime) :
    NoDoubleBooking (writeAssignStudents env eventId prepared db).2 := by
  apply noDoubleBooking_after (Prog.FailsWithin.transaction Refreshed.refl _) h
  intro r db' hok
  obtain ⟨added, -, -, hfree, hb⟩ := writeAssignStudents_ok hok
  apply participants_noDoubleBooking h hb
  intro row hrow s hs hnew
  obtain ⟨hstart, hstop⟩ := hslot row hrow
  have hopen := (participant_open_iff (List.mem_singleton_self s)).mp (hfree s (hs.resolve_left hnew))
  rw [hstart, hstop]
  exact hopen.freeFor (skipped_event _)

theorem assignStudentsToEvent_noDoubleBooking (actor : Actor) (eventId : Uuid)
    (studentIds : List Uuid) (h : NoDoubleBooking db) :
    NoDoubleBooking (assignStudentsToEvent env actor eventId studentIds db).2 := by
  simp only [assignStudentsToEvent, Prog.bind_run, Prog.query]
  cases hp : prepareAssignStudents db actor eventId studentIds with
  | error e => exact h
  | ok prepared =>
    apply writeAssignStudents_noDoubleBooking h
    intro row hrow
    obtain ⟨_, hevent, _⟩ := prepareAssignStudents_eq_ok.mp hp
    cases hevent.found.symm.trans hrow
    exact ⟨rfl, rfl⟩

/-- The write phase of a replacement that finds the event in the slot it has read. -/
theorem writeReplaceStudents_noDoubleBooking {eventId : Uuid}
    {prepared : PreparedEventStudentReplacement} (h : NoDoubleBooking db)
    (hid : prepared.event.id = eventId) (hslot : ∀ row ∈ db.instructorEvents.findUnique eventId,
      row.startTime = prepared.start ∧ row.endTime = prepared.stop) :
    NoDoubleBooking (writeReplaceStudents env eventId prepared db).2 := by
  apply noDoubleBooking_after (Prog.FailsWithin.transaction Refreshed.refl _) h
  intro r db' hok
  obtain ⟨-, hfree, hb⟩ := writeReplaceStudents_ok hok
  apply participants_noDoubleBooking h hb
  intro row hrow s hs _
  obtain ⟨hstart, hstop⟩ := hslot row hrow
  rw [hid] at hfree
  have hfree' : s ∉ findStudentProfileIdsWithScheduleConflictsForEventWindow db eventId
      prepared.start prepared.stop prepared.studentProfileIds := hfree ▸ List.not_mem_nil
  rw [hstart, hstop]
  exact ((participant_open_iff hs).mp hfree').freeFor (skipped_event _)

theorem replaceEventStudents_noDoubleBooking (actor : Actor) (eventId : Uuid)
    (studentIds : List Uuid) (h : NoDoubleBooking db) :
    NoDoubleBooking (replaceEventStudents env actor eventId studentIds db).2 := by
  simp only [replaceEventStudents]
  rw [Prog.bind_run, Prog.query]
  cases hp : prepareEventStudentReplacement db actor eventId studentIds with
  | error e => exact h
  | ok prepared =>
    have hrules := prepareEventStudentReplacement_ok hp
    dsimp only
    rw [Prog.bind_pure_store (writeReplaceStudents env eventId prepared) fun _ =>
      prepared.studentUserIds.insertionSort (· ≤ ·)]
    apply writeReplaceStudents_noDoubleBooking h (Table.key_of_findUnique hrules.event.found)
    intro row hrow
    cases hrules.event.found.symm.trans hrow
    exact ⟨hrules.start.symm, hrules.stop.symm⟩

theorem removeStudentFromEvent_noDoubleBooking (actor : Actor) (eventId studentUserId : Uuid)
    (h : NoDoubleBooking db) :
    NoDoubleBooking (removeStudentFromEvent actor eventId studentUserId db).2 := by
  rcases removeStudentFromEvent_store actor eventId studentUserId db with hs | ⟨ids, hs⟩
  · rw [hs]
    exact h
  · rw [hs]
    apply participants_noDoubleBooking h (removeParticipants_become db eventId ids)
    exact fun e _ s hkept hnew => absurd hkept.1 hnew

end Events

end OSK
