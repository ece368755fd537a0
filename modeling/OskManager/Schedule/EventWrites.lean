import OskManager.Model.Events
import OskManager.Schedule.VehicleRefresh

/-! What the writes of instructor events do: which rules a successful one has passed and
which row it has changed. -/

namespace OSK

open Relational

theorem validateDriveVehicle_keeps (env : Env) (type : EventType) (instructorId : Uuid)
    (vehicleId : Option Uuid) (b : Bool) :
    Prog.Keeps Refreshed (validateDriveVehicle env type instructorId vehicleId b) :=
  Prog.Keeps.when Refreshed.refl
    (keeps_bind (keeps_lift _) fun _ => validateVehicleForInstructor_keeps env _ _ _)

section

variable {env : Env}

theorem validateDriveVehicle_eq_ok {type : EventType} {instructorId : Uuid}
    {vehicleId : Option Uuid} {b : Bool} {db t : Db} :
    validateDriveVehicle env type instructorId vehicleId b db = (.ok (), t) ↔
      (type = .drive ∧ ∃ v, vehicleId = some v ∧
        validateVehicleForInstructor env instructorId v b db = (.ok (), t)) ∨
      (type ≠ .drive ∧ db = t) := by
  simp only [validateDriveVehicle, Prog.when_eq_ok, Prog.lift_bind_eq_ok, orThrow_eq_ok,
    decide_eq_true_eq, decide_eq_false_iff_not, ne_eq]

@[simp] theorem takenEventIds_refreshed (db : Db) (p : Vehicle → Bool) :
    (db.refreshed p).takenEventIds = db.takenEventIds := rfl

/-! ### Creating -/

/-- The rules of a new event that do not depend on vehicle availability. -/
structure CreateEventRules (env : Env) (actor : Actor) (body : CreateInstructorEventBody)
    (db : Db) (schoolId : Uuid) : Prop where
  actor_allowed : assertActorCanManageAvailability db actor body.instructorId = .ok ()
  instructor_active : resolveActiveInstructorProfile db body.instructorId = .ok ()
  school : resolveInstructorEventSchoolId db body.instructorId body.courseId body.vehicleId =
    .ok schoolId
  course : ∀ courseId, body.courseId = some courseId →
    assertCourseEligibleForInstructorEvent db body.instructorId courseId = .ok ()
  duration : ∃ policy, assertScheduleDurationAllowed db schoolId (.event body.type) body.startTime
    body.endTime = .ok policy
  window : assertInstructorEventWindowAvailable env.zone db
    { instructorId := body.instructorId, start := body.startTime, stop := body.endTime } = .ok ()
  vehicle_free : body.type = .drive → ∀ v, body.vehicleId = some v →
    assertVehicleAvailableForEventWindow db v body.startTime body.endTime = .ok ()

theorem mem_insertEvent {body : CreateInstructorEventBody} {db : Db} {schoolId : Uuid}
    {vehicleId : Option Uuid} {e : InstructorEvent} :
    e ∈ (db.insertEvent env body schoolId vehicleId).instructorEvents.rows ↔
      e ∈ db.instructorEvents.rows ∨ e = db.nextEvent env body schoolId vehicleId :=
  Table.mem_insert db.instructorEvents _ (db.fresh_event_key env) e

/-- The vehicle a new event is stored with. -/
def CreateInstructorEventBody.storedVehicleId (body : CreateInstructorEventBody) : Option Uuid :=
  if body.type = .drive then body.vehicleId else none

theorem createInstructorEvent_eq_ok (actor : Actor) (body : CreateInstructorEventBody)
    (dto : InstructorEventDto) (db db' : Db) :
    createInstructorEvent env actor body db = (.ok dto, db') ↔
      ∃ schoolId p, CreateEventRules env actor body db schoolId ∧
        validateDriveVehicle env body.type body.instructorId body.vehicleId true db =
          (.ok (), db.refreshed p) ∧
        db' = (db.refreshed p).insertEvent env body schoolId body.storedVehicleId ∧
        dto = mapInstructorEventWriteDto (db.nextEvent env body schoolId body.storedVehicleId) := by
  simp only [createInstructorEvent, Prog.query_bind_eq_ok]
  simp only [Prog.bind_eq_ok, Prog.transaction_eq_ok, Prog.query_eq_ok, Prog.pure_eq_ok,
    forSome_eq_ok, onlyIf_eq_ok]
  refine ⟨?_, ?_⟩
  · rintro ⟨_, ha, _, hp, schoolId, hs, _, hc, _, s1, hval, _, _,
      ⟨policy, _, ⟨hd, rfl⟩, _, _, ⟨hw, rfl⟩, _, _, ⟨hf, rfl⟩, hrow⟩, rfl, rfl⟩
    obtain ⟨p, rfl⟩ := (validateDriveVehicle_keeps env _ _ _ _).run hval
    cases hrow
    refine ⟨schoolId, p, ⟨ha, hp, hs, hc, ⟨policy, hd⟩, hw, fun hdrive v hv => ?_⟩, hval, rfl, rfl⟩
    exact hf hdrive v (by rw [if_pos hdrive, hv])
  · intro h
    obtain ⟨schoolId, p, ⟨ha, hp, hs, hc, ⟨policy, hd⟩, hw, hf⟩, hval, rfl, rfl⟩ := h
    refine ⟨(), ha, (), hp, schoolId, hs, (), hc, (), _, hval, _, _,
      ⟨policy, _, ⟨hd, rfl⟩, (), _, ⟨hw, rfl⟩, (), _, ⟨fun hdrive v hv => ?_, rfl⟩, rfl⟩, rfl, rfl⟩
    rw [if_pos hdrive] at hv
    exact hf hdrive v hv

theorem createInstructorEvent_fails (actor : Actor) (body : CreateInstructorEventBody) :
    Prog.FailsWithin Refreshed (createInstructorEvent env actor body) := by
  refine fails_bind (keeps_query _) fun _ => fails_bind (keeps_query _) fun _ => ?_
  refine fails_bind (keeps_query _) fun _ => fails_bind (keeps_query _) fun _ => ?_
  apply fails_bind (validateDriveVehicle_keeps env _ _ _ _)
  intro _
  exact Prog.FailsWithin.map (Prog.FailsWithin.transaction Refreshed.refl _) _

/-! ### Editing -/

/-- The rules of the read phase that do not depend on vehicle availability. -/
structure PrepareEventRules (actor : Actor) (eventId : Uuid) (body : PatchInstructorEventBody)
    (db : Db) (u : PreparedEventUpdate) : Prop where
  found : db.instructorEvents.findUnique eventId = some u.current
  active : u.current.isActive = true
  actor_allowed : assertActorCanManageAvailability db actor u.current.instructorId = .ok ()
  instructor_allowed : ∀ instructorId, body.instructorId = some instructorId →
    instructorId ≠ .ofUuid u.current.instructorId →
      assertActorCanManageAvailability db actor instructorId.uuid = .ok () ∧
      resolveActiveInstructorProfile db instructorId.uuid = .ok ()
  merged : u.merged = mergeEvent u.current body
  start_before_end : u.merged.start < u.merged.stop
  course : ∀ courseId, u.merged.courseId = some courseId →
    u.merged.type = .theory ∧ (body.instructorId ≠ none ∨ body.type ≠ none) →
      assertCourseEligibleForInstructorEvent db u.merged.instructorId.uuid courseId = .ok ()

/-- Something changed that a vehicle's availability has to be checked for. -/
def PreparedEventUpdate.vehicleMatters (u : PreparedEventUpdate) : Bool :=
  u.merged.timeChanged u.current || u.merged.vehicleChanged u.current ||
    u.merged.typeChanged u.current || u.merged.instructorChanged u.current

@[simp] theorem resolveInstructorEventSchoolId_refreshed (db : Db) (p : Vehicle → Bool)
    (instructorId : Uuid) (courseId vehicleId : Option Uuid) :
    resolveInstructorEventSchoolId (db.refreshed p) instructorId courseId vehicleId =
      resolveInstructorEventSchoolId db instructorId courseId vehicleId := by
  have hschool (w : Vehicle) : (if p w then w.madeAvailable else w).schoolId = w.schoolId := by
    split <;> rfl
  unfold resolveInstructorEventSchoolId
  congr 1
  funext link
  congr 1
  funext _
  cases vehicleId with
  | none => rfl
  | some v =>
    simp only [forSome, Option.elim_some, activeVehicle_refreshed]
    cases activeVehicle db v with
    | none => rfl
    | some w => simp only [Option.map_some, orThrow, Option.elim_some, bind, Except.bind, hschool]

theorem prepareEventUpdate_eq_ok (actor : Actor) (eventId : Uuid)
    (body : PatchInstructorEventBody) (u : PreparedEventUpdate) (db t : Db) :
    prepareEventUpdate env actor eventId body db = (.ok u, t) ↔
      PrepareEventRules actor eventId body db u ∧
      resolveInstructorEventSchoolId db u.merged.instructorId.uuid u.merged.courseId
        u.merged.resolvedVehicleId = .ok u.schoolId ∧
      validateDriveVehicle env u.merged.type u.merged.instructorId.uuid
        (u.merged.vehicleId.map UuidText.uuid) u.vehicleMatters db = (.ok (), t) := by
  simp only [prepareEventUpdate, Prog.query_bind_eq_ok, Prog.lift_bind_eq_ok]
  simp only [Prog.bind_eq_ok, Prog.query_eq_ok, Prog.pure_eq_ok, forSome_eq_ok, onlyIf_eq_ok,
    throwIf_eq_ok, orThrow_eq_ok, except_bind_eq_ok, not_le, ge_iff_le, Bool.not_eq_false]
  refine ⟨?_, ?_⟩
  · rintro ⟨current, hf, _, hact, _, ha, _, hi, _, hse, _, hc, _, s1, hval, schoolId, s2,
      ⟨hs, rfl⟩, rfl, rfl⟩
    obtain ⟨p, rfl⟩ := (validateDriveVehicle_keeps env _ _ _ _).run hval
    rw [resolveInstructorEventSchoolId_refreshed] at hs
    refine ⟨⟨hf, hact, ha, fun i hbi hne => ?_, rfl, hse, hc⟩, hs, hval⟩
    obtain ⟨_, h1, h2⟩ := hi i hbi hne
    exact ⟨h1, h2⟩
  · intro h
    obtain ⟨⟨hf, hact, ha, hi, hm, hse, hc⟩, hs, hval⟩ := h
    obtain ⟨current, merged, schoolId⟩ := u
    dsimp only at hf hact ha hi hm hse hc hs hval
    subst hm
    obtain ⟨p, rfl⟩ := (validateDriveVehicle_keeps env _ _ _ _).run hval
    refine ⟨current, hf, (), hact, (), ha, (), fun i hbi hne => ⟨(), hi i hbi hne⟩, (), hse, (), hc,
      (), _, hval, schoolId, _, ⟨?_, rfl⟩, rfl, rfl⟩
    rw [resolveInstructorEventSchoolId_refreshed]
    exact hs

/-- The rules of the write phase. -/
structure EventUpdateRules (zone : PolishZone) (db : Db) (eventId : Uuid)
    (body : PatchInstructorEventBody) (u : PreparedEventUpdate) : Prop where
  vehicle_supports : u.merged.type = .drive → u.merged.status ≠ .cancelled →
    ∀ courseId, u.merged.courseId = some courseId →
      ∀ v, u.merged.resolvedVehicleId = some v → assertVehicleSupportsCourse db v courseId = .ok ()
  duration : u.merged.timeChanged u.current = true ∨ body.type ≠ none →
    ∃ policy, assertScheduleDurationAllowed db u.schoolId (.event u.merged.type) u.merged.start
      u.merged.stop = .ok policy
  window : u.merged.timeChanged u.current = true ∨ u.merged.instructorChanged u.current = true →
    assertInstructorEventWindowAvailable zone db
      { instructorId := u.merged.instructorId.uuid, start := u.merged.start, stop := u.merged.stop
        eventId := some eventId, checkExistingParticipantsForEventId := some eventId } = .ok ()
  vehicle_free : u.merged.type = .drive → u.vehicleMatters = true →
    ∀ v, u.merged.resolvedVehicleId = some v →
      assertVehicleAvailableForEventWindow db v u.merged.start u.merged.stop (some eventId) = .ok ()
  capacity : assertEventCapacityFitsParticipants db eventId u.merged.capacity = .ok ()

theorem PreparedEventUpdate.vehicleMatters_eq_true (u : PreparedEventUpdate) :
    u.vehicleMatters = true ↔ u.merged.timeChanged u.current = true ∨
      u.merged.vehicleChanged u.current = true ∨ u.merged.typeChanged u.current = true ∨
        u.merged.instructorChanged u.current = true := by
  simp only [vehicleMatters, Bool.or_eq_true, or_assoc]

theorem assertEventUpdateAllowed_eq_ok (zone : PolishZone) (db : Db) (eventId : Uuid)
    (body : PatchInstructorEventBody) (u : PreparedEventUpdate) :
    assertEventUpdateAllowed zone db eventId body u = .ok () ↔
      EventUpdateRules zone db eventId body u := by
  simp only [assertEventUpdateAllowed, except_bind_eq_ok, onlyIf_eq_ok, forSome_eq_ok,
    ← u.vehicleMatters_eq_true]
  refine ⟨?_, ?_⟩
  · intro h
    obtain ⟨_, hs, _, hd, _, hw, _, hv, hc⟩ := h
    refine ⟨fun h1 h2 => hs ⟨h1, h2⟩, fun h => ?_, hw, fun h1 h2 => hv ⟨h1, h2⟩, hc⟩
    obtain ⟨policy, hp, _⟩ := hd h
    exact ⟨policy, hp⟩
  · intro h
    obtain ⟨hs, hd, hw, hv, hc⟩ := h
    refine ⟨(), fun h => hs h.1 h.2, (), fun h => ?_, (), hw, (), fun h => hv h.1 h.2, hc⟩
    obtain ⟨policy, hp⟩ := hd h
    exact ⟨policy, hp, rfl⟩

theorem writeEventUpdate_eq_ok (eventId : Uuid) (body : PatchInstructorEventBody)
    (u : PreparedEventUpdate) (dto : InstructorEventDto) (db db' : Db) :
    writeEventUpdate env eventId body u db = (.ok dto, db') ↔
      EventUpdateRules env.zone db eventId body u ∧
      ∃ row, db.instructorEvents.findUnique eventId = some row ∧
        db' = db.rewriteEvent eventId u ∧ dto = mapInstructorEventWriteDto (row.rewritten u) := by
  simp only [writeEventUpdate, updateEventRow, Prog.bind_eq_ok, Prog.transaction_eq_ok,
    Prog.query_eq_ok, Prog.write_eq_ok, Prog.pure_eq_ok, orThrow_eq_ok]
  refine ⟨?_, ?_⟩
  · intro h
    obtain ⟨_, _, ⟨_, _, ⟨ha, rfl⟩, row, _, ⟨hr, rfl⟩, _, _, rfl, rfl, rfl⟩, rfl, rfl⟩ := h
    exact ⟨(assertEventUpdateAllowed_eq_ok _ _ _ _ _).mp ha, row, hr, rfl, rfl⟩
  · intro h
    obtain ⟨ha, row, hr, rfl, rfl⟩ := h
    exact ⟨_, _, ⟨(), _, ⟨(assertEventUpdateAllowed_eq_ok _ _ _ _ _).mpr ha, rfl⟩, row, _,
      ⟨hr, rfl⟩, (), _, rfl, rfl, rfl⟩, rfl, rfl⟩

@[simp] theorem eventUpdateRules_refreshed (zone : PolishZone) (db : Db) (p : Vehicle → Bool)
    (eventId : Uuid) (body : PatchInstructorEventBody) (u : PreparedEventUpdate) :
    EventUpdateRules zone (db.refreshed p) eventId body u ↔
      EventUpdateRules zone db eventId body u := by
  rw [← assertEventUpdateAllowed_eq_ok, ← assertEventUpdateAllowed_eq_ok]
  have hsupports (v courseId : Uuid) :
      assertVehicleSupportsCourse (db.refreshed p) v courseId =
        assertVehicleSupportsCourse db v courseId := by
    simp only [assertVehicleSupportsCourse, refreshed_courses,
      assertVehicleSupportsCourseType_refreshed]
  simp only [assertEventUpdateAllowed, hsupports]
  rfl

/-- An edit that runs without interruption: both phases see the same events. -/
theorem updateInstructorEvent_eq_ok (actor : Actor) (eventId : Uuid)
    (body : PatchInstructorEventBody) (dto : InstructorEventDto) (db db' : Db) :
    updateInstructorEvent env actor eventId body db = (.ok dto, db') ↔
      ∃ u p, PrepareEventRules actor eventId body db u ∧
        resolveInstructorEventSchoolId db u.merged.instructorId.uuid u.merged.courseId
          u.merged.resolvedVehicleId = .ok u.schoolId ∧
        validateDriveVehicle env u.merged.type u.merged.instructorId.uuid
          (u.merged.vehicleId.map UuidText.uuid) u.vehicleMatters db = (.ok (), db.refreshed p) ∧
        EventUpdateRules env.zone db eventId body u ∧
        db' = (db.refreshed p).rewriteEvent eventId u ∧
        dto = mapInstructorEventWriteDto (u.current.rewritten u) := by
  simp only [updateInstructorEvent, Prog.bind_eq_ok, prepareEventUpdate_eq_ok,
    writeEventUpdate_eq_ok]
  refine ⟨?_, ?_⟩
  · intro h
    obtain ⟨u, s1, ⟨hp, hs, hval⟩, hu, row, hrow, rfl, rfl⟩ := h
    obtain ⟨p, rfl⟩ := (validateDriveVehicle_keeps env _ _ _ _).run hval
    rw [eventUpdateRules_refreshed] at hu
    rw [refreshed_events, hp.found] at hrow
    cases hrow
    exact ⟨u, p, hp, hs, hval, hu, rfl, rfl⟩
  · intro h
    obtain ⟨u, p, hp, hs, hval, hu, rfl, rfl⟩ := h
    refine ⟨u, _, ⟨hp, hs, hval⟩, ?_, u.current, hp.found, rfl, rfl⟩
    rwa [eventUpdateRules_refreshed]

theorem prepareEventUpdate_keeps (actor : Actor) (eventId : Uuid)
    (body : PatchInstructorEventBody) :
    Prog.Keeps Refreshed (prepareEventUpdate env actor eventId body) := by
  refine keeps_bind (keeps_query _) fun _ => keeps_bind (keeps_lift _) fun _ => ?_
  refine keeps_bind (keeps_query _) fun _ => keeps_bind (keeps_query _) fun _ => ?_
  refine keeps_bind (keeps_lift _) fun _ => keeps_bind (keeps_query _) fun _ => ?_
  apply keeps_bind (validateDriveVehicle_keeps env _ _ _ _)
  intro _
  exact keeps_bind (keeps_query _) fun _ => keeps_pure _

theorem writeEventUpdate_fails (eventId : Uuid) (body : PatchInstructorEventBody)
    (u : PreparedEventUpdate) : Prog.FailsWithin Refreshed (writeEventUpdate env eventId body u) :=
  Prog.FailsWithin.map (Prog.FailsWithin.transaction Refreshed.refl _) _

theorem updateInstructorEvent_fails (actor : Actor) (eventId : Uuid)
    (body : PatchInstructorEventBody) :
    Prog.FailsWithin Refreshed (updateInstructorEvent env actor eventId body) :=
  fails_bind (prepareEventUpdate_keeps actor eventId body) fun u =>
    writeEventUpdate_fails eventId body u

/-! ### Deleting and changing many statuses -/

theorem deleteInstructorEvent_eq_ok (actor : Actor) (eventId : Uuid) (db db' : Db) :
    deleteInstructorEvent actor eventId db = (.ok (), db') ↔
      ∃ event, db.instructorEvents.findUnique eventId = some event ∧ event.isActive = true ∧
        assertActorCanManageAvailability db actor event.instructorId = .ok () ∧
        db' = db.deactivateEvent eventId := by
  simp only [deleteInstructorEvent, Prog.query_bind_eq_ok, Prog.lift_bind_eq_ok, Prog.write_eq_ok,
    orThrow_eq_ok, throwIf_eq_ok, Bool.not_eq_false]
  refine ⟨?_, ?_⟩
  · intro h
    obtain ⟨event, he, _, hact, _, ha, rfl⟩ := h
    exact ⟨event, he, hact, ha, rfl⟩
  · intro h
    obtain ⟨event, he, hact, ha, rfl⟩ := h
    exact ⟨event, he, (), hact, (), ha, rfl⟩

/-- The events of a bulk change are active and among the listed ones. -/
theorem bulkAllowedEventIds_spec {db : Db} {actor : Actor} {uniqueIds ids : List Uuid}
    (h : bulkAllowedEventIds db actor uniqueIds = .ok ids) :
    ∀ id ∈ ids, id ∈ uniqueIds ∧ ∃ e ∈ db.instructorEvents.rows, e.id = id ∧ e.isActive = true := by
  have hfound : ∀ e ∈ db.instructorEvents.findMany
      (fun e => decide (e.id ∈ uniqueIds ∧ e.isActive = true)),
      e.id ∈ uniqueIds ∧ ∃ e' ∈ db.instructorEvents.rows, e'.id = e.id ∧ e'.isActive = true := by
    intro e he
    rw [Table.mem_findMany] at he
    obtain ⟨hlisted, hactive⟩ := of_decide_eq_true he.2
    exact ⟨hlisted, e, he.1, rfl, hactive⟩
  unfold bulkAllowedEventIds at h
  intro id hid
  split at h
  · cases h
    obtain ⟨e, he, rfl⟩ := List.mem_map.mp hid
    exact hfound e he
  · obtain ⟨profile, _, h⟩ := except_bind_eq_ok.mp h
    cases h
    obtain ⟨e, he, rfl⟩ := List.mem_map.mp hid
    exact hfound e (List.mem_filter.mp he).1
  · cases h
    obtain ⟨e, he, rfl⟩ := List.mem_map.mp hid
    exact hfound e (List.mem_filter.mp he).1
  · cases h

theorem bulkUpdateEventStatus_eq_ok (actor : Actor) (body : BulkUpdateEventStatusBody)
    (result : BulkResult) (db db' : Db) :
    bulkUpdateEventStatus actor body db = (.ok result, db') ↔
      actor.role ≠ .student ∧
      ∃ ids, bulkAllowedEventIds db actor body.eventIds.eraseDups = .ok ids ∧
        ((ids = [] ∧ result = ⟨0, body.eventIds.eraseDups.length⟩ ∧ db' = db) ∨
          (ids ≠ [] ∧
            (body.status = .planned → ∀ e ∈ db.instructorEvents.findMany
              (fun e => decide (e.id ∈ ids ∧ e.type = .drive ∧ e.courseId ≠ none)),
              assertDriveCanBePlanned db e = .ok ()) ∧
            result = ⟨db.instructorEvents.count (fun e => decide (e.id ∈ ids)),
              body.eventIds.eraseDups.length -
                db.instructorEvents.count (fun e => decide (e.id ∈ ids))⟩ ∧
            db' = db.setEventStatuses ids body.status)) := by
  simp only [bulkUpdateEventStatus, Prog.lift_bind_eq_ok, Prog.query_bind_eq_ok, throwIf_eq_ok]
  refine ⟨?_, ?_⟩
  · intro h
    obtain ⟨_, hr, ids, hids, h⟩ := h
    refine ⟨hr, ids, hids, ?_⟩
    split at h
    · next hnil =>
      rw [Prog.pure_eq_ok] at h
      exact Or.inl ⟨hnil, h.1.symm, h.2.symm⟩
    · next hnil =>
      simp only [Prog.bind_eq_ok, Prog.transaction_eq_ok, Prog.query_eq_ok, Prog.write_eq_ok,
        Prog.pure_eq_ok, onlyIf_eq_ok, forEach_eq_ok, Except.ok.injEq] at h
      obtain ⟨_, _, ⟨_, _, ⟨hp, rfl⟩, _, _, ⟨rfl, rfl⟩, _, _, rfl, rfl, rfl⟩, rfl, rfl⟩ := h
      exact Or.inr ⟨hnil, hp, rfl, rfl⟩
  · intro h
    obtain ⟨hr, ids, hids, h⟩ := h
    refine ⟨(), hr, ids, hids, ?_⟩
    rcases h with ⟨hnil, rfl, rfl⟩ | ⟨hnil, hp, rfl, rfl⟩
    · rw [if_pos hnil]
      rfl
    · rw [if_neg hnil]
      simp only [Prog.bind_eq_ok, Prog.transaction_eq_ok, Prog.query_eq_ok, Prog.write_eq_ok,
        Prog.pure_eq_ok, onlyIf_eq_ok, forEach_eq_ok, Except.ok.injEq]
      exact ⟨_, _, ⟨(), _, ⟨hp, rfl⟩, _, _, ⟨rfl, rfl⟩, (), _, rfl, rfl, rfl⟩, rfl, rfl⟩

theorem bulkUpdateEventStatus_fails (actor : Actor) (body : BulkUpdateEventStatusBody) :
    Prog.FailsWithin Refreshed (bulkUpdateEventStatus actor body) := by
  refine fails_bind (keeps_lift _) fun _ => fails_bind (keeps_query _) fun ids => ?_
  split
  · exact Prog.FailsWithin.of_keeps (keeps_pure _)
  · exact Prog.FailsWithin.map (Prog.FailsWithin.transaction Refreshed.refl _) _

theorem bulkAllowedEventIds_active {db : Db} {actor : Actor} {uniqueIds ids : List Uuid}
    (h : bulkAllowedEventIds db actor uniqueIds = .ok ids) (e : InstructorEvent)
    (he : e ∈ db.instructorEvents.rows) (hid : e.id ∈ ids) : e.isActive = true := by
  obtain ⟨_, e', he', hee, hactive⟩ := bulkAllowedEventIds_spec h _ hid
  rwa [db.instructorEvents.key_inj he' he hee] at hactive

end

end OSK
