import OskManager.Lib.Loops
import OskManager.Model.Participants
import OskManager.Schedule.FreeSlots

/-! What the writes of participants do: they add and remove rows of one event, and a row is
added only for a student that passed the rules of the event's interval. -/

namespace OSK

open Relational

/-- Only the participants of the event differ: they are the ones `p` holds of. -/
structure ParticipantsBecome (db db' : Db) (eventId : Uuid) (p : Uuid → Prop) : Prop where
  only : ∃ t, db' = { db with eventParticipants := t }
  others : ∀ e s, e ≠ eventId →
    ((e, s) ∈ db'.eventParticipants.keys ↔ (e, s) ∈ db.eventParticipants.keys)
  event : ∀ s, (eventId, s) ∈ db'.eventParticipants.keys ↔ p s

theorem ParticipantsBecome.refl (db : Db) (eventId : Uuid) :
    ParticipantsBecome db db eventId fun s => (eventId, s) ∈ db.eventParticipants.keys :=
  ⟨⟨_, rfl⟩, fun _ _ _ => Iff.rfl, fun _ => Iff.rfl⟩

theorem ParticipantsBecome.trans {a b c : Db} {eventId : Uuid} {p q : Uuid → Prop}
    (hab : ParticipantsBecome a b eventId p) (hbc : ParticipantsBecome b c eventId q) :
    ParticipantsBecome a c eventId q := by
  obtain ⟨t, rfl⟩ := hab.only
  obtain ⟨t', rfl⟩ := hbc.only
  exact ⟨⟨t', rfl⟩, fun e s he => (hbc.others e s he).trans (hab.others e s he), hbc.event⟩

theorem removeParticipants_become (db : Db) (eventId : Uuid) (ids : List Uuid) :
    ParticipantsBecome db (db.removeParticipants eventId ids) eventId
      fun s => (eventId, s) ∈ db.eventParticipants.keys ∧ s ∉ ids := by
  have hkeys (k : Uuid × Uuid) := Table.mem_keys_deleteMany db.eventParticipants
    (fun p => decide (p.eventId = eventId ∧ p.studentId ∈ ids))
    (fun k => k.1 = eventId ∧ k.2 ∈ ids) (fun p => by simp) k
  refine ⟨⟨_, rfl⟩, fun e s he => (hkeys (e, s)).trans ?_, fun s => (hkeys (eventId, s)).trans ?_⟩
  · simp [he]
  · simp

theorem createParticipant_ok {env : Env} {eventId studentId : Uuid} {db db' : Db}
    (h : createParticipant env eventId studentId db = (.ok (), db')) :
    ParticipantsBecome db db' eventId
      fun s => (eventId, s) ∈ db.eventParticipants.keys ∨ s = studentId := by
  unfold createParticipant at h
  split at h
  · cases h
  · cases h
    refine ⟨⟨_, rfl⟩, fun e s he => ?_, fun s => ?_⟩
    · simp [Db.insertParticipant, he]
    · simp [Db.insertParticipant]

/-- A run of insertions adds its students, by induction over the list. -/
theorem createParticipants_ok {env : Env} {eventId : Uuid} {l : List Uuid} {db db' : Db}
    (h : createParticipants env eventId l db = (.ok (), db')) :
    ParticipantsBecome db db' eventId
      fun s => (eventId, s) ∈ db.eventParticipants.keys ∨ s ∈ l := by
  induction l generalizing db with
  | nil =>
    cases h
    simpa using ParticipantsBecome.refl db' eventId
  | cons studentId rest ih =>
    rw [createParticipants, Prog.bind_eq_ok] at h
    obtain ⟨_, db1, h1, h2⟩ := h
    have hfirst := createParticipant_ok h1
    have hrest := hfirst.trans (ih h2)
    refine ⟨hrest.only, hrest.others, fun s => ?_⟩
    rw [hrest.event, hfirst.event, List.mem_cons, or_assoc]

/-! ### Assigning -/

theorem loadParticipantWriteEvent_eq_ok {db : Db} {eventId : Uuid} {event : InstructorEvent} :
    loadParticipantWriteEvent db eventId = .ok event ↔
      db.instructorEvents.findUnique eventId = some event ∧ event.isActive = true := by
  simp only [loadParticipantWriteEvent, except_bind_eq_ok, orThrow_eq_ok, throwIf_eq_ok, pure,
    Except.pure, Except.ok.injEq, Bool.not_eq_false]
  refine ⟨?_, ?_⟩
  · intro h
    obtain ⟨e, he, _, ha, rfl⟩ := h
    exact ⟨he, ha⟩
  · intro h
    obtain ⟨he, ha⟩ := h
    exact ⟨event, he, (), ha, rfl⟩

theorem assertNewParticipant_eq_ok {db : Db} {eventId s : Uuid} {start stop : Instant} :
    assertNewParticipantNoScheduleConflicts db eventId s start stop = .ok () ↔
      s ∉ findStudentProfileIdsWithScheduleConflictsForEventWindow db eventId start stop [s] := by
  simp only [assertNewParticipantNoScheduleConflicts]
  split
  · next h => simp [h, throw, throwThe, MonadExceptOf.throw]
  · next h => simp [h, pure, Except.pure]

/-- The event of a request for participants: an active theory event that the actor manages. -/
structure ParticipantEvent (db : Db) (actor : Actor) (eventId : Uuid) (event : InstructorEvent) :
    Prop where
  found : db.instructorEvents.findUnique eventId = some event
  active : event.isActive = true
  manageable : assertActorCanManageAvailability db actor event.instructorId = .ok ()
  theory : event.type = .theory

theorem participantEvent_iff {db : Db} {actor : Actor} {eventId : Uuid} {event : InstructorEvent} :
    ParticipantEvent db actor eventId event ↔ loadParticipantWriteEvent db eventId = .ok event ∧
      assertActorCanManageParticipantEvent db actor event = .ok () := by
  simp only [loadParticipantWriteEvent_eq_ok, assertActorCanManageParticipantEvent,
    except_bind_eq_ok, assertEventTypeAllowsParticipants, throwIf_eq_ok, ne_eq, not_not]
  refine ⟨?_, ?_⟩
  · intro h
    exact ⟨⟨h.found, h.active⟩, (), h.manageable, h.theory⟩
  · intro h
    obtain ⟨⟨hfound, hactive⟩, _, hmanageable, htheory⟩ := h
    exact ⟨hfound, hactive, hmanageable, htheory⟩

theorem prepareAssignStudents_eq_ok {db : Db} {actor : Actor} {eventId : Uuid}
    {studentIds : List Uuid} {prepared : PreparedAssignment} :
    prepareAssignStudents db actor eventId studentIds = .ok prepared ↔
      studentIds.eraseDups.length = studentIds.length ∧
      ParticipantEvent db actor eventId prepared.event ∧
      resolveStudentProfileIdsOrThrow db studentIds.eraseDups = .ok prepared.profileIdsOrdered ∧
      assertStudentProfilesAllowedForEvent db actor prepared.event.instructorId
        prepared.profileIdsOrdered true = .ok () := by
  simp only [prepareAssignStudents, getUniqueStudentIdsOrThrow, except_bind_eq_ok, throwIf_eq_ok,
    participantEvent_iff, pure, Except.pure, Except.ok.injEq, ne_eq, not_not]
  refine ⟨?_, ?_⟩
  · intro h
    obtain ⟨_, ⟨_, hunique, rfl⟩, _, hload, _, hmanage, _, hresolve, _, hallowed, rfl⟩ := h
    exact ⟨hunique, ⟨hload, hmanage⟩, hresolve, hallowed⟩
  · intro h
    obtain ⟨hunique, ⟨hload, hmanage⟩, hresolve, hallowed⟩ := h
    exact ⟨_, ⟨(), hunique, rfl⟩, _, hload, (), hmanage, _, hresolve, (), hallowed, rfl⟩

theorem assignStudentsToEvent_eq_ok {env : Env} {actor : Actor} {eventId : Uuid}
    {studentIds : List Uuid} {r : AssignStudentsToEventResult} {db db' : Db} :
    assignStudentsToEvent env actor eventId studentIds db = (.ok r, db') ↔
      ∃ prepared, prepareAssignStudents db actor eventId studentIds = .ok prepared ∧
        writeAssignStudents env eventId prepared db = (.ok r, db') :=
  Prog.query_bind_eq_ok

theorem assignStudentsToEvent_fails (env : Env) (actor : Actor) (eventId : Uuid)
    (studentIds : List Uuid) :
    Prog.FailsWithin (fun s t => t = s) (assignStudentsToEvent env actor eventId studentIds) := by
  refine Prog.FailsWithin.query_bind (R := fun s t => t = s) (fun _ => rfl) fun _ => ?_
  exact Prog.FailsWithin.unchanged _

/-- The write phase checks against the event as it was read. -/
theorem writeAssignStudents_ok {env : Env} {eventId : Uuid} {prepared : PreparedAssignment}
    {r : AssignStudentsToEventResult} {db db' : Db}
    (h : writeAssignStudents env eventId prepared db = (.ok r, db')) :
    ∃ added, added = newProfileIds db eventId prepared.profileIdsOrdered ∧
      (∀ c, prepared.event.capacity = some c →
        ((eventStudentIds db eventId).length + added.length : ℤ) ≤ c) ∧
      (∀ s ∈ added, s ∉ findStudentProfileIdsWithScheduleConflictsForEventWindow db eventId
        prepared.event.startTime prepared.event.endTime [s]) ∧
      ParticipantsBecome db db' eventId
        fun s => (eventId, s) ∈ db.eventParticipants.keys ∨ s ∈ added := by
  simp only [writeAssignStudents, Prog.transaction_eq_ok, Prog.query_bind_eq_ok] at h
  obtain ⟨added, hadded, _, ha, h⟩ := h
  cases hadded
  rw [Prog.bind_eq_ok] at h
  obtain ⟨_, db1, hc, h⟩ := h
  rw [Prog.pure_eq_ok] at h
  obtain ⟨_, rfl⟩ := h
  simp only [assertAssignmentAllowed, except_bind_eq_ok, forEach_eq_ok, forSome_eq_ok,
    throwIf_eq_ok, assertNewParticipant_eq_ok] at ha
  obtain ⟨_, hcapacity, hfree⟩ := ha
  exact ⟨_, rfl, fun c hc => not_lt.mp (hcapacity c hc), hfree, createParticipants_ok hc⟩

/-! ### Replacing -/

theorem assertReplacementAllowed_eq_ok {db : Db} {prepared : PreparedEventStudentReplacement} :
    assertReplacementAllowed db prepared = .ok () ↔
      (∀ c, prepared.event.capacity = some c → (prepared.studentUserIds.length : ℤ) ≤ c) ∧
      findStudentProfileIdsWithScheduleConflictsForEventWindow db prepared.event.id prepared.start
        prepared.stop prepared.studentProfileIds = [] := by
  have hhead (l : List EventStudentsAvailabilityIssue) :
      forSome l.head? (fun issue => (throw (Failure.conflict issue.message) :
        Except Failure Unit)) = .ok () ↔ l = [] := by
    cases l <;> simp [throw, throwThe, MonadExceptOf.throw]
  rw [assertReplacementAllowed, hhead, getEventStudentReplacementIssues, List.append_eq_nil_iff]
  refine and_congr ?_ ?_
  · cases prepared.event.capacity <;> simp
  · simp

/-- What the read phase hands over: the event, its interval and the members of its course. -/
structure ReplacementRules (db : Db) (actor : Actor) (eventId : Uuid)
    (prepared : PreparedEventStudentReplacement) : Prop where
  event : ParticipantEvent db actor eventId prepared.event
  start : prepared.start = prepared.event.startTime
  stop : prepared.stop = prepared.event.endTime
  resolved : resolveStudentProfileIdsOrThrow db prepared.studentUserIds =
    .ok prepared.studentProfileIds
  members : assertStudentProfilesInEventCourse db prepared.studentProfileIds
    prepared.event.courseId = .ok ()

theorem prepareEventStudentReplacement_ok {db : Db} {actor : Actor} {eventId : Uuid}
    {studentIds : List Uuid} {prepared : PreparedEventStudentReplacement}
    (h : prepareEventStudentReplacement db actor eventId studentIds = .ok prepared) :
    ReplacementRules db actor eventId prepared := by
  simp only [prepareEventStudentReplacement, except_bind_eq_ok, pure, Except.pure,
    Except.ok.injEq] at h
  obtain ⟨_, _, event, hload, _, hmanage, _, hresolved, _, _, _, hmembers, rfl⟩ := h
  exact {
    event := participantEvent_iff.mpr ⟨hload, hmanage⟩
    start := rfl
    stop := rfl
    resolved := hresolved
    members := hmembers }

/-- One profile a user. -/
theorem ReplacementRules.length_eq {db : Db} {actor : Actor} {eventId : Uuid}
    {prepared : PreparedEventStudentReplacement}
    (h : ReplacementRules db actor eventId prepared) :
    prepared.studentProfileIds.length = prepared.studentUserIds.length := by
  have hresolved := h.resolved
  simp only [resolveStudentProfileIdsOrThrow, except_bind_eq_ok] at hresolved
  obtain ⟨_, _, hresolved⟩ := hresolved
  exact length_of_mapM_ok hresolved

theorem replaceEventStudents_eq_ok {env : Env} {actor : Actor} {eventId : Uuid}
    {studentIds : List Uuid} {r : List Uuid} {db db' : Db} :
    replaceEventStudents env actor eventId studentIds db = (.ok r, db') ↔
      ∃ prepared, prepareEventStudentReplacement db actor eventId studentIds = .ok prepared ∧
        writeReplaceStudents env eventId prepared db = (.ok (), db') ∧
        r = prepared.studentUserIds.insertionSort (· ≤ ·) := by
  simp only [replaceEventStudents, Prog.query_bind_eq_ok]
  simp only [Prog.bind_eq_ok, Prog.pure_eq_ok]
  refine ⟨?_, ?_⟩
  · intro h
    obtain ⟨prepared, hprepared, _, _, hwrite, rfl, rfl⟩ := h
    exact ⟨prepared, hprepared, hwrite, rfl⟩
  · intro h
    obtain ⟨prepared, hprepared, hwrite, rfl⟩ := h
    exact ⟨prepared, hprepared, (), db', hwrite, rfl, rfl⟩

theorem replaceEventStudents_fails (env : Env) (actor : Actor) (eventId : Uuid)
    (studentIds : List Uuid) :
    Prog.FailsWithin (fun s t => t = s) (replaceEventStudents env actor eventId studentIds) := by
  refine Prog.FailsWithin.query_bind (R := fun s t => t = s) (fun _ => rfl) fun _ => ?_
  exact Prog.FailsWithin.map (Prog.FailsWithin.unchanged _) _

/-- The write phase checks against the event as it was read. -/
theorem writeReplaceStudents_ok {env : Env} {eventId : Uuid}
    {prepared : PreparedEventStudentReplacement} {db db' : Db}
    (h : writeReplaceStudents env eventId prepared db = (.ok (), db')) :
    (∀ c, prepared.event.capacity = some c → (prepared.studentUserIds.length : ℤ) ≤ c) ∧
      findStudentProfileIdsWithScheduleConflictsForEventWindow db prepared.event.id prepared.start
        prepared.stop prepared.studentProfileIds = [] ∧
      ParticipantsBecome db db' eventId fun s => s ∈ prepared.studentProfileIds := by
  simp only [writeReplaceStudents, Prog.bind_eq_ok, Prog.transaction_eq_ok, Prog.query_eq_ok,
    Prog.write_eq_ok, Except.ok.injEq] at h
  obtain ⟨_, _, ⟨ha, rfl⟩, _, _, ⟨rfl, rfl⟩, _, _, rfl, hc⟩ := h
  obtain ⟨hcapacity, hfree⟩ := assertReplacementAllowed_eq_ok.mp ha
  have hremoved := removeParticipants_become db eventId
    ((eventStudentIds db eventId).filter fun id => decide (id ∉ prepared.studentProfileIds))
  have hadded := createParticipants_ok hc
  have hall := hremoved.trans hadded
  refine ⟨hcapacity, hfree, hall.only, hall.others, fun s => ?_⟩
  rw [hall.event, hremoved.event]
  simp only [List.mem_filter, mem_eventStudentIds, decide_eq_true_eq]
  tauto

/-! ### Removing -/

theorem removeStudentFromEvent_store (actor : Actor) (eventId studentUserId : Uuid) (db : Db) :
    (removeStudentFromEvent actor eventId studentUserId db).2 = db ∨
      ∃ ids, (removeStudentFromEvent actor eventId studentUserId db).2 =
        db.removeParticipants eventId ids := by
  unfold removeStudentFromEvent
  rw [Prog.bind_run]
  split
  · next ids t h =>
    rw [Prog.query_eq_ok] at h
    obtain ⟨_, rfl⟩ := h
    refine Or.inr ⟨ids, ?_⟩
    have hkeep : Prog.Keeps (fun a b : Db => a = b) (show Service (List Uuid) from do
        throwIf ((db.eventParticipants.count fun p =>
          decide (p.eventId = eventId ∧ p.studentId ∈ ids)) = 0)
          (Failure.notFound "Student is not assigned to this event")
        let studentUserIds ← Prog.query fun db => getEventStudentUserIds db actor eventId
        return studentUserIds.insertionSort (· ≤ ·)) :=
      Prog.Keeps.bind (fun _ _ _ h1 h2 => h1.trans h2) (Prog.Keeps.lift (fun _ => rfl) _) fun _ =>
        Prog.Keeps.bind (fun _ _ _ h1 h2 => h1.trans h2) (Prog.Keeps.query (fun _ => rfl) _) fun _ =>
          Prog.Keeps.pure (fun _ => rfl) _
    exact (hkeep (db.removeParticipants eventId ids)).symm
  · next e t h =>
    simp only [Prog.query, Prod.mk.injEq] at h
    exact Or.inl h.2.symm

end OSK
