import Mathlib.Data.Fin.VecNotation
import OskManager.Lib.TwoPhase
import OskManager.Schedule.DoubleBooking

/-! Requests that read before they write. The edit of an event and the two operations on its
participants read the event first and check and write in a transaction later; bookings and edits
of lessons run in one piece. Whatever runs between the two phases, the calendar stays free of
conflicts and the capacities hold, as long as each write finds the values it relies on. -/

namespace OSK

open Relational Booking Interleaving

/-! ### Capacities -/

/-- Every active event with a capacity has at most that many participants. -/
def CapacitiesHold (db : Db) : Prop :=
  ∀ e ∈ db.instructorEvents.rows, e.isActive = true →
    ∀ c ∈ e.capacity, ((eventStudentIds db e.id).length : ℤ) ≤ c

instance decidableCapacitiesHold (db : Db) : Decidable (CapacitiesHold db) :=
  inferInstanceAs (Decidable (∀ e ∈ db.instructorEvents.rows, e.isActive = true →
    ∀ c ∈ e.capacity, ((eventStudentIds db e.id).length : ℤ) ≤ c))

/-- Neither the events nor their participants differ. -/
def SameEvents (db db' : Db) : Prop :=
  db'.instructorEvents = db.instructorEvents ∧ db'.eventParticipants = db.eventParticipants

theorem CapacitiesHold.of_same {db db' : Db} (h : CapacitiesHold db) (hs : SameEvents db db') :
    CapacitiesHold db' := by
  unfold CapacitiesHold eventStudentIds at h ⊢
  rwa [hs.1, hs.2]

theorem sameEvents_refreshed {db db' : Db} (h : Refreshed db db') : SameEvents db db' := by
  obtain ⟨p, rfl⟩ := h
  exact ⟨rfl, rfl⟩

section Capacities

variable {db db' : Db} {eventId : Uuid}

theorem eventStudentIds_nodup (db : Db) (eventId : Uuid) : (eventStudentIds db eventId).Nodup := by
  apply List.Nodup.map_on
  · intro p hp q hq hpq
    rw [Table.mem_findMany, decide_eq_true_eq] at hp hq
    exact db.eventParticipants.key_inj hp.1 hq.1 (Prod.ext (hp.2.trans hq.2.symm) hpq)
  · exact (List.Nodup.of_map _ db.eventParticipants.nodup).filter _

/-- A list that names all participants bounds their number. -/
theorem participants_length_le {l : List Uuid}
    (h : ∀ s, (eventId, s) ∈ db.eventParticipants.keys → s ∈ l) :
    (eventStudentIds db eventId).length ≤ l.length := by
  apply (List.subperm_of_subset (eventStudentIds_nodup db eventId) ?_).length_le
  intro s hs
  exact h s ((mem_eventStudentIds ..).mp hs)

theorem CapacitiesHold.participants {p : Uuid → Prop} {l : List Uuid} (h : CapacitiesHold db)
    (hb : ParticipantsBecome db db' eventId p) (hl : ∀ s, p s → s ∈ l)
    (hfits : ∀ row, db.instructorEvents.findUnique eventId = some row →
      ∀ c ∈ row.capacity, (l.length : ℤ) ≤ c) : CapacitiesHold db' := by
  intro e he hactive c hc
  obtain ⟨t, hdb'⟩ := hb.only
  have hrows : db'.instructorEvents = db.instructorEvents := by rw [hdb']
  rw [hrows] at he
  by_cases hid : e.id = eventId
  · have hlength : (eventStudentIds db' e.id).length ≤ l.length := by
      rw [hid]
      exact participants_length_le fun s hs => hl s ((hb.event s).mp hs)
    have := hfits e (hid ▸ Table.findUnique_of_mem he) c hc
    omega
  · have hlength : (eventStudentIds db' e.id).length ≤ (eventStudentIds db e.id).length :=
      participants_length_le fun s hs => (mem_eventStudentIds ..).mpr ((hb.others _ s hid).mp hs)
    have := h e he hactive c hc
    omega

theorem CapacitiesHold.rewriteEvent {u : PreparedEventUpdate} (h : CapacitiesHold db)
    (hfits : assertEventCapacityFitsParticipants db eventId u.merged.capacity = .ok ()) :
    CapacitiesHold (db.rewriteEvent eventId u) := by
  intro e' he' hactive c hc
  rcases Table.mem_updateMany_cases (InstructorEvent.id_rewritten u) he' with
    ⟨hold, _⟩ | ⟨e, _, hid, rfl⟩
  · exact h e' hold hactive c hc
  · simp only [assertEventCapacityFitsParticipants, forSome_eq_ok, throwIf_eq_ok, not_lt] at hfits
    rw [InstructorEvent.id_rewritten, of_decide_eq_true hid]
    exact hfits c hc

end Capacities

/-! ### Lessons leave the events alone -/

section Lessons

variable {env : Env} (actor : Actor) (db : Db)

theorem sameEvents_after {α : Type} {p : Service α} {db : Db} (hfail : Prog.FailsWithin Refreshed p)
    (hok : ∀ r db', p db = (.ok r, db') → SameEvents db db') : SameEvents db (p db).2 := by
  rcases hfail.cases db with ⟨r, h⟩ | h
  · exact hok r _ h
  · exact sameEvents_refreshed h

theorem bookLesson_sameEvents (body : BookLessonBody) :
    SameEvents db (bookLesson env actor body db).2 := by
  apply sameEvents_after (bookLesson_fails env actor body)
  intro dto db' hok
  obtain ⟨course, student, hrules, hcreate⟩ := (bookLesson_eq_ok ..).mp hok
  obtain ⟨_, _, v, p, _, _, rfl, _⟩ := (createPracticeLesson_eq_ok (bookedVehicle_keeps env body)
    (loadCourseForBooking_self hrules.course_loaded) _ _).mp hcreate
  exact ⟨rfl, rfl⟩

theorem bookOwnLesson_sameEvents (body : BookOwnLessonBody) :
    SameEvents db (bookOwnLesson env actor body db).2 := by
  apply sameEvents_after (bookOwnLesson_fails env actor body)
  intro dto db' hok
  obtain ⟨course, student, hrules, hcreate⟩ := (bookOwnLesson_eq_ok ..).mp hok
  obtain ⟨_, _, v, p, _, _, rfl, _⟩ := (createPracticeLesson_eq_ok
    (fun c => findAvailableVehicle_keeps env _ _ _ _ _)
    (loadCourseForBooking_self hrules.course_loaded) _ _).mp hcreate
  exact ⟨rfl, rfl⟩

theorem updateLesson_sameEvents (lessonId : Uuid) (body : UpdateLessonBody) :
    SameEvents db (updateLesson env actor lessonId body db).2 := by
  apply sameEvents_after (Prog.FailsWithin.transaction Refreshed.refl _)
  intro dto db' hok
  obtain ⟨existing, course, v, hrules, hcase⟩ := (updateLesson_eq_ok ..).mp hok
  rcases hcase with ⟨_, _, rfl⟩ | ⟨_, p, hslot, hlt, _, rfl⟩
  · exact ⟨rfl, rfl⟩
  · exact ⟨rfl, rfl⟩

end Lessons

/-! ### Requests -/

/-- A write phase and what its read phase has handed over. A request that runs in one piece only
hands over its arguments. -/
inductive PendingWrite where
  | bookLesson (env : Env) (actor : Actor) (body : BookLessonBody)
  | bookOwnLesson (env : Env) (actor : Actor) (body : BookOwnLessonBody)
  | updateLesson (env : Env) (actor : Actor) (lessonId : Uuid) (body : UpdateLessonBody)
  | updateInstructorEvent (env : Env) (eventId : Uuid) (body : PatchInstructorEventBody)
      (u : PreparedEventUpdate)
  | assignStudentsToEvent (env : Env) (eventId : Uuid) (prepared : PreparedAssignment)
  | replaceEventStudents (env : Env) (eventId : Uuid) (prepared : PreparedEventStudentReplacement)

def PendingWrite.run : PendingWrite → Service Unit
  | .bookLesson env actor body => Prog.discard (OSK.bookLesson env actor body)
  | .bookOwnLesson env actor body => Prog.discard (OSK.bookOwnLesson env actor body)
  | .updateLesson env actor lessonId body => Prog.discard (OSK.updateLesson env actor lessonId body)
  | .updateInstructorEvent env eventId body u => Prog.discard (writeEventUpdate env eventId body u)
  | .assignStudentsToEvent env eventId prepared =>
    Prog.discard (writeAssignStudents env eventId prepared)
  | .replaceEventStudents env eventId prepared => writeReplaceStudents env eventId prepared

/-- A request with its arguments and the clocks of its phases. -/
inductive ScheduleRequest where
  | bookLesson (env : Env) (actor : Actor) (body : BookLessonBody)
  | bookOwnLesson (env : Env) (actor : Actor) (body : BookOwnLessonBody)
  | updateLesson (env : Env) (actor : Actor) (lessonId : Uuid) (body : UpdateLessonBody)
  | updateInstructorEvent (readEnv writeEnv : Env) (actor : Actor) (eventId : Uuid)
      (body : PatchInstructorEventBody)
  | assignStudentsToEvent (writeEnv : Env) (actor : Actor) (eventId : Uuid) (studentIds : List Uuid)
  | replaceEventStudents (writeEnv : Env) (actor : Actor) (eventId : Uuid) (studentIds : List Uuid)

def ScheduleRequest.read : ScheduleRequest → Service PendingWrite
  | .bookLesson env actor body => pure (.bookLesson env actor body)
  | .bookOwnLesson env actor body => pure (.bookOwnLesson env actor body)
  | .updateLesson env actor lessonId body => pure (.updateLesson env actor lessonId body)
  | .updateInstructorEvent readEnv writeEnv actor eventId body => do
    let u ← prepareEventUpdate readEnv actor eventId body
    return .updateInstructorEvent writeEnv eventId body u
  | .assignStudentsToEvent writeEnv actor eventId studentIds => do
    let prepared ← Prog.query fun db => prepareAssignStudents db actor eventId studentIds
    return .assignStudentsToEvent writeEnv eventId prepared
  | .replaceEventStudents writeEnv actor eventId studentIds => do
    let prepared ← Prog.query fun db => prepareEventStudentReplacement db actor eventId studentIds
    return .replaceEventStudents writeEnv eventId prepared

def ScheduleRequest.twoPhase (request : ScheduleRequest) :
    TwoPhase Failure Db PendingWrite Unit where
  read := request.read
  write := PendingWrite.run

section Whole

variable (env : Env) (actor : Actor) (eventId : Uuid)

/-- Without interruption the two phases are the operation. -/
theorem whole_updateInstructorEvent (body : PatchInstructorEventBody) :
    (ScheduleRequest.updateInstructorEvent env env actor eventId body).twoPhase.whole =
      Prog.discard (updateInstructorEvent env actor eventId body) := by
  simp only [TwoPhase.whole, ScheduleRequest.twoPhase, ScheduleRequest.read,
    updateInstructorEvent, Prog.bind_assoc, Prog.discard_bind]
  rfl

theorem whole_assignStudentsToEvent (studentIds : List Uuid) :
    (ScheduleRequest.assignStudentsToEvent env actor eventId studentIds).twoPhase.whole =
      Prog.discard (assignStudentsToEvent env actor eventId studentIds) := by
  simp only [TwoPhase.whole, ScheduleRequest.twoPhase, ScheduleRequest.read,
    assignStudentsToEvent, Prog.bind_assoc, Prog.discard_bind]
  rfl

theorem whole_replaceEventStudents (studentIds : List Uuid) :
    (ScheduleRequest.replaceEventStudents env actor eventId studentIds).twoPhase.whole =
      Prog.discard (replaceEventStudents env actor eventId studentIds) := by
  funext db
  simp only [TwoPhase.whole, ScheduleRequest.twoPhase, ScheduleRequest.read, Prog.bind_run,
    Prog.discard, replaceEventStudents, Prog.query]
  cases prepareEventStudentReplacement db actor eventId studentIds with
  | error e => rfl
  | ok prepared =>
    simp only [PendingWrite.run, Prog.pure_run]
    rcases writeReplaceStudents env eventId prepared db with ⟨_ | _, _⟩ <;> rfl

end Whole

/-! ### What a write relies on -/

namespace PendingWrite

/-- The event has the values that the write takes from its read without looking them up. -/
def Fresh (db : Db) : PendingWrite → Prop
  | .updateInstructorEvent _ eventId _ u =>
    ∀ row ∈ db.instructorEvents.findUnique eventId,
      u.merged.timeChanged u.current = true ∨ u.merged.instructorChanged u.current = true ∨
        u.merged.status = .cancelled ∨ u.Fresh row
  | .assignStudentsToEvent _ eventId prepared =>
    ∀ row ∈ db.instructorEvents.findUnique eventId, row.startTime = prepared.event.startTime ∧
      row.endTime = prepared.event.endTime ∧ row.capacity = prepared.event.capacity
  | .replaceEventStudents _ eventId prepared =>
    ∀ row ∈ db.instructorEvents.findUnique eventId, row.startTime = prepared.event.startTime ∧
      row.endTime = prepared.event.endTime ∧ row.capacity = prepared.event.capacity
  | _ => True

instance decidableFresh (db : Db) : (w : PendingWrite) → Decidable (w.Fresh db)
  | .bookLesson .. => .isTrue trivial
  | .bookOwnLesson .. => .isTrue trivial
  | .updateLesson .. => .isTrue trivial
  | .updateInstructorEvent .. => inferInstanceAs (Decidable (∀ row ∈ _, _))
  | .assignStudentsToEvent .. => inferInstanceAs (Decidable (∀ row ∈ _, _))
  | .replaceEventStudents .. => inferInstanceAs (Decidable (∀ row ∈ _, _))

end PendingWrite

/-! ### Safety -/

/-- Nothing is booked twice and no event is overfull. -/
def ScheduleSafe (db : Db) : Prop := NoDoubleBooking db ∧ CapacitiesHold db

theorem capacitiesHold_after {α : Type} {p : Service α} {db : Db}
    (hfail : Prog.FailsWithin Refreshed p) (h : CapacitiesHold db)
    (hok : ∀ r db', p db = (.ok r, db') → CapacitiesHold db') : CapacitiesHold (p db).2 := by
  rcases hfail.cases db with ⟨r, hr⟩ | hr
  · exact hok r _ hr
  · exact h.of_same (sameEvents_refreshed hr)

section Writes

variable {env : Env} {db : Db} {eventId : Uuid}

theorem writeEventUpdate_capacities {body : PatchInstructorEventBody} {u : PreparedEventUpdate}
    (h : CapacitiesHold db) : CapacitiesHold (writeEventUpdate env eventId body u db).2 := by
  apply capacitiesHold_after (writeEventUpdate_fails eventId body u) h
  intro dto db' hok
  obtain ⟨hrules, row, -, rfl, -⟩ := (writeEventUpdate_eq_ok ..).mp hok
  exact h.rewriteEvent hrules.capacity

theorem writeAssignStudents_capacities {prepared : PreparedAssignment} (h : CapacitiesHold db)
    (hcapacity : ∀ row ∈ db.instructorEvents.findUnique eventId,
      row.capacity = prepared.event.capacity) :
    CapacitiesHold (writeAssignStudents env eventId prepared db).2 := by
  apply capacitiesHold_after (Prog.FailsWithin.transaction Refreshed.refl _) h
  intro r db' hok
  obtain ⟨added, -, hfits, -, hb⟩ := writeAssignStudents_ok hok
  apply h.participants (l := eventStudentIds db eventId ++ added) hb
  · intro s hs
    rwa [List.mem_append, mem_eventStudentIds]
  · intro row hrow c hc
    rw [List.length_append, Nat.cast_add]
    exact hfits c ((hcapacity row hrow).symm.trans hc)

theorem writeReplaceStudents_capacities {prepared : PreparedEventStudentReplacement}
    (h : CapacitiesHold db)
    (hlength : prepared.studentProfileIds.length = prepared.studentUserIds.length)
    (hcapacity : ∀ row ∈ db.instructorEvents.findUnique eventId,
      row.capacity = prepared.event.capacity) :
    CapacitiesHold (writeReplaceStudents env eventId prepared db).2 := by
  apply capacitiesHold_after (Prog.FailsWithin.transaction Refreshed.refl _) h
  intro r db' hok
  obtain ⟨hfits, -, hb⟩ := writeReplaceStudents_ok hok
  apply h.participants hb fun s hs => hs
  intro row hrow c hc
  rw [hlength]
  exact hfits c ((hcapacity row hrow).symm.trans hc)

end Writes

theorem ScheduleRequest.read_keeps (request : ScheduleRequest) :
    Prog.Keeps Refreshed request.read := by
  cases request with
  | bookLesson => exact keeps_pure _
  | bookOwnLesson => exact keeps_pure _
  | updateLesson => exact keeps_pure _
  | updateInstructorEvent =>
    exact keeps_bind (prepareEventUpdate_keeps _ _ _) fun _ => keeps_pure _
  | assignStudentsToEvent => exact keeps_bind (keeps_query _) fun _ => keeps_pure _
  | replaceEventStudents => exact keeps_bind (keeps_query _) fun _ => keeps_pure _

theorem ScheduleRequest.read_replacement {request : ScheduleRequest} {env : Env} {eventId : Uuid}
    {prepared : PreparedEventStudentReplacement} {s t : Db}
    (h : request.read s = (.ok (.replaceEventStudents env eventId prepared), t)) :
    prepared.event.id = eventId ∧ prepared.start = prepared.event.startTime ∧
      prepared.stop = prepared.event.endTime ∧
      prepared.studentProfileIds.length = prepared.studentUserIds.length := by
  cases request <;> simp only [read, Prog.bind_eq_ok, Prog.query_eq_ok, Prog.pure_eq_ok,
    reduceCtorEq, false_and, and_false, exists_false, PendingWrite.replaceEventStudents.injEq] at h
  obtain ⟨prepared', _, ⟨hp, rfl⟩, ⟨rfl, rfl, rfl⟩, rfl⟩ := h
  have hrules := prepareEventStudentReplacement_ok hp
  exact ⟨Table.key_of_findUnique hrules.event.found, hrules.start, hrules.stop, hrules.length_eq⟩

/-- One write phase that finds what it relies on and reactivates no event. -/
theorem PendingWrite.run_safe {w : PendingWrite} {db : Db}
    (hread : ∃ (request : ScheduleRequest) (s t : Db), request.read s = (.ok w, t))
    (hfresh : w.Fresh db) (hno : ¬Reactivates db (w.run db).2) (h : ScheduleSafe db) :
    ScheduleSafe (w.run db).2 := by
  obtain ⟨hbooking, hcapacity⟩ := h
  cases w with
  | bookLesson env actor body =>
    exact ⟨bookLesson_noDoubleBooking actor body hbooking,
      hcapacity.of_same (bookLesson_sameEvents actor db body)⟩
  | bookOwnLesson env actor body =>
    exact ⟨bookOwnLesson_noDoubleBooking actor body hbooking,
      hcapacity.of_same (bookOwnLesson_sameEvents actor db body)⟩
  | updateLesson env actor lessonId body =>
    exact ⟨updateLesson_noDoubleBooking actor lessonId body hbooking,
      hcapacity.of_same (updateLesson_sameEvents actor db lessonId body)⟩
  | updateInstructorEvent env eventId body u =>
    exact ⟨writeEventUpdate_noDoubleBooking hbooking hfresh hno,
      writeEventUpdate_capacities hcapacity⟩
  | assignStudentsToEvent env eventId prepared =>
    refine ⟨writeAssignStudents_noDoubleBooking hbooking ?_,
      writeAssignStudents_capacities hcapacity ?_⟩
    · intro row hrow
      obtain ⟨hstart, hstop, -⟩ := hfresh row hrow
      exact ⟨hstart, hstop⟩
    · intro row hrow
      exact (hfresh row hrow).2.2
  | replaceEventStudents env eventId prepared =>
    obtain ⟨request, s, t, hread⟩ := hread
    obtain ⟨hid, hstart', hstop', hlength⟩ := request.read_replacement hread
    refine ⟨writeReplaceStudents_noDoubleBooking hbooking hid ?_,
      writeReplaceStudents_capacities hcapacity hlength ?_⟩
    · intro row hrow
      obtain ⟨hstart, hstop, -⟩ := hfresh row hrow
      rw [hstart', hstop']
      exact ⟨hstart, hstop⟩
    · intro row hrow
      exact (hfresh row hrow).2.2

/-! ### Runs -/

section Runs

universe u

variable {ι : Type u} [DecidableEq ι]

/-- The turn takes no event out of CANCELLED. -/
def NoReactivation (requests : ι → ScheduleRequest) (c : Interleaving ι Failure Db PendingWrite Unit)
    (i : ι) : Prop :=
  ¬Reactivates c.store (step (fun i => (requests i).twoPhase) c i).store

instance decidableNoReactivation (requests : ι → ScheduleRequest)
    (c : Interleaving ι Failure Db PendingWrite Unit) (i : ι) :
    Decidable (NoReactivation requests c i) :=
  inferInstanceAs (Decidable (¬∃ e ∈ c.store.instructorEvents.rows, e.status = .cancelled ∧
    ∃ e' ∈ (step (fun i => (requests i).twoPhase) c i).store.instructorEvents.rows,
      e'.id = e.id ∧ e'.status ≠ .cancelled))

/-- Requests of any number in any order keep the schedule safe when every write finds what it
relies on. -/
theorem interleavedWrites_safe (requests : ι → ScheduleRequest) (schedule : List ι) (db : Db)
    (h : ScheduleSafe db)
    (hno : Throughout (fun i => (requests i).twoPhase) (NoReactivation requests) schedule (start db))
    (hfresh : Throughout (fun i => (requests i).twoPhase) (AtWrite fun db w => w.Fresh db) schedule
      (start db)) :
    ∀ reached, reached <+: schedule →
      ScheduleSafe (run (fun i => (requests i).twoPhase) reached (start db)).store := by
  intro reached hprefix
  obtain ⟨rest, rfl⟩ := hprefix
  apply run_store (I := ScheduleSafe) _ _ (holdsReads_start db) h (hno.and hfresh).of_append
  · intro c i _ _ hs
    obtain ⟨p, hp⟩ := (requests i).read_keeps c.store
    obtain ⟨hbooking, hcapacity⟩ := hs
    refine ⟨?_, hcapacity.of_same (sameEvents_refreshed ⟨p, hp⟩)⟩
    rw [show ((requests i).twoPhase.read c.store).2 = c.store.refreshed p from hp,
      noDoubleBooking_refreshed]
    exact hbooking
  · intro c i w hw hread hc hs
    obtain ⟨hno, hfresh⟩ := hc
    obtain ⟨s, t, hread⟩ := hread
    refine w.run_safe ⟨requests i, s, t, hread⟩ (hfresh w hw) ?_ hs
    unfold NoReactivation at hno
    rwa [step_of_prepared hw] at hno

end Runs

/-! ### Samples -/

namespace SmallSchool

/-- A lecture on Tuesday at noon for two students. -/
def lecture : InstructorEvent where
  id := 61
  instructorId := 20
  schoolId := 10
  type := .theory
  startTime := clock 5 12 0
  endTime := clock 5 13 0
  capacity := some 2

def withLecture : Db := db .empty ⟨[lecture], List.nodup_singleton _⟩

theorem withLecture_safe : ScheduleSafe withLecture := by
  refine ⟨?_, by decide⟩
  intro i j hij a b ha hb
  cases i with
  | lesson id => cases ha
  | event id =>
    cases j with
    | lesson id' => cases hb
    | event id' =>
      obtain ⟨e, he, rfl, _⟩ := (calendar_event_eq_some _ _ _).mp ha
      obtain ⟨e', he', rfl, _⟩ := (calendar_event_eq_some _ _ _).mp hb
      rw [List.mem_singleton.mp he, List.mem_singleton.mp he'] at hij
      exact absurd rfl hij

/-- On Monday morning one manager enters both students for the lecture. -/
def entry : ScheduleRequest := .assignStudentsToEvent (envAt (clock 4 8 0)) manager 61 [3, 4]

/-- The edits of the lecture by another manager. -/
def lectureEdit (body : PatchInstructorEventBody) : ScheduleRequest :=
  .updateInstructorEvent (envAt (clock 4 8 0)) (envAt (clock 4 8 0)) manager 61 body

/-- The lecture is put off by two hours. -/
def postponed : ScheduleRequest :=
  lectureEdit { startTime := some (clock 5 14 0), endTime := some (clock 5 15 0) }

/-- A drive of the same instructor at noon. -/
def noonDrive : ScheduleRequest :=
  .bookLesson (envAt (clock 4 8 0)) manager ⟨50, 3, 20, clock 5 12 0, clock 5 13 0, 40⟩

def entryAndDone (edits : Bool) : ScheduleRequest :=
  if edits then lectureEdit { status := some .done } else entry

def entryAndLimit (edits : Bool) : ScheduleRequest :=
  if edits then lectureEdit { capacity := some (some 1) } else entry

/-- One edit opens the lecture for more students, one puts it off, and a drive takes its hour. -/
def editsAndDrive : Fin 3 → ScheduleRequest :=
  ![lectureEdit { capacity := some (some 9) }, postponed, noonDrive]

end SmallSchool

open SmallSchool in
/-- The lecture is marked as done between the two phases of an entry; both succeed, and the entry
still finds the hours and the capacity that it has read. -/
theorem interleavedWrites_safe_done :
    (∀ i, (run (fun i => (entryAndDone i).twoPhase) [false, true, true, false]
      (start withLecture)).Succeeded i) ∧
    ScheduleSafe (run (fun i => (entryAndDone i).twoPhase) [false, true, true, false]
      (start withLecture)).store :=
  ⟨by decide, interleavedWrites_safe entryAndDone [false, true, true, false] withLecture
    withLecture_safe (by decide) (by decide) _ List.prefix_rfl⟩

open SmallSchool in
/-- An entry counts against the capacity it has read, though an edit has lowered it since; and an
edit that only opens the lecture for more students writes the old hour back, though the lecture
has been put off and a drive has taken the hour. -/
theorem interleavedWrites_unsafe : ScheduleSafe withLecture ∧
    ((∀ i, (run (fun i => (entryAndLimit i).twoPhase) [false, true, true, false]
        (start withLecture)).Succeeded i) ∧
      Throughout (fun i => (entryAndLimit i).twoPhase) (NoReactivation entryAndLimit)
        [false, true, true, false] (start withLecture) ∧
      ¬CapacitiesHold (run (fun i => (entryAndLimit i).twoPhase) [false, true, true, false]
        (start withLecture)).store) ∧
    (∀ i, (run (fun i => (editsAndDrive i).twoPhase) [0, 1, 1, 2, 2, 0]
        (start withLecture)).Succeeded i) ∧
      Throughout (fun i => (editsAndDrive i).twoPhase) (NoReactivation editsAndDrive)
        [0, 1, 1, 2, 2, 0] (start withLecture) ∧
      ¬NoDoubleBooking (run (fun i => (editsAndDrive i).twoPhase) [0, 1, 1, 2, 2, 0]
        (start withLecture)).store := by
  refine ⟨withLecture_safe, ⟨by decide, by decide, by decide⟩, by decide, by decide, ?_⟩
  intro h
  apply h (.lesson 1) (.event 61) (by decide) _ _ rfl rfl
  exact ⟨⟨clock 5 12 0, by decide, by decide, by decide, by decide⟩, .instructor 20, rfl, rfl⟩

end OSK
