import OskManager.Lib.Calls
import OskManager.Model.BodySchemas
import OskManager.Sample.SmallSchool
import OskManager.Schedule.EventSafety
import OskManager.Schedule.ParticipantWrites
import OskManager.Schedule.WriteEffects

/-! Only theory events have participants, as long as no edit turns an event that has some into a
drive: whoever writes participants asks for the type of the event, an edit does not ask for its
participants. -/

namespace OSK

open Relational

variable {env : Env} {db db' : Db}

def OnlyTheoryAttended (db : Db) : Prop :=
  ∀ e ∈ db.instructorEvents.rows, e.isActive = true →
    ∀ s, (e.id, s) ∈ db.eventParticipants.keys → e.type = .theory

/-! ### Events -/

theorem EventCreated.onlyTheoryAttended {actor : Actor} {body : CreateInstructorEventBody}
    (hwrite : EventCreated env actor body db db') (h : OnlyTheoryAttended db) :
    OnlyTheoryAttended db' := by
  cases hwrite with
  | refreshed p => exact h
  | created p schoolId rules drive =>
    intro e he hactive s hs
    rcases mem_insertEvent.mp he with hold | rfl
    · exact h e hold hactive s hs
    · exact absurd hs (no_participant_of_fresh s)

/-- An edit that leaves the type alone, or makes the event a theory event, needs no rule. -/
theorem EventEdited.onlyTheoryAttended {actor : Actor} {eventId : Uuid}
    {body : PatchInstructorEventBody} (hwrite : EventEdited env actor eventId body db db')
    (h : OnlyTheoryAttended db)
    (hcareful : ∀ u, EventEditPasses env actor eventId body db u → u.merged.type = .drive →
      u.current.type = .theory → ∀ s, (eventId, s) ∉ db.eventParticipants.keys) :
    OnlyTheoryAttended db' := by
  cases hwrite with
  | refreshed p => exact h
  | edited p u passes =>
    have prepared := passes.rules.prepared
    intro e he hactive s hs
    rcases prepared.mem_cases he with ⟨hold, _⟩ | rfl
    · exact h e hold hactive s hs
    · have hid := Table.key_of_findUnique prepared.found
      have hattended : (u.current.id, s) ∈ db.eventParticipants.keys := hs
      have hbefore := h u.current (Table.mem_of_findUnique prepared.found) hactive s hattended
      rw [hid] at hattended
      show u.merged.type = .theory
      cases htype : u.merged.type with
      | theory => rfl
      | drive => exact absurd hattended (hcareful u passes htype hbefore s)

/-! ### Participants -/

theorem ParticipantEvent.onlyTheoryAttended {actor : Actor} {eventId : Uuid}
    {event : InstructorEvent} {P : Uuid → Prop} (hevent : ParticipantEvent db actor eventId event)
    (hb : ParticipantsBecome db db' eventId P) (h : OnlyTheoryAttended db) :
    OnlyTheoryAttended db' := by
  have hsame : db'.instructorEvents = db.instructorEvents := by
    obtain ⟨t, rfl⟩ := hb.only
    rfl
  intro e he hactive s hs
  rw [hsame] at he
  by_cases hid : e.id = eventId
  · have hfound := Table.findUnique_of_mem he
    rw [hid] at hfound
    cases hfound.symm.trans hevent.found
    exact hevent.theory
  · exact h e he hactive s ((hb.others e.id s hid).mp hs)

theorem assignStudentsToEvent_onlyTheoryAttended (actor : Actor) (eventId : Uuid)
    (studentIds : List Uuid) (h : OnlyTheoryAttended db) :
    OnlyTheoryAttended (assignStudentsToEvent env actor eventId studentIds db).2 := by
  rcases (assignStudentsToEvent_fails env actor eventId studentIds).cases db with ⟨r, hok⟩ | hs
  · obtain ⟨prepared, hprepared, hwrite⟩ := assignStudentsToEvent_eq_ok.mp hok
    obtain ⟨_, hevent, _⟩ := prepareAssignStudents_eq_ok.mp hprepared
    obtain ⟨_, _, -, -, hb⟩ := writeAssignStudents_ok hwrite
    exact hevent.onlyTheoryAttended hb h
  · rw [hs]
    exact h

theorem replaceEventStudents_onlyTheoryAttended (actor : Actor) (eventId : Uuid)
    (studentIds : List Uuid) (h : OnlyTheoryAttended db) :
    OnlyTheoryAttended (replaceEventStudents env actor eventId studentIds db).2 := by
  rcases (replaceEventStudents_fails env actor eventId studentIds).cases db with ⟨r, hok⟩ | hs
  · obtain ⟨prepared, hprepared, hwrite, _⟩ := replaceEventStudents_eq_ok.mp hok
    obtain ⟨-, -, hb⟩ := writeReplaceStudents_ok hwrite
    exact (prepareEventStudentReplacement_ok hprepared).event.onlyTheoryAttended hb h
  · rw [hs]
    exact h

/-- Removing a participant adds none, even when the call fails afterwards. -/
theorem removeStudentFromEvent_onlyTheoryAttended (actor : Actor) (eventId studentUserId : Uuid)
    (h : OnlyTheoryAttended db) :
    OnlyTheoryAttended (removeStudentFromEvent actor eventId studentUserId db).2 := by
  rcases removeStudentFromEvent_store actor eventId studentUserId db with hs | ⟨ids, hs⟩
  · rw [hs]
    exact h
  · rw [hs]
    intro e he hactive s hs
    obtain ⟨p, hp, hkey⟩ := (Table.mem_keys _ _).mp hs
    have hold := ((Table.mem_deleteMany _ _ _).mp hp).1
    exact h e he hactive s ((Table.mem_keys _ _).mpr ⟨p, hold, hkey⟩)

/-! ### Runs -/

inductive AttendanceCall where
  | createInstructorEvent (actor : Actor) (body : CreateInstructorEventBody)
  | updateInstructorEvent (actor : Actor) (eventId : Uuid) (body : PatchInstructorEventBody)
  | assignStudentsToEvent (actor : Actor) (eventId : Uuid) (studentIds : List Uuid)
  | replaceEventStudents (actor : Actor) (eventId : Uuid) (studentIds : List Uuid)
  | removeStudentFromEvent (actor : Actor) (eventId studentUserId : Uuid)

namespace AttendanceCall

/-- The state a call leaves, whether it succeeds or fails. -/
def run (env : Env) (db : Db) : AttendanceCall → Db
  | .createInstructorEvent actor body => (OSK.createInstructorEvent env actor body db).2
  | .updateInstructorEvent actor eventId body =>
    (OSK.updateInstructorEvent env actor eventId body db).2
  | .assignStudentsToEvent actor eventId studentIds =>
    (OSK.assignStudentsToEvent env actor eventId studentIds db).2
  | .replaceEventStudents actor eventId studentIds =>
    (OSK.replaceEventStudents env actor eventId studentIds db).2
  | .removeStudentFromEvent actor eventId studentUserId =>
    (OSK.removeStudentFromEvent actor eventId studentUserId db).2

def Accepted : AttendanceCall → Prop
  | .updateInstructorEvent _ _ body => body.Accepted
  | _ => True

/-- An edit whose checks pass makes no theory event with participants a drive. -/
def Careful (env : Env) (db : Db) : AttendanceCall → Prop
  | .updateInstructorEvent actor eventId body => ∀ u, EventEditPasses env actor eventId body db u →
    u.merged.type = .drive → u.current.type = .theory →
      ∀ s, (eventId, s) ∉ db.eventParticipants.keys
  | _ => True

/-- Calls with accepted bodies, where `allowed` may refuse some. -/
def calls (allowed : Env → Db → AttendanceCall → Prop) : Calls (Env × AttendanceCall) Db where
  allowed k db := k.2.Accepted ∧ allowed k.1 db k.2
  act k db := k.2.run k.1 db

theorem run_onlyTheoryAttended {call : AttendanceCall} (hcareful : call.Careful env db)
    (h : OnlyTheoryAttended db) : OnlyTheoryAttended (call.run env db) := by
  cases call with
  | createInstructorEvent actor body =>
    exact (createInstructorEvent_written actor body).onlyTheoryAttended h
  | updateInstructorEvent actor eventId body =>
    exact (updateInstructorEvent_written actor eventId body).onlyTheoryAttended h hcareful
  | assignStudentsToEvent actor eventId studentIds =>
    exact assignStudentsToEvent_onlyTheoryAttended actor eventId studentIds h
  | replaceEventStudents actor eventId studentIds =>
    exact replaceEventStudents_onlyTheoryAttended actor eventId studentIds h
  | removeStudentFromEvent actor eventId studentUserId =>
    exact removeStudentFromEvent_onlyTheoryAttended actor eventId studentUserId h

end AttendanceCall

namespace AttendedLecture

open SmallSchool

def lecture : InstructorEvent where
  id := 61
  instructorId := 20
  schoolId := 10
  type := .theory
  startTime := clock 5 12 0
  endTime := clock 5 13 0

/-- The school with the theory event, which one student attends. -/
def start : Db :=
  SmallSchool.db .empty ⟨[lecture], List.nodup_singleton _⟩
    ⟨[{ eventId := 61, studentId := 30 }], List.nodup_singleton _⟩

theorem start_onlyTheoryAttended : OnlyTheoryAttended start := by
  intro e he _ _ _
  rw [List.mem_singleton.mp he]
  rfl

def toDrive : PatchInstructorEventBody := { type := some .drive, vehicleId := some (some 40) }

def call (c : AttendanceCall) : Env × AttendanceCall := (envAt (clock 4 8 0), c)

def turning : Env × AttendanceCall := call (.updateInstructorEvent manager 61 toDrive)

def leaving : Env × AttendanceCall := call (.removeStudentFromEvent manager 61 3)

end AttendedLecture

open AttendedLecture in
/-- A theory event that a student attends becomes a drive. -/
theorem run_not_onlyTheoryAttended : ¬∀ db db' : Db, OnlyTheoryAttended db →
    (AttendanceCall.calls fun _ _ _ => True).Run db db' → OnlyTheoryAttended db' := by
  intro h
  have hrun := Calls.run_after (AttendanceCall.calls fun _ _ _ => True) [turning] start
    ⟨⟨rfl, trivial⟩, trivial⟩
  have hattended := h _ _ start_onlyTheoryAttended hrun
  have hdrive : ((AttendanceCall.calls fun _ _ _ => True).after [turning]
      start).instructorEvents.rows = [{ lecture with type := .drive, vehicleId := some 40 }] := by
    decide +kernel
  have hmem : { lecture with type := .drive, vehicleId := some 40 } ∈
      ((AttendanceCall.calls fun _ _ _ => True).after [turning] start).instructorEvents.rows := by
    rw [hdrive]
    exact List.mem_cons_self
  exact absurd (hattended _ hmem rfl 30 (by decide +kernel)) (by decide)

/-- In every run of careful calls only theory events have participants. -/
theorem careful_run_onlyTheoryAttended {db db' : Db} (h : OnlyTheoryAttended db)
    (hrun : (AttendanceCall.calls fun env db call => call.Careful env db).Run db db') :
    OnlyTheoryAttended db' := by
  refine Calls.Run.invariant (fun _ _ hallowed hdb => ?_) h hrun
  exact AttendanceCall.run_onlyTheoryAttended hallowed.2 hdb

open AttendedLecture in
/-- The event becomes a drive after its student has left. -/
theorem careful_run_onlyTheoryAttended_left :
    OnlyTheoryAttended ((AttendanceCall.calls fun env db call => call.Careful env db).after
        [leaving, turning] start) ∧
      ((AttendanceCall.calls fun env db call => call.Careful env db).after [leaving, turning]
        start).instructorEvents.rows.map InstructorEvent.type = [.drive] := by
  refine ⟨careful_run_onlyTheoryAttended start_onlyTheoryAttended (Calls.run_after _ _ _ ?_),
    by decide +kernel⟩
  refine ⟨⟨trivial, trivial⟩, ⟨rfl, ?_⟩, trivial⟩
  have hnobody : ((AttendanceCall.calls fun env db call => call.Careful env db).act leaving
      start).eventParticipants.keys = [] := by
    decide +kernel
  intro _ _ _ _ s hs
  rw [hnobody] at hs
  cases hs

end OSK
