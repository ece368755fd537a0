import Mathlib.Tactic.MkIffOfInductiveProp
import OskManager.Lib.TwoPhase
import OskManager.Sample.SmallSchool
import OskManager.Schedule.EventWrites

/-! Two edits of one event at the same time. An edit reads the row before its transaction and
writes every column back inside it, so an edit that began earlier can undo one that has been
written since. A transaction that is retried writes the same columns at a later turn. -/

namespace OSK

open Relational

/-! ### One field of a patch -/

/-- The column has the value the patch gives it, if it gives one. -/
def TakesEffect {α : Type} (setting : Option α) (column : α) : Prop := ∀ v ∈ setting, column = v

namespace TakesEffect

variable {α : Type} {setting other : Option α} {column : α}

theorem getD : TakesEffect setting (setting.getD column) := by
  intro v hv
  rw [Option.mem_def.mp hv]
  rfl

/-- Another patch that leaves the field out keeps the column. -/
theorem getD_other (h : setting = none ∨ other = none) :
    TakesEffect setting (other.getD column) ↔ TakesEffect setting column := by
  rcases h with rfl | rfl
  · exact iff_of_true nofun nofun
  · rfl

theorem getD_getD (h : setting = none ∨ other = none) :
    TakesEffect setting (other.getD (setting.getD column)) :=
  (getD_other h).mpr getD

end TakesEffect

/-! ### The columns of an edit -/

structure EditableColumns where
  instructorId : Uuid
  type : EventType
  status : EventStatus
  startTime : Instant
  endTime : Instant
  vehicleId : Option Uuid
  capacity : Option ℤ
  deriving DecidableEq

def InstructorEvent.editable (e : InstructorEvent) : EditableColumns where
  instructorId := e.instructorId
  type := e.type
  status := e.status
  startTime := e.startTime
  endTime := e.endTime
  vehicleId := e.vehicleId
  capacity := e.capacity

namespace PatchInstructorEventBody

/-- Every field the body sets has the body's value. -/
@[mk_iff]
structure Holds (body : PatchInstructorEventBody) (columns : EditableColumns) : Prop where
  instructorId : TakesEffect body.instructorUuid columns.instructorId
  type : TakesEffect body.type columns.type
  status : TakesEffect body.status columns.status
  startTime : TakesEffect body.startTime columns.startTime
  endTime : TakesEffect body.endTime columns.endTime
  vehicleId : TakesEffect body.vehicleUuid columns.vehicleId
  capacity : TakesEffect body.capacity columns.capacity

structure Disjoint (body other : PatchInstructorEventBody) : Prop where
  instructorId : body.instructorUuid = none ∨ other.instructorUuid = none
  type : body.type = none ∨ other.type = none
  status : body.status = none ∨ other.status = none
  startTime : body.startTime = none ∨ other.startTime = none
  endTime : body.endTime = none ∨ other.endTime = none
  vehicleId : body.vehicleUuid = none ∨ other.vehicleUuid = none
  capacity : body.capacity = none ∨ other.capacity = none

theorem Disjoint.symm {body other : PatchInstructorEventBody} (h : body.Disjoint other) :
    other.Disjoint body where
  instructorId := h.instructorId.symm
  type := h.type.symm
  status := h.status.symm
  startTime := h.startTime.symm
  endTime := h.endTime.symm
  vehicleId := h.vehicleId.symm
  capacity := h.capacity.symm

/-- A vehicle is only given to a drive. -/
def VehicleFits (body : PatchInstructorEventBody) (type : EventType) : Prop :=
  ∀ v, body.vehicleUuid = some (some v) → type = .drive

end PatchInstructorEventBody

namespace EditableColumns

/-- The columns of the event as one of the given type: only a drive keeps its vehicle. -/
def ofType (columns : EditableColumns) (type : EventType) : EditableColumns :=
  { columns with vehicleId := if type = .drive then columns.vehicleId else none }

def patched (columns : EditableColumns) (body : PatchInstructorEventBody) : EditableColumns where
  instructorId := body.instructorUuid.getD columns.instructorId
  type := body.type.getD columns.type
  status := body.status.getD columns.status
  startTime := body.startTime.getD columns.startTime
  endTime := body.endTime.getD columns.endTime
  vehicleId :=
    if body.type.getD columns.type = .drive then body.vehicleUuid.getD columns.vehicleId else none
  capacity := body.capacity.getD columns.capacity

def DriveHasVehicle (columns : EditableColumns) : Prop :=
  columns.type = .drive → columns.vehicleId ≠ none

variable {columns : EditableColumns} {body other : PatchInstructorEventBody}

theorem takesEffect_vehicle {type : EventType} {vehicleId : Option Uuid}
    (h : TakesEffect body.vehicleUuid vehicleId) :
    TakesEffect body.vehicleUuid (if type = .drive then vehicleId else none) ↔
      body.VehicleFits type := by
  refine ⟨?_, ?_⟩
  · intro heffect v hv
    by_contra htype
    have hnone := heffect _ hv
    rw [if_neg htype] at hnone
    cases hnone
  · intro hfits v hv
    cases v with
    | none => rw [h none hv, ite_self]
    | some v => rw [if_pos (hfits v hv), h _ hv]

/-- An edit has taken effect in the columns it writes, except for a vehicle it gives to an event
that is no drive. -/
theorem holds_patched : body.Holds (columns.patched body) ↔
    body.VehicleFits (columns.patched body).type := by
  refine ⟨?_, ?_⟩
  · intro h
    exact (takesEffect_vehicle .getD).mp h.vehicleId
  · intro hfits
    exact ⟨.getD, .getD, .getD, .getD, .getD, (takesEffect_vehicle .getD).mpr hfits, .getD⟩

/-- A later edit that reads these columns keeps what the earlier one has set. -/
theorem holds_patched_patched (hdisjoint : body.Disjoint other)
    (hdrive : ((columns.patched body).patched other).DriveHasVehicle) :
    body.Holds ((columns.patched body).patched other) ↔
      body.VehicleFits ((columns.patched body).patched other).type := by
  have hvehicle : TakesEffect body.vehicleUuid ((columns.patched body).patched other).vehicleId ↔
      body.VehicleFits ((columns.patched body).patched other).type := by
    rcases hdisjoint.vehicleId with hnone | hnone
    · rw [PatchInstructorEventBody.VehicleFits, hnone]
      exact iff_of_true nofun nofun
    · have hgiven : TakesEffect body.vehicleUuid (body.vehicleUuid.getD columns.vehicleId) := .getD
      rw [← takesEffect_vehicle hgiven]
      unfold DriveHasVehicle at hdrive
      simp only [patched, hnone, Option.getD_none] at hdrive ⊢
      by_cases htype : other.type.getD (body.type.getD columns.type) = .drive
      · have hbefore : body.type.getD columns.type = .drive := by
          by_contra hbefore
          exact hdrive htype (by rw [if_pos htype, if_neg hbefore])
        rw [if_pos htype, if_pos htype, if_pos hbefore]
      · rw [if_neg htype, if_neg htype]
  refine ⟨?_, ?_⟩
  · intro h
    exact hvehicle.mp h.vehicleId
  · intro hfits
    exact ⟨.getD_getD hdisjoint.instructorId, .getD_getD hdisjoint.type,
      .getD_getD hdisjoint.status, .getD_getD hdisjoint.startTime, .getD_getD hdisjoint.endTime,
      hvehicle.mpr hfits, .getD_getD hdisjoint.capacity⟩

/-- An edit that has not read what the other one set writes the old values back. -/
theorem holds_overwritten (hdisjoint : body.Disjoint other) :
    body.Holds (columns.patched other) ↔
      body.Holds (columns.ofType (other.type.getD columns.type)) := by
  have hvehicle : TakesEffect body.vehicleUuid (columns.patched other).vehicleId ↔
      TakesEffect body.vehicleUuid (columns.ofType (other.type.getD columns.type)).vehicleId := by
    rcases hdisjoint.vehicleId with hnone | hnone
    · rw [hnone]
      exact iff_of_true nofun nofun
    · simp only [patched, ofType, hnone, Option.getD_none]
  rw [PatchInstructorEventBody.holds_iff, PatchInstructorEventBody.holds_iff, hvehicle]
  simp only [patched, ofType, TakesEffect.getD_other hdisjoint.instructorId,
    TakesEffect.getD_other hdisjoint.type, TakesEffect.getD_other hdisjoint.status,
    TakesEffect.getD_other hdisjoint.startTime, TakesEffect.getD_other hdisjoint.endTime,
    TakesEffect.getD_other hdisjoint.capacity]

end EditableColumns

/-! ### The two phases of a call -/

def Db.eventColumns (db : Db) (eventId : Uuid) : Option EditableColumns :=
  (db.instructorEvents.findUnique eventId).map InstructorEvent.editable

/-- What the transaction of an edit writes, whatever the row holds by then. -/
def PreparedEventUpdate.columns (u : PreparedEventUpdate) : EditableColumns where
  instructorId := u.merged.instructorId.uuid
  type := u.merged.type
  status := u.merged.status
  startTime := u.merged.start
  endTime := u.merged.stop
  vehicleId := u.merged.resolvedVehicleId
  capacity := u.merged.capacity

theorem eventColumns_rewriteEvent {db : Db} {eventId : Uuid} {row : InstructorEvent}
    (u : PreparedEventUpdate) (h : db.instructorEvents.findUnique eventId = some row) :
    (db.rewriteEvent eventId u).eventColumns eventId = some u.columns := by
  simp only [Db.eventColumns, Db.rewriteEvent, Table.findUnique_update, if_true, h, Option.map_some]
  rfl

structure EventEditCall where
  env : Env
  actor : Actor
  body : PatchInstructorEventBody

namespace EventEditCall

def twoPhase (eventId : Uuid) (call : EventEditCall) :
    TwoPhase Failure Db PreparedEventUpdate InstructorEventDto where
  read := prepareEventUpdate call.env call.actor eventId call.body
  write := writeEventUpdate call.env eventId call.body

theorem whole_twoPhase (eventId : Uuid) (call : EventEditCall) :
    (call.twoPhase eventId).whole =
      updateInstructorEvent call.env call.actor eventId call.body := rfl

variable {eventId : Uuid} {call : EventEditCall} {db t : Db} {u : PreparedEventUpdate}

theorem read_columns (h : (call.twoPhase eventId).read db = (.ok u, t)) :
    ∃ before, db.eventColumns eventId = some before ∧ t.eventColumns eventId = some before ∧
      u.columns = before.patched call.body ∧ u.columns.DriveHasVehicle := by
  obtain ⟨hrules, -, hvehicle⟩ := (prepareEventUpdate_eq_ok ..).mp h
  obtain ⟨p, rfl⟩ := (validateDriveVehicle_keeps _ _ _ _ _).run hvehicle
  have hbefore : db.eventColumns eventId = some u.current.editable := by
    rw [Db.eventColumns, hrules.found, Option.map_some]
  refine ⟨u.current.editable, hbefore, hbefore, ?_, ?_⟩
  · unfold PreparedEventUpdate.columns MergedEvent.resolvedVehicleId
    rw [hrules.merged, uuid_instructorId_mergeEvent, uuid_vehicleId_mergeEvent]
    rfl
  · intro (htype : u.merged.type = .drive)
    rcases validateDriveVehicle_eq_ok.mp hvehicle with ⟨-, v, hv, -⟩ | ⟨hother, -⟩
    · simp only [PreparedEventUpdate.columns, MergedEvent.resolvedVehicleId, if_pos htype, hv]
      exact Option.some_ne_none v
    · exact absurd htype hother

theorem write_columns {dto : InstructorEventDto}
    (h : (call.twoPhase eventId).write u db = (.ok dto, t)) :
    t.eventColumns eventId = some u.columns := by
  obtain ⟨-, row, hrow, rfl, -⟩ := (writeEventUpdate_eq_ok ..).mp h
  exact eventColumns_rewriteEvent u hrow

theorem whole_columns {dto : InstructorEventDto}
    (h : (call.twoPhase eventId).whole db = (.ok dto, t)) :
    ∃ before, db.eventColumns eventId = some before ∧
      t.eventColumns eventId = some (before.patched call.body) ∧
      (before.patched call.body).DriveHasVehicle := by
  obtain ⟨u, s, hread, hwrite⟩ := Prog.bind_eq_ok.mp h
  obtain ⟨before, hbefore, -, hcolumns, hdrive⟩ := read_columns hread
  refine ⟨before, hbefore, ?_⟩
  rw [← hcolumns]
  exact ⟨write_columns hwrite, hdrive⟩

end EventEditCall

/-! ### Two calls -/

open Interleaving

/-- The columns two edits leave behind: the second write wins, with what its read has seen. -/
def writtenColumns (bodies : Bool → PatchInstructorEventBody) (before : EditableColumns) :
    Order → EditableColumns
  | .serial i => (before.patched (bodies i)).patched (bodies !i)
  | .overlapped i => before.patched (bodies !i)

/-- When both edits survive. The edit that is written last gets its fields, but a vehicle only on a
drive. The other one keeps its fields if it was finished before the last one read the row; if not,
only where it repeats what the row held at first. -/
def KeepsBoth (bodies : Bool → PatchInstructorEventBody) (before : EditableColumns) : Order → Prop
  | .serial i =>
    let type := (bodies !i).type.getD ((bodies i).type.getD before.type)
    (bodies i).VehicleFits type ∧ (bodies !i).VehicleFits type
  | .overlapped i =>
    let type := (bodies !i).type.getD before.type
    (bodies i).Holds (before.ofType type) ∧ (bodies !i).VehicleFits type

section

variable {calls : Bool → EventEditCall} {eventId : Uuid} {db t : Db} {o : Order}

theorem executes_columns (h : Executes (fun i => (calls i).twoPhase eventId) db t o) :
    ∃ before, db.eventColumns eventId = some before ∧
      t.eventColumns eventId = some (writtenColumns (fun i => (calls i).body) before o) ∧
      (writtenColumns (fun i => (calls i).body) before o).DriveHasVehicle := by
  cases o with
  | serial i =>
    obtain ⟨r, r', s, hfirst, hlast⟩ := h
    obtain ⟨before, hbefore, hmiddle, -⟩ := EventEditCall.whole_columns hfirst
    obtain ⟨middle, hmiddle', hafter, hdrive⟩ := EventEditCall.whole_columns hlast
    cases hmiddle.symm.trans hmiddle'
    exact ⟨before, hbefore, hafter, hdrive⟩
  | overlapped i =>
    obtain ⟨k, b, r, r', s₁, s₂, s₃, hread, hread', hwrite, hwrite'⟩ := h
    obtain ⟨before, hbefore, hmiddle, hcolumns, hdrive⟩ := EventEditCall.read_columns hread
    obtain ⟨middle, hmiddle', -, hcolumns', hdrive'⟩ := EventEditCall.read_columns hread'
    cases hmiddle.symm.trans hmiddle'
    have hlast : (k !i).columns = before.patched (calls !i).body ∧
        (k !i).columns.DriveHasVehicle := by
      rcases Bool.eq_or_eq_not (!i) b with hb | hb
      · rw [hb]
        exact ⟨hcolumns, hdrive⟩
      · rw [hb]
        exact ⟨hcolumns', hdrive'⟩
    refine ⟨before, hbefore, ?_⟩
    rw [writtenColumns, ← hlast.1]
    exact ⟨EventEditCall.write_columns hwrite', hlast.2⟩

theorem holds_writtenColumns_iff {bodies : Bool → PatchInstructorEventBody}
    {before : EditableColumns} (hdisjoint : (bodies false).Disjoint (bodies true))
    (hdrive : (writtenColumns bodies before o).DriveHasVehicle) :
    (∀ i, (bodies i).Holds (writtenColumns bodies before o)) ↔ KeepsBoth bodies before o := by
  have hdisjoint (i : Bool) : (bodies i).Disjoint (bodies !i) := by
    cases i
    · exact hdisjoint
    · exact hdisjoint.symm
  cases o with
  | serial i =>
    rw [Bool.forall_bool' i]
    exact and_congr (EditableColumns.holds_patched_patched (hdisjoint i) hdrive)
      EditableColumns.holds_patched
  | overlapped i =>
    rw [Bool.forall_bool' i]
    exact and_congr (EditableColumns.holds_overwritten (hdisjoint i)) EditableColumns.holds_patched

end

/-- Two successful edits of one event that set different fields both survive exactly when
`KeepsBoth` says so of their order. -/
theorem eventEdits_hold_iff (calls : Bool → EventEditCall) (eventId : Uuid) (schedule : List Bool)
    (db : Db) (hdisjoint : (calls false).body.Disjoint (calls true).body)
    (hsucceeded : ∀ i,
      (run (fun i => (calls i).twoPhase eventId) schedule (start db)).Succeeded i) :
    ∃ o before after, order schedule = some o ∧ db.eventColumns eventId = some before ∧
      (run (fun i => (calls i).twoPhase eventId) schedule (start db)).store.eventColumns eventId =
        some after ∧
      ((∀ i, (calls i).body.Holds after) ↔ KeepsBoth (fun i => (calls i).body) before o) := by
  obtain ⟨o, horder, hexecutes⟩ := run_order hsucceeded
  obtain ⟨before, hbefore, hafter, hdrive⟩ := executes_columns hexecutes
  exact ⟨o, before, _, horder, hbefore, hafter, holds_writtenColumns_iff hdisjoint hdrive⟩

namespace SmallSchool

/-- One manager limits the participants of the event while another one marks it as done. -/
def tuesdayEdits (marksDone : Bool) : EventEditCall where
  env := envAt (clock 4 8 0)
  actor := manager
  body := if marksDone then { status := some .done } else { capacity := some (some 5) }

end SmallSchool

open SmallSchool

theorem eventEdits_hold_in_turn :
    ∃ after, (run (fun i => (tuesdayEdits i).twoPhase 60) [false, false, true, true]
        (start withTuesdayEvent)).store.eventColumns 60 = some after ∧
      ∀ i, (tuesdayEdits i).body.Holds after := by
  obtain ⟨o, before, after, horder, -, hafter, hiff⟩ := eventEdits_hold_iff tuesdayEdits 60
    [false, false, true, true] withTuesdayEvent
    ⟨.inr rfl, .inl rfl, .inl rfl, .inl rfl, .inl rfl, .inl rfl, .inr rfl⟩ (by decide)
  cases horder
  exact ⟨after, hafter, hiff.mpr ⟨nofun, nofun⟩⟩

/-- When the status is written last by a call that had read the row before, the new capacity is
gone, and both calls have succeeded. -/
theorem eventEdits_lose_capacity :
    (tuesdayEdits false).body.Disjoint (tuesdayEdits true).body ∧
    (∀ i, (run (fun i => (tuesdayEdits i).twoPhase 60) [false, true, false, true]
      (start withTuesdayEvent)).Succeeded i) ∧
    ∃ after, (run (fun i => (tuesdayEdits i).twoPhase 60) [false, true, false, true]
        (start withTuesdayEvent)).store.eventColumns 60 = some after ∧
      ¬(tuesdayEdits false).body.Holds after := by
  refine ⟨⟨.inr rfl, .inl rfl, .inl rfl, .inl rfl, .inl rfl, .inl rfl, .inr rfl⟩, by decide,
    { tuesdayEvent.editable with status := .done }, by decide, ?_⟩
  intro h
  cases h.capacity _ rfl

end OSK
