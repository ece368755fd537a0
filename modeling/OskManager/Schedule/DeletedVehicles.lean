import OskManager.Lib.Timeline
import OskManager.Sample.SmallSchool
import OskManager.Schedule.VehicleCategories

/-! Deleted vehicles. No pending lesson and no pending drive uses one, as long as no change of many
statuses plans a drive again on one, and no deletion with capital letters in its id is of a vehicle
with pending work: whoever else chooses a vehicle asks whether it is active, and a deletion that
spells the id as it is stored asks for pending work. -/

namespace OSK

open Relational

/-- The vehicles of pending lessons and of pending drives have not been deleted. A practice lesson
and a drive have a vehicle; a theory lesson need not have one. -/
structure VehiclesInUse (now : Instant) (db : Db) : Prop where
  lessons : ∀ l ∈ db.lessons.rows, l.isPending now = true → ∀ v, l.vehicleId = some v →
    VehicleActive db v
  drives : ∀ e ∈ db.instructorEvents.rows, e.isPending now = true → e.type = .drive →
    ∃ v, e.vehicleId = some v ∧ VehicleActive db v

theorem vehiclesInUse_lasting : Timeline.Lasting VehiclesInUse := fun _ _ _ hle h =>
  ⟨fun l hl hpending => h.lessons l hl (Lesson.isPending_mono hle hpending),
    fun e he hpending => h.drives e he (InstructorEvent.isPending_mono hle hpending)⟩

/-! ### Each write -/

section Writes

variable {env : Env} {now : Instant} {db db' : Db}

theorem VehiclesInUse.refreshed (h : VehiclesInUse now db) (p : Vehicle → Bool) :
    VehiclesInUse now (db.refreshed p) := by
  refine ⟨fun l hl hpending v hv => ?_, fun e he hpending hdrive => ?_⟩
  · exact vehicleActive_refreshed.mpr (h.lessons l hl hpending v hv)
  · obtain ⟨v, hv, hactive⟩ := h.drives e he hpending hdrive
    exact ⟨v, hv, vehicleActive_refreshed.mpr hactive⟩

theorem VehiclesInUse.withLessons (h : VehiclesInUse now db) {t : Table Lesson.id}
    (hlessons : ∀ l ∈ t.rows, l ∈ db.lessons.rows ∨ ∀ v, l.vehicleId = some v →
      VehicleActive db v) :
    VehiclesInUse now { db with lessons := t } := by
  refine ⟨fun l hl hpending => ?_, h.drives⟩
  rcases hlessons l hl with hold | hnew
  · exact h.lessons l hold hpending
  · exact hnew

theorem VehiclesInUse.withEvents (h : VehiclesInUse now db) {t : Table InstructorEvent.id}
    (hevents : ∀ e ∈ t.rows, e ∈ db.instructorEvents.rows ∨ (e.isPending now = true →
      e.type = .drive → ∃ v, e.vehicleId = some v ∧ VehicleActive db v)) :
    VehiclesInUse now { db with instructorEvents := t } := by
  refine ⟨h.lessons, fun e he hpending => ?_⟩
  rcases hevents e he with hold | hnew
  · exact h.drives e hold hpending
  · exact hnew hpending

theorem LessonWritten.vehiclesInUse (hwrite : LessonWritten env db db')
    (h : VehiclesInUse now db) : VehiclesInUse now db' := by
  cases hwrite with
  | refreshed p => exact h.refreshed p
  | booked p data hlt course found =>
    refine (h.refreshed p).withLessons fun l hl => ?_
    rcases (mem_insertLesson hlt).mp hl with hold | rfl
    · exact Or.inl hold
    · refine Or.inr fun v hv => vehicleActive_refreshed.mpr ?_
      obtain rfl : data.vehicleId = v := Option.some_inj.mp hv
      exact found.vehicle_active
  | moved p existing course slot hlt found =>
    refine (h.refreshed p).withLessons fun l hl => ?_
    rcases found.mem_cases hl with ⟨hold, _⟩ | rfl
    · exact Or.inl hold
    · refine Or.inr fun v hv => vehicleActive_refreshed.mpr ?_
      obtain rfl : slot.vehicleId.uuid = v := Option.some_inj.mp hv
      exact found.vehicle_active

/-- The school of an event is found only with a vehicle that is active. -/
theorem resolveSchool_vehicleActive {instructorId schoolId v : Uuid} {courseId vehicleId : Option Uuid}
    (h : resolveInstructorEventSchoolId db instructorId courseId vehicleId = .ok schoolId)
    (hv : vehicleId = some v) : VehicleActive db v := by
  simp only [resolveInstructorEventSchoolId, except_bind_eq_ok, forSome_eq_ok, orThrow_eq_ok] at h
  obtain ⟨_, _, _, _, _, hvehicle, _⟩ := h
  obtain ⟨w, hw, _⟩ := hvehicle v hv
  obtain ⟨hmem, hwhere⟩ := Table.mem_of_findFirst hw
  exact ⟨w, hmem, of_decide_eq_true hwhere⟩

theorem EventCreated.vehiclesInUse {actor : Actor} {body : CreateInstructorEventBody}
    (hwrite : EventCreated env actor body db db') (h : VehiclesInUse now db) :
    VehiclesInUse now db' := by
  cases hwrite with
  | refreshed p => exact h.refreshed p
  | created p schoolId rules drive =>
    refine (h.refreshed p).withEvents fun e he => ?_
    rcases mem_insertEvent.mp he with hold | rfl
    · exact Or.inl hold
    · refine Or.inr fun _ hdrive => ?_
      obtain ⟨v, hv⟩ := Option.isSome_iff_exists.mp (drive hdrive)
      refine ⟨v, (if_pos hdrive).trans hv, vehicleActive_refreshed.mpr ?_⟩
      exact resolveSchool_vehicleActive rules.school hv

theorem EventEdited.vehiclesInUse {actor : Actor} {eventId : Uuid}
    {body : PatchInstructorEventBody} (hwrite : EventEdited env actor eventId body db db')
    (h : VehiclesInUse now db) : VehiclesInUse now db' := by
  cases hwrite with
  | refreshed p => exact h.refreshed p
  | edited p u passes =>
    have rules := passes.rules
    refine (h.refreshed p).withEvents fun e he => ?_
    rcases rules.prepared.mem_cases he with ⟨hold, _⟩ | rfl
    · exact Or.inl hold
    · refine Or.inr fun _ hdrive => ?_
      obtain ⟨v, hresolved⟩ := rules.drive_resolved hdrive
      refine ⟨v, hresolved, vehicleActive_refreshed.mpr ?_⟩
      exact resolveSchool_vehicleActive rules.school hresolved

theorem StatusesChanged.vehiclesInUse {actor : Actor} {body : BulkUpdateEventStatusBody}
    (hwrite : StatusesChanged actor body db db') (h : VehiclesInUse now db)
    (hcareful : ∀ ids, StatusChangePasses actor body db ids → ∀ e ∈ db.instructorEvents.rows,
      e.id ∈ ids → e.Replanned now body.status → e.type = .drive →
        ∃ v, e.vehicleId = some v ∧ VehicleActive db v) :
    VehiclesInUse now db' := by
  cases hwrite with
  | refreshed p => exact h.refreshed p
  | changed ids passes =>
    refine h.withEvents fun e he => ?_
    rcases mem_setEventStatuses he with hold | ⟨q, hq, hid, rfl⟩
    · exact Or.inl hold
    · refine Or.inr fun hpending hdrive => ?_
      rcases InstructorEvent.pending_cases hpending with hbefore | hreplanned
      · exact h.drives q hq hbefore hdrive
      · exact hcareful ids passes q hq hid hreplanned hdrive

theorem vehicleActive_deleteVehicle (db : Db) {vehicleId v : Uuid} (h : VehicleActive db v)
    (hother : v ≠ vehicleId) : VehicleActive (db.deleteVehicle vehicleId) v := by
  obtain ⟨w, hw, rfl, hactive⟩ := h
  refine ⟨w, (Table.mem_updateMany _ _ _ Vehicle.id_deleted _).mpr ⟨w, hw, ?_⟩, rfl, hactive⟩
  rw [if_neg]
  simpa using hother

theorem vehicleActive_withoutVehicle {vehicleId : UuidText} {schoolId v : Uuid}
    {school : DrivingSchool} (h : VehicleActive db v) (hother : v ≠ vehicleId.uuid) :
    VehicleActive (db.withoutVehicle vehicleId schoolId school) v := by
  unfold Db.withoutVehicle
  split
  · exact vehicleActive_deleteVehicle (db.clearDefaultVehicle schoolId) h hother
  · exact vehicleActive_deleteVehicle db h hother

theorem VehicleUnused.vehiclesInUse {vehicleId : UuidText} {schoolId : Uuid}
    {school : DrivingSchool} (hunused : VehicleUnused now db vehicleId.uuid)
    (h : VehiclesInUse now db) :
    VehiclesInUse now (db.withoutVehicle vehicleId schoolId school) := by
  obtain ⟨hlessons, hdrives⟩ := vehicleUnused_iff.mp hunused
  have hsame : (db.withoutVehicle vehicleId schoolId school).lessons = db.lessons ∧
      (db.withoutVehicle vehicleId schoolId school).instructorEvents = db.instructorEvents := by
    unfold Db.withoutVehicle
    split <;> exact ⟨rfl, rfl⟩
  refine ⟨fun l hl hpending v hv => ?_, fun e he hpending hdrive => ?_⟩
  · rw [hsame.1] at hl
    refine vehicleActive_withoutVehicle (h.lessons l hl hpending v hv) ?_
    rintro rfl
    exact hlessons l hl hpending hv
  · rw [hsame.2] at he
    obtain ⟨v, hv, hactive⟩ := h.drives e he hpending hdrive
    refine ⟨v, hv, vehicleActive_withoutVehicle hactive ?_⟩
    rintro rfl
    exact hdrives e he hpending hdrive hv

end Writes

/-! ### Runs -/

/-- The operations that give a vehicle work or delete one, with their arguments. -/
inductive VehicleUseCall where
  | deleteVehicleForUser (userId : Uuid) (vehicleId : UuidText)
  | bookLesson (actor : Actor) (body : BookLessonBody)
  | bookOwnLesson (actor : Actor) (body : BookOwnLessonBody)
  | updateLesson (actor : Actor) (lessonId : Uuid) (body : UpdateLessonBody)
  | createInstructorEvent (actor : Actor) (body : CreateInstructorEventBody)
  | updateInstructorEvent (actor : Actor) (eventId : Uuid) (body : PatchInstructorEventBody)
  | bulkUpdateEventStatus (actor : Actor) (body : BulkUpdateEventStatusBody)

namespace VehicleUseCall

/-- The state a call leaves, whether it succeeds or fails. -/
def run (env : Env) (db : Db) : VehicleUseCall → Db
  | .deleteVehicleForUser userId vehicleId => (OSK.deleteVehicleForUser env userId vehicleId db).2
  | .bookLesson actor body => (OSK.bookLesson env actor body db).2
  | .bookOwnLesson actor body => (OSK.bookOwnLesson env actor body db).2
  | .updateLesson actor lessonId body => (OSK.updateLesson env actor lessonId body db).2
  | .createInstructorEvent actor body => (OSK.createInstructorEvent env actor body db).2
  | .updateInstructorEvent actor eventId body =>
    (OSK.updateInstructorEvent env actor eventId body db).2
  | .bulkUpdateEventStatus actor body => (OSK.bulkUpdateEventStatus actor body db).2

/-- A call whose checks pass deletes no vehicle with pending work by an id that is spelled otherwise
than the stored one, and plans no drive again whose vehicle has been deleted. -/
def Careful (env : Env) (db : Db) : VehicleUseCall → Prop
  | .deleteVehicleForUser userId vehicleId => ∀ vehicle school,
    DeleteVehicleRules env userId vehicleId db vehicle school → ¬vehicleId.Stored →
      VehicleUnused env.now db vehicleId.uuid
  | .bulkUpdateEventStatus actor body => ∀ ids, StatusChangePasses actor body db ids →
    ∀ e ∈ db.instructorEvents.rows, e.id ∈ ids → e.Replanned env.now body.status →
      e.type = .drive → ∃ v, e.vehicleId = some v ∧ VehicleActive db v
  | _ => True

/-- Calls with the clocks they run at, where `allowed` may refuse some. -/
def timeline (allowed : Env → Db → VehicleUseCall → Prop) :
    Timeline (Env × VehicleUseCall) Instant Db where
  time k := k.1.now
  allowed k db := allowed k.1 db k.2
  act k db := k.2.run k.1 db

theorem run_vehiclesInUse {env : Env} {db : Db} {call : VehicleUseCall}
    (hcareful : call.Careful env db) (h : VehiclesInUse env.now db) :
    VehiclesInUse env.now (call.run env db) := by
  cases call with
  | deleteVehicleForUser userId vehicleId =>
    show VehiclesInUse env.now (OSK.deleteVehicleForUser env userId vehicleId db).2
    rcases deleteVehicleForUser_store env userId vehicleId db with hs | ⟨_, _, rules, hs⟩
    · rw [hs]
      exact h
    · rw [hs]
      by_cases hstored : vehicleId.Stored
      · exact (rules.unused hstored).vehiclesInUse h
      · exact (hcareful _ _ rules hstored).vehiclesInUse h
  | bookLesson actor body => exact (bookLesson_written actor body).vehiclesInUse h
  | bookOwnLesson actor body => exact (bookOwnLesson_written actor body).vehiclesInUse h
  | updateLesson actor lessonId body =>
    exact (updateLesson_written actor lessonId body).vehiclesInUse h
  | createInstructorEvent actor body =>
    exact (createInstructorEvent_written actor body).vehiclesInUse h
  | updateInstructorEvent actor eventId body =>
    exact (updateInstructorEvent_written actor eventId body).vehiclesInUse h
  | bulkUpdateEventStatus actor body =>
    exact (bulkUpdateEventStatus_written actor body).vehiclesInUse h hcareful

end VehicleUseCall

namespace ReplannedDrive

open SmallSchool

/-- The school with more vehicles, and one event. -/
def withEvent (event : InstructorEvent) : Clocked Instant Db where
  now := clock 4 7 0
  store := { SmallSchool.db .empty ⟨[event], List.nodup_singleton _⟩ with
    drivingSchools := ⟨[{ id := 10, ownerId := 1, defaultVehicleId := some 42 }], by decide⟩
    vehicles := ⟨[40, 41, 42, 43].map fun id =>
      { id, schoolId := 10, supportedCourseTypes := [7] }, by decide⟩ }

/-- The drive of Tuesday at ten has been cancelled. -/
def start : Clocked Instant Db := withEvent (tuesdayEvent.withStatus .cancelled)

theorem start_vehiclesInUse : VehiclesInUse start.now start.store := by
  refine ⟨fun _ hl => absurd hl List.not_mem_nil, fun e he hpending => ?_⟩
  rw [List.mem_singleton.mp he] at hpending
  cases hpending

/-- The drive is planned, with a vehicle whose id has a letter. -/
def planned : Clocked Instant Db := withEvent { tuesdayEvent with vehicleId := some 43 }

theorem planned_vehiclesInUse : VehiclesInUse planned.now planned.store := by
  refine ⟨fun _ hl => absurd hl List.not_mem_nil, fun e he _ _ => ?_⟩
  rw [List.mem_singleton.mp he]
  exact ⟨43, rfl, { id := 43, schoolId := 10, supportedCourseTypes := [7] },
    Table.mem_of_findUnique (k := 43) rfl, rfl, rfl⟩

def after (hour : ℤ) (call : VehicleUseCall) (c : Clocked Instant Db) : Clocked Instant Db :=
  ⟨clock 4 hour 0, call.run (envAt (clock 4 hour 0)) c.store⟩

theorem after_step {allowed : Env → Db → VehicleUseCall → Prop} {hour : ℤ} {call : VehicleUseCall}
    {c : Clocked Instant Db} (hc : c.now ≤ clock 4 hour 0)
    (hallowed : allowed (envAt (clock 4 hour 0)) c.store call) :
    (VehicleUseCall.timeline allowed).Step c (after hour call c) :=
  ⟨(envAt (clock 4 hour 0), call), hc, hallowed, rfl⟩

def deletion (vehicleId : UuidText) : VehicleUseCall := .deleteVehicleForUser 1 vehicleId

/-- The vehicle of the planned drive, with a capital letter. -/
def respelled : VehicleUseCall := deletion { uuid := 43, capitals := {0} }

def replanning : VehicleUseCall :=
  .bulkUpdateEventStatus manager { status := .planned, eventIds := [60] }

end ReplannedDrive

open ReplannedDrive in
/-- The vehicle of a cancelled drive is deleted, and the drive is planned again. In a run of
deletions alone, the vehicle of a planned drive is deleted by its id in capital letters. -/
theorem run_not_vehiclesInUse :
    (¬∀ c c' : Clocked Instant Db, VehiclesInUse c.now c.store →
      (VehicleUseCall.timeline fun _ _ _ => True).Run c c' → VehiclesInUse c'.now c'.store) ∧
    ¬∀ c c' : Clocked Instant Db, VehiclesInUse c.now c.store →
      (VehicleUseCall.timeline fun _ _ call => ∃ userId vehicleId,
        call = .deleteVehicleForUser userId vehicleId).Run c c' →
          VehiclesInUse c'.now c'.store := by
  refine ⟨fun h => ?_, fun h => ?_⟩
  · have hrun : (VehicleUseCall.timeline fun _ _ _ => True).Run start
        (after 9 replanning (after 8 (deletion 40) start)) :=
      (Relation.ReflTransGen.single (after_step (by decide) trivial)).tail
        (after_step (by decide) trivial)
    obtain ⟨v, hv, w, hw, hid, hactive⟩ := (h _ _ start_vehiclesInUse hrun).drives
      SmallSchool.tuesdayEvent (Table.mem_of_findUnique (k := 60) rfl) (by decide) rfl
    cases hv
    have hdeleted : ∀ w ∈ (after 9 replanning (after 8 (deletion 40) start)).store.vehicles.rows,
        w.id = 40 → w.isActive = false := by
      decide +kernel
    exact absurd (hdeleted w hw hid) (by rw [hactive]; decide)
  · have hrun : (VehicleUseCall.timeline fun _ _ call => ∃ userId vehicleId,
        call = .deleteVehicleForUser userId vehicleId).Run planned (after 8 respelled planned) :=
      Relation.ReflTransGen.single (after_step (by decide) ⟨1, _, rfl⟩)
    obtain ⟨v, hv, w, hw, hid, hactive⟩ := (h _ _ planned_vehiclesInUse hrun).drives
      { SmallSchool.tuesdayEvent with vehicleId := some 43 }
      (Table.mem_of_findUnique (k := 60) rfl) (by decide) rfl
    cases hv
    have hdeleted : ∀ w ∈ (after 8 respelled planned).store.vehicles.rows,
        w.id = 43 → w.isActive = false := by
      decide +kernel
    exact absurd (hdeleted w hw hid) (by rw [hactive]; decide)

/-- After any run of careful calls, and while nothing happens, pending lessons and drives use active
vehicles. -/
theorem careful_run_vehiclesInUse {c c' : Clocked Instant Db} (h : VehiclesInUse c.now c.store)
    (hrun : (VehicleUseCall.timeline fun env db call => call.Careful env db).Run c c')
    {t : Instant} (ht : c'.now ≤ t) : VehiclesInUse t c'.store :=
  hrun.invariant_at vehiclesInUse_lasting
    (fun _ _ hcareful hdb => VehicleUseCall.run_vehiclesInUse hcareful hdb) h ht

open ReplannedDrive in
/-- The other vehicle is deleted, and the drive is planned again. -/
theorem careful_run_vehiclesInUse_other :
    VehiclesInUse (SmallSchool.clock 5 9 0)
        (after 9 replanning (after 8 (deletion 41) start)).store ∧
      (after 9 replanning (after 8 (deletion 41) start)).store.vehicles.rows.map Vehicle.isActive =
        [true, false, true, true] ∧
      (after 9 replanning (after 8 (deletion 41) start)).store.instructorEvents.rows.map
        InstructorEvent.status = [.planned] := by
  refine ⟨?_, by decide +kernel, by decide +kernel⟩
  have hdeletion : (deletion 41).Careful (SmallSchool.envAt (SmallSchool.clock 4 8 0))
      start.store := fun _ _ _ hrespelled => absurd rfl hrespelled
  have hreplanning : replanning.Careful (SmallSchool.envAt (SmallSchool.clock 4 9 0))
      (after 8 (deletion 41) start).store := by
    intro _ _ e he _ _ _
    have hevent : ∀ e ∈ (after 8 (deletion 41) start).store.instructorEvents.rows,
        e.vehicleId = some 40 := by
      decide +kernel
    exact ⟨40, hevent e he, { id := 40, schoolId := 10, supportedCourseTypes := [7] },
      Table.mem_of_findUnique (k := 40) rfl, rfl, rfl⟩
  exact careful_run_vehiclesInUse start_vehiclesInUse
    ((Relation.ReflTransGen.single (after_step (by decide) hdeletion)).tail
      (after_step (by decide) hreplanning)) (by decide)

end OSK
