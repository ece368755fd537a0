import Mathlib.Data.Fin.VecNotation
import OskManager.Lib.TwoPhase
import OskManager.Model.DrivingSchools
import OskManager.Sample.SmallSchool
import OskManager.Schedule.VehicleWrites

/-! The default vehicle of a school. It is an active vehicle of the school as long as there is one,
however the transactions of adding, editing, deleting and choosing a vehicle follow each other, up
to the first deletion of the default by an id that is not spelled as the stored one. -/

namespace OSK

open Relational Interleaving

universe u

variable {env : Env} {db db' : Db} {schoolId : Uuid}

/-- The default is an active vehicle of the school, and is there when the school has one. -/
structure DrivingSchool.DefaultSound (vehicles : Table Vehicle.id) (s : DrivingSchool) : Prop where
  active : ∀ id, s.defaultVehicleId = some id →
    ∃ v ∈ vehicles.rows, v.id = id ∧ v.schoolId = s.id ∧ v.isActive = true
  none_iff : s.defaultVehicleId = none ↔
    ∀ v ∈ vehicles.rows, v.schoolId = s.id → v.isActive = false

def DefaultVehicleSound (schoolId : Uuid) (db : Db) : Prop :=
  ∀ s, db.drivingSchools.findUnique schoolId = some s → s.DefaultSound db.vehicles

/-- The school has no vehicles and no default. -/
def WithoutVehicles (schoolId : Uuid) (db : Db) : Prop :=
  (∀ s, db.drivingSchools.findUnique schoolId = some s → s.defaultVehicleId = none) ∧
    ∀ v ∈ db.vehicles.rows, v.schoolId ≠ schoolId

theorem WithoutVehicles.sound (h : WithoutVehicles schoolId db) :
    DefaultVehicleSound schoolId db := by
  intro s hs
  have hnone := h.1 s hs
  refine ⟨fun id hid => ?_, iff_of_true hnone fun v hv hschool => ?_⟩
  · rw [hnone] at hid
    cases hid
  · rw [Table.key_of_findUnique hs] at hschool
    exact absurd hschool (h.2 v hv)

/-! ### Editing -/

/-- A vehicle changes, but neither its school nor whether it is active. -/
theorem DefaultVehicleSound.updateVehicle (h : DefaultVehicleSound schoolId db) (vehicleId : Uuid)
    {f : Vehicle → Vehicle} (hid : ∀ v, (f v).id = v.id) (hschool : ∀ v, (f v).schoolId = v.schoolId)
    (hactive : ∀ v, (f v).isActive = v.isActive) :
    DefaultVehicleSound schoolId { db with vehicles := db.vehicles.update vehicleId f hid } := by
  intro s hs
  obtain ⟨hdefault, hnone⟩ := h s hs
  refine ⟨fun id hsome => ?_, hnone.trans ⟨fun hall v hv hmine => ?_, fun hall v hv hmine => ?_⟩⟩
  · obtain ⟨v, hv, rfl, hmine, hv_active⟩ := hdefault id hsome
    refine ⟨_, (Table.mem_updateMany _ _ _ hid _).mpr ⟨v, hv, rfl⟩, ?_⟩
    split
    · exact ⟨hid v, (hschool v).trans hmine, (hactive v).trans hv_active⟩
    · exact ⟨rfl, hmine, hv_active⟩
  · rcases Table.mem_updateMany_cases hid hv with ⟨hold, _⟩ | ⟨w, hw, _, rfl⟩
    · exact hall v hold hmine
    · exact (hactive w).trans (hall w hw ((hschool w).symm.trans hmine))
  · have hnew := hall _ ((Table.mem_updateMany _ _ _ hid _).mpr ⟨v, hv, rfl⟩)
    split at hnew
    · rw [hschool, hactive] at hnew
      exact hnew hmine
    · exact hnew hmine

/-! ### Adding -/

theorem count_active_eq_zero : db.vehicles.count (fun v =>
    decide (v.schoolId = schoolId ∧ v.isActive = true)) = 0 ↔
      ∀ v ∈ db.vehicles.rows, v.schoolId = schoolId → v.isActive = false := by
  simp only [Table.count, List.length_eq_zero_iff, Table.findMany, List.filter_eq_nil_iff,
    decide_eq_true_eq, not_and, Bool.not_eq_true]

/-- A further vehicle, of another school or of a school that has its default. -/
theorem DrivingSchool.DefaultSound.insertVehicle {s : DrivingSchool} (h : s.DefaultSound db.vehicles)
    (newSchoolId : Uuid) (payload : VehicleWritePayload OptionalVehicleFields)
    (hother : newSchoolId = s.id → s.defaultVehicleId ≠ none) :
    s.DefaultSound (db.insertVehicle env newSchoolId payload).vehicles := by
  refine ⟨fun id hsome => ?_, fun hnone v hv hmine => ?_, fun hall => h.none_iff.mpr ?_⟩
  · obtain ⟨v, hv, hrest⟩ := h.active id hsome
    exact ⟨v, mem_insertVehicle.mpr (Or.inl hv), hrest⟩
  · rcases mem_insertVehicle.mp hv with hold | rfl
    · exact h.none_iff.mp hnone v hold hmine
    · exact absurd hnone (hother hmine)
  · exact fun v hv => hall v (mem_insertVehicle.mpr (Or.inl hv))

theorem findUnique_setDefaultVehicle (newSchoolId vehicleId id : Uuid) :
    (db.setDefaultVehicle newSchoolId vehicleId).drivingSchools.findUnique id =
      if id = newSchoolId then
        (db.drivingSchools.findUnique id).map (DrivingSchool.withDefaultVehicle vehicleId)
      else db.drivingSchools.findUnique id :=
  Table.findUnique_update _ _ _ (DrivingSchool.id_withDefaultVehicle vehicleId) _

/-- An active vehicle of the school becomes its default. -/
theorem DrivingSchool.defaultSound_withDefaultVehicle {s : DrivingSchool} {v : Vehicle}
    (hv : v ∈ db.vehicles.rows) (hmine : v.schoolId = s.id) (hactive : v.isActive = true) :
    (s.withDefaultVehicle v.id).DefaultSound db.vehicles := by
  refine ⟨fun id hsome => ?_, iff_of_false nofun fun hall => ?_⟩
  · obtain rfl : v.id = id := Option.some_inj.mp hsome
    exact ⟨v, hv, rfl, hmine, hactive⟩
  · rw [hall v hv hmine] at hactive
    cases hactive

/-- The default is chosen for a school whose other vehicles do not matter. -/
theorem DefaultVehicleSound.setDefaultVehicle {newSchoolId : Uuid} {v : Vehicle}
    (hv : v ∈ db.vehicles.rows) (hmine : v.schoolId = newSchoolId) (hactive : v.isActive = true)
    (h : newSchoolId ≠ schoolId → DefaultVehicleSound schoolId db) :
    DefaultVehicleSound schoolId (db.setDefaultVehicle newSchoolId v.id) := by
  intro s hs
  rw [findUnique_setDefaultVehicle] at hs
  split at hs
  · next hid =>
    obtain ⟨s, hfound, rfl⟩ := Option.map_eq_some_iff.mp hs
    have hkey := (Table.key_of_findUnique hfound).trans hid
    exact s.defaultSound_withDefaultVehicle hv (hmine.trans hkey.symm) hactive
  · next hid => exact h (Ne.symm hid) s hs

theorem writeNewVehicle_sound (newSchoolId : Uuid)
    (payload : VehicleWritePayload OptionalVehicleFields) (h : DefaultVehicleSound schoolId db) :
    DefaultVehicleSound schoolId (writeNewVehicle env newSchoolId payload db).2 := by
  rcases Prog.transaction_cases (writeNewVehicle env newSchoolId payload) rfl db with ⟨r, hok⟩ | hs
  · rcases writeNewVehicle_ok hok with ⟨_, hdb⟩ | ⟨hothers, hdb⟩
    · rw [hdb]
      apply DefaultVehicleSound.setDefaultVehicle (mem_insertVehicle.mpr (Or.inr rfl)) rfl rfl
      intro hother s hs
      refine (h s hs).insertVehicle newSchoolId payload fun hmine => ?_
      exact absurd (hmine.trans (Table.key_of_findUnique hs)) hother
    · rw [hdb]
      intro s hs
      refine (h s hs).insertVehicle newSchoolId payload fun hmine hnone => hothers ?_
      rw [count_active_eq_zero, hmine]
      exact (h s hs).none_iff.mp hnone
  · rw [hs]
    exact h

/-! ### Deleting -/

theorem mem_deleteVehicle_cases {vehicleId : Uuid} {v : Vehicle}
    (hv : v ∈ (db.deleteVehicle vehicleId).vehicles.rows) :
    (v ∈ db.vehicles.rows ∧ v.id ≠ vehicleId) ∨ v.isActive = false := by
  rcases Table.mem_updateMany_cases Vehicle.id_deleted hv with ⟨hold, hid⟩ | ⟨w, _, _, rfl⟩
  · exact Or.inl ⟨hold, of_decide_eq_false hid⟩
  · exact Or.inr rfl

theorem mem_deleteVehicle_of_ne {vehicleId : Uuid} {v : Vehicle} (hv : v ∈ db.vehicles.rows)
    (hne : v.id ≠ vehicleId) : v ∈ (db.deleteVehicle vehicleId).vehicles.rows := by
  refine (Table.mem_updateMany _ _ _ Vehicle.id_deleted _).mpr ⟨v, hv, ?_⟩
  rw [if_neg]
  simpa using hne

/-- A vehicle that is not the default of the school is deleted. -/
theorem DrivingSchool.DefaultSound.deleteVehicle {s : DrivingSchool} {vehicle : Vehicle}
    (h : s.DefaultSound db.vehicles) (hv : vehicle ∈ db.vehicles.rows)
    (hother : vehicle.schoolId = s.id → vehicle.isActive = true ∧
      s.defaultVehicleId ≠ some vehicle.id) :
    s.DefaultSound (db.deleteVehicle vehicle.id).vehicles := by
  refine ⟨fun id hsome => ?_, fun hnone v hmem hmine => ?_, fun hall => h.none_iff.mpr ?_⟩
  · obtain ⟨v, hmem, rfl, hmine, hactive⟩ := h.active id hsome
    refine ⟨v, mem_deleteVehicle_of_ne hmem fun hid => ?_, rfl, hmine, hactive⟩
    obtain rfl := db.vehicles.key_inj hmem hv hid
    exact (hother hmine).2 hsome
  · rcases mem_deleteVehicle_cases hmem with ⟨hold, _⟩ | hinactive
    · exact h.none_iff.mp hnone v hold hmine
    · exact hinactive
  · intro v hmem hmine
    by_cases hid : v.id = vehicle.id
    · obtain rfl := db.vehicles.key_inj hmem hv hid
      by_contra hactive
      cases hdefault : s.defaultVehicleId with
      | none => exact hactive (h.none_iff.mp hdefault v hmem hmine)
      | some id =>
        obtain ⟨w, hw, rfl, hw_mine, hw_active⟩ := h.active id hdefault
        have hne : w.id ≠ v.id := fun hid => (hother hmine).2 (hid ▸ hdefault)
        rw [hall w (mem_deleteVehicle_of_ne hw hne) hw_mine] at hw_active
        cases hw_active
    · exact hall v (mem_deleteVehicle_of_ne hmem hid) hmine

/-- The last active vehicle is deleted, and the school has no default any more. -/
theorem DeleteVehicleRules.last {userId : Uuid} {vehicleId : UuidText} {vehicle : Vehicle}
    {school : DrivingSchool} (rules : DeleteVehicleRules env userId vehicleId db vehicle school)
    (hdefault : school.defaultVehicleId.map .ofUuid = some vehicleId) :
    ∀ v ∈ (db.deleteVehicle vehicleId.uuid).vehicles.rows, v.schoolId = vehicle.schoolId →
      v.isActive = false := by
  have hallowed := rules.allowed
  simp only [assertVehicleCanBeDeleted, except_bind_eq_ok, onlyIf_eq_ok, throwIf_eq_ok, gt_iff_lt,
    Nat.not_lt, Nat.le_zero_eq, Table.count, List.length_eq_zero_iff, Table.findMany,
    List.filter_eq_nil_iff, decide_eq_true_eq, not_and, not_not] at hallowed
  obtain ⟨_, hlast, _⟩ := hallowed
  intro v hv hmine
  rcases mem_deleteVehicle_cases hv with ⟨hold, hne⟩ | hinactive
  · by_contra hactive
    exact hne (hlast hdefault v hold hmine (Bool.not_eq_false _ ▸ hactive))
  · exact hinactive

/-- A deletion of the default of the school, once its rules pass, spells the id as it is stored. -/
def SpellsDefault (env : Env) (schoolId userId : Uuid) (vehicleId : UuidText) (db : Db) : Prop :=
  ∀ vehicle school, DeleteVehicleRules env userId vehicleId db vehicle school →
    vehicle.schoolId = schoolId → school.defaultVehicleId = some vehicleId.uuid → vehicleId.Stored

theorem DeleteVehicleRules.school_found {userId : Uuid} {vehicleId : UuidText} {vehicle : Vehicle}
    {school : DrivingSchool} (rules : DeleteVehicleRules env userId vehicleId db vehicle school) :
    db.drivingSchools.findUnique vehicle.schoolId = some school :=
  (Option.filter_eq_some_iff.mp rules.owned).1

/-- The last vehicle is deleted together with the default. -/
theorem DeleteVehicleRules.sound_cleared {userId : Uuid} {vehicleId : UuidText} {vehicle : Vehicle}
    {school : DrivingSchool} (rules : DeleteVehicleRules env userId vehicleId db vehicle school)
    (hdefault : school.defaultVehicleId.map .ofUuid = some vehicleId)
    (h : DefaultVehicleSound schoolId db) : DefaultVehicleSound schoolId
      ((db.clearDefaultVehicle vehicle.schoolId).deleteVehicle vehicleId.uuid) := by
  intro s hfound
  have hfound : (db.clearDefaultVehicle vehicle.schoolId).drivingSchools.findUnique schoolId =
    some s := hfound
  rw [Db.clearDefaultVehicle, Table.findUnique_update] at hfound
  split at hfound
  · next hid =>
    obtain ⟨s, hs', rfl⟩ := Option.map_eq_some_iff.mp hfound
    have hkey := (Table.key_of_findUnique hs').trans hid
    refine ⟨(fun v hv => by cases hv), iff_of_true rfl fun v hv hmine => ?_⟩
    exact rules.last hdefault v hv (hmine.trans hkey)
  · next hid =>
    rw [← Table.key_of_findUnique rules.found]
    refine (h s hfound).deleteVehicle (Table.mem_of_findUnique rules.found) fun hmine => ?_
    exact absurd ((Table.key_of_findUnique hfound).symm.trans hmine.symm) hid

/-- The default stays, and it is not the vehicle that is deleted. -/
theorem DeleteVehicleRules.sound_kept {userId : Uuid} {vehicleId : UuidText} {vehicle : Vehicle}
    {school : DrivingSchool} (rules : DeleteVehicleRules env userId vehicleId db vehicle school)
    (hother : vehicle.schoolId = schoolId → school.defaultVehicleId ≠ some vehicleId.uuid)
    (h : DefaultVehicleSound schoolId db) :
    DefaultVehicleSound schoolId (db.deleteVehicle vehicleId.uuid) := by
  intro s hfound
  rw [← Table.key_of_findUnique rules.found]
  refine (h s hfound).deleteVehicle (Table.mem_of_findUnique rules.found) fun hmine => ?_
  have hid := hmine.trans (Table.key_of_findUnique hfound)
  have hsame : some school = some s := by
    rw [← rules.school_found, hid]
    exact hfound
  refine ⟨rules.active, ?_⟩
  rw [← Option.some_inj.mp hsame, Table.key_of_findUnique rules.found]
  exact hother hid

/-- A deletion that is not found among the defaults leaves the deleted vehicle as the default. -/
theorem DeleteVehicleRules.not_sound {userId : Uuid} {vehicleId : UuidText} {vehicle : Vehicle}
    {school : DrivingSchool} (rules : DeleteVehicleRules env userId vehicleId db vehicle school)
    (hmine : vehicle.schoolId = schoolId)
    (hdefault : school.defaultVehicleId = some vehicleId.uuid) :
    ¬DefaultVehicleSound schoolId (db.deleteVehicle vehicleId.uuid) := by
  intro h
  obtain ⟨v, hv, hid, _, hactive⟩ := (h school (hmine ▸ rules.school_found)).active _ hdefault
  rcases mem_deleteVehicle_cases hv with ⟨_, hne⟩ | hinactive
  · exact hne hid
  · rw [hinactive] at hactive
    cases hactive

theorem deleteVehicleForUser_sound_iff (env : Env) (userId : Uuid) (vehicleId : UuidText)
    (h : DefaultVehicleSound schoolId db) :
    DefaultVehicleSound schoolId (deleteVehicleForUser env userId vehicleId db).2 ↔
      SpellsDefault env schoolId userId vehicleId db := by
  refine ⟨fun hafter vehicle school rules hmine hdefault => ?_, fun hspells => ?_⟩
  · by_contra hrespelled
    rw [rules.store, Db.withoutVehicle, if_neg] at hafter
    · exact rules.not_sound hmine hdefault hafter
    · exact fun hfound => hrespelled (UuidText.map_ofUuid_eq_some_iff.mp hfound).2
  · rcases deleteVehicleForUser_store env userId vehicleId db with hs | ⟨vehicle, school, rules, hs⟩
    · rw [hs]
      exact h
    · rw [hs, Db.withoutVehicle]
      split
      · next hdefault => exact rules.sound_cleared hdefault h
      · next hdefault =>
        refine rules.sound_kept (fun hmine hsome => hdefault ?_) h
        exact UuidText.map_ofUuid_eq_some_iff.mpr
          ⟨hsome, hspells vehicle school rules hmine hsome⟩

/-! ### Requests -/

/-- The write of a request, in one transaction, with what its reads have handed over. -/
inductive PendingVehicleWrite where
  | create (env : Env) (schoolId : Uuid) (payload : VehicleWritePayload OptionalVehicleFields)
  | patch (env : Env) (vehicleId : Uuid) (payload : VehicleWritePayload OptionalVehiclePatch)
  | setAvailability (vehicleId : Uuid) (payload : VehicleAvailabilityStatusPayload)
  | setPhoto (vehicleId : Uuid) (publicUrl : String)
  | delete (env : Env) (userId : Uuid) (vehicleId : UuidText)
  | setDefault (schoolId : UuidText) (vehicleId : Uuid)

def PendingVehicleWrite.run : PendingVehicleWrite → Service Unit
  | .create env schoolId payload => Prog.discard (writeNewVehicle env schoolId payload)
  | .patch env vehicleId payload => Prog.discard (writeVehiclePatch env vehicleId payload)
  | .setAvailability vehicleId payload =>
    Prog.write fun db => db.setVehicleAvailability vehicleId payload
  | .setPhoto vehicleId publicUrl => Prog.write fun db => db.setVehiclePhoto vehicleId publicUrl
  | .delete env userId vehicleId => Prog.discard (deleteVehicleForUser env userId vehicleId)
  | .setDefault schoolId vehicleId => Prog.discard (writeDefaultVehicle schoolId vehicleId)

/-- A call of one of the services, with its arguments. -/
inductive VehicleRequest where
  | upsert (env : Env) (userId : Uuid) (body : UpsertVehicleBody)
  | update (env : Env) (userId vehicleId : Uuid) (body : ParsedVehicleBody OptionalVehiclePatch)
  | updateStatus (userId vehicleId : Uuid) (payload : VehicleAvailabilityStatusPayload)
  | uploadPhoto (file : Except Failure Unit) (upload : Except Failure String)
      (userId vehicleId : Uuid)
  | delete (env : Env) (userId : Uuid) (vehicleId : UuidText)
  | setDefault (userId : Uuid) (schoolId : UuidText) (vehicleId : Uuid)

namespace VehicleRequest

def call : VehicleRequest → Service Unit
  | .upsert env userId body => Prog.discard (upsertVehicleForUser env userId body)
  | .update env userId vehicleId body =>
    Prog.discard (updateVehicleForUser env userId vehicleId body)
  | .updateStatus userId vehicleId payload =>
    Prog.discard (updateVehicleStatusForUser userId vehicleId payload)
  | .uploadPhoto file upload userId vehicleId =>
    Prog.discard (uploadVehiclePhotoForUser file upload userId vehicleId)
  | .delete env userId vehicleId => Prog.discard (deleteVehicleForUser env userId vehicleId)
  | .setDefault userId schoolId vehicleId =>
    Prog.discard (setDefaultVehicleForDrivingSchoolOwner userId schoolId vehicleId)

/-- What a call reads before its transaction. -/
def read : VehicleRequest → Db → Except Failure PendingVehicleWrite
  | .upsert env userId body => fun db =>
    match body.id with
    | .invalid => throw (.badRequest "Invalid vehicle id")
    | .missing => do
      let payload ← parseVehicleWriteBodyOrThrow body.create
      let schoolId ← schoolIdOrThrow body.schoolId
      throwIf ((getSchoolOwnedByUser db userId schoolId).isNone = true) (.forbidden "Forbidden")
      assertVehicleRegistrationUnique db schoolId payload.registrationNumber
      return .create env schoolId payload
    | .id vehicleId => do
      let payload ← parseVehicleWriteBodyOrThrow body.patch
      let existing ← loadActiveVehicleForOwnerOrThrow db userId vehicleId
      assertVehicleRegistrationUnique db existing.schoolId payload.registrationNumber
        (some vehicleId)
      return .patch env vehicleId payload
  | .update env userId vehicleId body => fun db => do
    let vehicle ← loadActiveVehicleForOwnerOrThrow db userId vehicleId
    let payload ← parseVehicleWriteBodyOrThrow body
    assertVehicleRegistrationUnique db vehicle.schoolId payload.registrationNumber (some vehicleId)
    return .patch env vehicleId payload
  | .updateStatus userId vehicleId payload => fun db => do
    let _ ← loadActiveVehicleForOwnerOrThrow db userId vehicleId
    return .setAvailability vehicleId payload
  | .uploadPhoto file upload userId vehicleId => fun db => do
    file
    let row ← orThrow (db.vehicles.findUnique vehicleId) (.notFound "Vehicle not found")
    throwIf ((getSchoolOwnedByUser db userId row.schoolId).isNone = true) (.forbidden "Forbidden")
    let publicUrl ← upload
    return .setPhoto vehicleId publicUrl
  | .delete env userId vehicleId => fun _ => return .delete env userId vehicleId
  | .setDefault userId schoolId vehicleId => fun db => do
    let _ ← loadOwnedActiveDrivingSchoolOrThrow db userId schoolId.uuid
    return .setDefault schoolId vehicleId

def twoPhase (request : VehicleRequest) : TwoPhase Failure Db PendingVehicleWrite Unit where
  read := Prog.query request.read
  write := PendingVehicleWrite.run

/-- Only the request to delete a vehicle hands over its deletion. -/
theorem read_delete {request : VehicleRequest} {userId : Uuid} {vehicleId : UuidText}
    (h : request.read db = .ok (.delete env userId vehicleId)) :
    request = .delete env userId vehicleId := by
  cases request with
  | delete env userId vehicleId =>
    cases h
    rfl
  | upsert env userId body =>
    cases hid : body.id with
    | missing =>
      simp only [read, hid, except_bind_eq_ok] at h
      obtain ⟨_, _, _, _, _, _, _, _, h⟩ := h
      cases h
    | invalid =>
      simp only [read, hid] at h
      cases h
    | id vehicleId =>
      simp only [read, hid, except_bind_eq_ok] at h
      obtain ⟨_, _, _, _, _, _, h⟩ := h
      cases h
  | update env userId vehicleId body =>
    simp only [read, except_bind_eq_ok] at h
    obtain ⟨_, _, _, _, _, _, h⟩ := h
    cases h
  | updateStatus userId vehicleId payload =>
    simp only [read, except_bind_eq_ok] at h
    obtain ⟨_, _, h⟩ := h
    cases h
  | uploadPhoto file upload userId vehicleId =>
    simp only [read, except_bind_eq_ok] at h
    obtain ⟨_, _, _, _, _, _, _, _, h⟩ := h
    cases h
  | setDefault userId schoolId vehicleId =>
    simp only [read, except_bind_eq_ok] at h
    obtain ⟨_, _, h⟩ := h
    cases h

/-- Without interruption the two phases are the call. -/
theorem whole_eq_call (request : VehicleRequest) : request.twoPhase.whole = request.call := by
  rw [TwoPhase.whole, twoPhase]
  cases request with
  | upsert env userId body =>
    simp only [read, call, upsertVehicleForUser]
    rcases body.id with _ | _ | vehicleId
    · rw [Prog.discard_map]
      simp only [createVehicleForUser, Prog.query_except_bind, Prog.bind_assoc, Prog.discard_bind]
      rfl
    · rfl
    · rw [Prog.discard_map]
      simp only [patchVehicleForUser, Prog.query_except_bind, Prog.bind_assoc, Prog.discard_bind]
      rfl
  | update env userId vehicleId body =>
    simp only [read, call, updateVehicleForUser, Prog.query_except_bind, Prog.bind_assoc,
      Prog.discard_bind]
    rfl
  | updateStatus userId vehicleId payload =>
    simp only [read, call, updateVehicleStatusForUser, Prog.query_except_bind, Prog.bind_assoc,
      Prog.discard_bind]
    rfl
  | uploadPhoto file upload userId vehicleId =>
    simp only [read, call, uploadVehiclePhotoForUser, Prog.query_except_bind, Prog.bind_assoc,
      Prog.discard_bind]
    rfl
  | delete env userId vehicleId => rfl
  | setDefault userId schoolId vehicleId =>
    simp only [read, call, setDefaultVehicleForDrivingSchoolOwner, Prog.query_except_bind,
      Prog.bind_assoc, Prog.discard_bind]
    rfl

end VehicleRequest

/-! ### Runs -/

theorem writeVehiclePatch_ok {vehicleId : Uuid} {payload : VehicleWritePayload OptionalVehiclePatch}
    {r : VehicleResponse} (h : writeVehiclePatch env vehicleId payload db = (.ok r, db')) :
    db' = db.patchVehicle vehicleId payload := by
  simp only [writeVehiclePatch, Prog.transaction_eq_ok, Prog.query_bind_eq_ok] at h
  obtain ⟨_, _, _, _, h⟩ := h
  simp only [Prog.bind_eq_ok, Prog.write_eq_ok, Prog.query_eq_ok] at h
  obtain ⟨_, _, rfl, _, rfl⟩ := h
  rfl

theorem writeDefaultVehicle_ok {newSchoolId : UuidText} {vehicleId r : Uuid}
    (h : writeDefaultVehicle newSchoolId vehicleId db = (.ok r, db')) :
    ∃ v ∈ db.vehicles.rows, v.id = vehicleId ∧ v.isActive = true ∧
      v.schoolId = newSchoolId.uuid ∧ db' = db.setDefaultVehicle newSchoolId.uuid vehicleId := by
  simp only [writeDefaultVehicle, Prog.transaction_eq_ok, Prog.query_bind_eq_ok,
    except_bind_eq_ok, orThrow_eq_ok, throwIf_eq_ok, Bool.not_eq_false, not_not] at h
  obtain ⟨_, ⟨v, hfound, _, hactive, hmine⟩, h⟩ := h
  simp only [Prog.bind_eq_ok, Prog.write_eq_ok, Prog.pure_eq_ok] at h
  obtain ⟨_, _, rfl, _, rfl⟩ := h
  exact ⟨v, Table.mem_of_findUnique hfound, Table.key_of_findUnique hfound, hactive,
    congrArg UuidText.uuid hmine, rfl⟩

/-- A deletion of the default spells its id as it is stored. -/
def PendingVehicleWrite.SpellsDefault (schoolId : Uuid) (db : Db) : PendingVehicleWrite → Prop
  | .delete env userId vehicleId => OSK.SpellsDefault env schoolId userId vehicleId db
  | _ => True

/-- A write keeps the default sound exactly when it does so, whatever its request has read. -/
theorem PendingVehicleWrite.run_sound_iff (w : PendingVehicleWrite)
    (h : DefaultVehicleSound schoolId db) :
    DefaultVehicleSound schoolId (w.run db).2 ↔ w.SpellsDefault schoolId db := by
  cases w with
  | create env newSchoolId payload =>
    exact iff_of_true (writeNewVehicle_sound newSchoolId payload h) trivial
  | patch env vehicleId payload =>
    refine iff_of_true ?_ trivial
    show DefaultVehicleSound schoolId (writeVehiclePatch env vehicleId payload db).2
    rcases Prog.transaction_cases (writeVehiclePatch env vehicleId payload) rfl db with
      ⟨r, hok⟩ | hs
    · rw [writeVehiclePatch_ok hok]
      exact h.updateVehicle vehicleId (Vehicle.id_patched payload) (fun _ => rfl) fun _ => rfl
    · rw [hs]
      exact h
  | setAvailability vehicleId payload =>
    refine iff_of_true ?_ trivial
    exact h.updateVehicle vehicleId (Vehicle.id_withAvailability payload) (fun _ => rfl)
      fun _ => rfl
  | setPhoto vehicleId publicUrl =>
    refine iff_of_true ?_ trivial
    exact h.updateVehicle vehicleId (Vehicle.id_withPhoto publicUrl) (fun _ => rfl) fun _ => rfl
  | delete env userId vehicleId => exact deleteVehicleForUser_sound_iff env userId vehicleId h
  | setDefault newSchoolId vehicleId =>
    refine iff_of_true ?_ trivial
    show DefaultVehicleSound schoolId (writeDefaultVehicle newSchoolId vehicleId db).2
    rcases Prog.transaction_cases (writeDefaultVehicle newSchoolId vehicleId) rfl db with
      ⟨r, hok⟩ | hs
    · obtain ⟨v, hv, rfl, hactive, hmine, hdb⟩ := writeDefaultVehicle_ok hok
      rw [hdb]
      exact DefaultVehicleSound.setDefaultVehicle hv hmine hactive fun _ => h
    · rw [hs]
      exact h

/-! ### Samples -/

namespace FirstVehicles

def school : Db := { SmallSchool.db with vehicles := .empty }

theorem school_withoutVehicles : WithoutVehicles 10 school := by
  refine ⟨fun s hs => ?_, fun _ hv => absurd hv List.not_mem_nil⟩
  obtain rfl := List.mem_singleton.mp (Table.mem_of_findUnique hs)
  rfl

/-- The first new id is 10, whose last digit is a letter. -/
def morning : Env :=
  { SmallSchool.envAt (SmallSchool.clock 5 8 0) with
    uuid := fun used => nextId used + 9
    uuid_fresh := fun _ h =>
      Nat.not_succ_le_self _ ((Nat.le_add_right _ 9).trans (List.le_sum_of_mem h)) }

def newVehicle (registrationNumber : String) : UpsertVehicleBody where
  id := .missing
  schoolId := .id 10
  create := .ok { name := "Yaris", registrationNumber, optional := {} }
  patch := .error "unused"

/-- The second of two vehicles becomes the default while a deletion of the first one waits. -/
def requests : Fin 4 → VehicleRequest :=
  ![.upsert morning 1 (newVehicle "DW 1001"), .upsert morning 1 (newVehicle "DW 1002"),
    .setDefault 1 10 20, .delete morning 1 10]

def schedule : List (Fin 4) := [0, 1, 0, 1, 2, 3, 2, 3]

/-- The first of two vehicles is the default, and is deleted by its id in capital letters. -/
def respelled : Fin 3 → VehicleRequest :=
  ![.upsert morning 1 (newVehicle "DW 1001"), .upsert morning 1 (newVehicle "DW 1002"),
    .delete morning 1 { uuid := 10, capitals := {0} }]

end FirstVehicles

open FirstVehicles in
/-- The default is deleted, though another vehicle is active. -/
theorem run_not_defaultVehicleSound : ¬∀ (requests : Fin 3 → VehicleRequest)
    (schedule : List (Fin 3)) (schoolId : Uuid) (db : Db), WithoutVehicles schoolId db →
      DefaultVehicleSound schoolId
        (run (fun i => (requests i).twoPhase) schedule (start db)).store := by
  intro h
  have hsound := h respelled [0, 0, 1, 1, 2, 2] 10 school school_withoutVehicles
  obtain ⟨v, hv, hid, _, hactive⟩ := (hsound { id := 10, ownerId := 1, defaultVehicleId := some 10 }
    rfl).active 10 rfl
  have hdeleted : ∀ v ∈ (run (fun i => (respelled i).twoPhase) [0, 0, 1, 1, 2, 2]
      (start school)).store.vehicles.rows, v.id = 10 → v.isActive = false := by
    decide +kernel
  exact absurd (hdeleted v hv hid) (by rw [hactive]; decide)

/-- Calls of any number, whose reads and transactions follow each other in any order, keep the
default of a school that begins without vehicles exactly as long as every deletion of the default
spells its id as it is stored. -/
theorem run_defaultVehicleSound_iff {ι : Type u} [DecidableEq ι] (requests : ι → VehicleRequest)
    (schedule : List ι) (h : WithoutVehicles schoolId db) :
    (∀ reached, reached <+: schedule → DefaultVehicleSound schoolId
      (run (fun i => (requests i).twoPhase) reached (start db)).store) ↔
    Throughout (fun i => (requests i).twoPhase) (AtWrite fun db w => w.SpellsDefault schoolId db)
      schedule (start db) := by
  refine ⟨fun hsound => throughout_of_prefixes fun reached i hprefix w hw => ?_, ?_⟩
  · have hbefore := hsound reached ((List.prefix_append reached [i]).trans hprefix)
    have hafter := hsound _ hprefix
    rw [run_concat, step_of_prepared hw] at hafter
    exact (w.run_sound_iff hbefore).mp hafter
  · rintro hspells reached ⟨rest, rfl⟩
    refine run_store (I := DefaultVehicleSound schoolId) (fun _ _ _ _ hs => hs) ?_
      (holdsReads_start db) h.sound hspells.of_append
    exact fun c i w hw _ hspells hs => (w.run_sound_iff hs).mpr (hspells w hw)

open FirstVehicles in
/-- Deletions that spell their ids as stored are all sound. -/
theorem run_defaultVehicleSound_firstVehicles :
    ((run (fun i => (requests i).twoPhase) schedule (start school)).store.drivingSchools.findUnique
        10).map DrivingSchool.defaultVehicleId = some (some 20) ∧
      ∀ reached, reached <+: schedule → DefaultVehicleSound 10
        (run (fun i => (requests i).twoPhase) reached (start school)).store := by
  refine ⟨by decide +kernel,
    (run_defaultVehicleSound_iff requests schedule school_withoutVehicles).mpr ?_⟩
  refine throughout_of_prefixes fun reached i _ w hw => ?_
  cases w with
  | delete env userId vehicleId =>
    have hreads : HoldsReads (fun i => (requests i).twoPhase)
        (run (fun i => (requests i).twoPhase) reached (start school)) :=
      run_of_step (fun _ i => holdsReads_step i) (holdsReads_start school)
    obtain ⟨s, t, hread⟩ := hreads i _ hw
    have hrequest := VehicleRequest.read_delete (Prog.query_eq_ok.mp hread).1
    match i, hrequest with
    | 3, h =>
      cases h
      exact fun _ _ _ _ _ => rfl
  | create | patch | setAvailability | setPhoto | setDefault => trivial

end OSK
