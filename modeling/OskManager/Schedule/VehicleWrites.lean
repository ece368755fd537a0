import OskManager.Model.VehicleCommands

/-! What adding, editing and deleting a vehicle leave. An edit has passed the guard on the
categories that it takes away, a deletion the guard on pending work. -/

namespace OSK

open Relational

variable {env : Env} {db db' : Db}

/-- What a call that adds or edits a vehicle leaves. -/
inductive VehicleWritten (env : Env) (db : Db) : Db → Prop where
  | unchanged : VehicleWritten env db db
  | added (schoolId : Uuid) (payload : VehicleWritePayload OptionalVehicleFields) :
      VehicleWritten env db (db.insertVehicle env schoolId payload)
  | addedFirst (schoolId : Uuid) (payload : VehicleWritePayload OptionalVehicleFields)
      (vehicleId : Uuid) :
      VehicleWritten env db ((db.insertVehicle env schoolId payload).setDefaultVehicle schoolId
        vehicleId)
  | edited (vehicleId : Uuid) (payload : VehicleWritePayload OptionalVehiclePatch)
      (guard : assertVehicleCategoriesCanChange env db vehicleId payload.supportedCourseTypeIds =
        .ok ()) :
      VehicleWritten env db (db.patchVehicle vehicleId payload)

theorem VehicleWritten.transaction {α : Type} {p : Service α}
    (hok : ∀ a t, p db = (.ok a, t) → VehicleWritten env db t) :
    VehicleWritten env db (Prog.transaction p db).2 := by
  unfold Prog.transaction
  split
  · next a t h => exact hok a t h
  · exact .unchanged

theorem VehicleWritten.query_bind {α β : Type} {f : Db → Except Failure α} {g : α → Service β}
    (h : ∀ a, f db = .ok a → VehicleWritten env db (g a db).2) :
    VehicleWritten env db ((Prog.query f >>= g) db).2 := by
  rw [Prog.query_bind_run]
  split
  · next a ha => exact h a ha
  · exact .unchanged

theorem VehicleWritten.lift_bind {α β : Type} {x : Except Failure α} {g : α → Service β}
    (h : ∀ a, x = .ok a → VehicleWritten env db (g a db).2) :
    VehicleWritten env db (((liftM x : Service α) >>= g) db).2 :=
  VehicleWritten.query_bind (f := fun _ => x) h

/-- A new vehicle is the default of its school when the school had no active one. -/
theorem writeNewVehicle_ok {schoolId : Uuid} {payload : VehicleWritePayload OptionalVehicleFields}
    {r : VehicleResponse} (h : writeNewVehicle env schoolId payload db = (.ok r, db')) :
    (db.vehicles.count (fun v => decide (v.schoolId = schoolId ∧ v.isActive = true)) = 0 ∧
        db' = (db.insertVehicle env schoolId payload).setDefaultVehicle schoolId
          (db.nextVehicle env schoolId payload).id) ∨
      (db.vehicles.count (fun v => decide (v.schoolId = schoolId ∧ v.isActive = true)) ≠ 0 ∧
        db' = db.insertVehicle env schoolId payload) := by
  simp only [writeNewVehicle, Prog.transaction_eq_ok, Prog.query_bind_eq_ok] at h
  obtain ⟨_, hcount, _, _, _, hvehicle, h⟩ := h
  cases hcount
  cases hvehicle
  simp only [Prog.bind_eq_ok, Prog.write_eq_ok, Prog.when_eq_ok, Prog.query_eq_ok,
    decide_eq_true_eq, decide_eq_false_iff_not] at h
  obtain ⟨_, _, rfl, _, _, ⟨hfirst, rfl⟩ | ⟨hother, rfl⟩, _, rfl⟩ := h
  · exact Or.inl ⟨hfirst, rfl⟩
  · exact Or.inr ⟨hother, rfl⟩

theorem writeNewVehicle_written (schoolId : Uuid)
    (payload : VehicleWritePayload OptionalVehicleFields) :
    VehicleWritten env db (writeNewVehicle env schoolId payload db).2 := by
  rcases Prog.transaction_cases (writeNewVehicle env schoolId payload) rfl db with ⟨r, hok⟩ | hs
  · rcases writeNewVehicle_ok hok with ⟨_, hdb⟩ | ⟨_, hdb⟩
    · rw [hdb]
      exact .addedFirst schoolId payload _
    · rw [hdb]
      exact .added schoolId payload
  · rw [hs]
    exact .unchanged

theorem writeVehiclePatch_written (vehicleId : Uuid)
    (payload : VehicleWritePayload OptionalVehiclePatch) :
    VehicleWritten env db (writeVehiclePatch env vehicleId payload db).2 := by
  apply VehicleWritten.transaction
  intro r t h
  simp only [Prog.query_bind_eq_ok] at h
  obtain ⟨_, hguard, row, _, h⟩ := h
  simp only [Prog.bind_eq_ok, Prog.write_eq_ok, Prog.query_eq_ok] at h
  obtain ⟨_, _, rfl, _, rfl⟩ := h
  exact .edited vehicleId payload hguard

theorem updateVehicleForUser_written (userId vehicleId : Uuid)
    (body : ParsedVehicleBody OptionalVehiclePatch) :
    VehicleWritten env db (updateVehicleForUser env userId vehicleId body db).2 := by
  apply VehicleWritten.query_bind
  intro vehicle _
  refine VehicleWritten.lift_bind fun payload _ => VehicleWritten.query_bind fun _ _ => ?_
  exact writeVehiclePatch_written vehicleId payload

theorem upsertVehicleForUser_written (userId : Uuid) (body : UpsertVehicleBody) :
    VehicleWritten env db (upsertVehicleForUser env userId body db).2 := by
  unfold upsertVehicleForUser
  rcases body.id with _ | _ | vehicleId
  · rw [Prog.bind_pure_store]
    refine VehicleWritten.lift_bind fun payload _ => VehicleWritten.lift_bind fun schoolId _ => ?_
    refine VehicleWritten.query_bind fun _ _ => VehicleWritten.query_bind fun _ _ => ?_
    exact writeNewVehicle_written schoolId payload
  · exact .unchanged
  · rw [Prog.bind_pure_store]
    refine VehicleWritten.lift_bind fun payload _ => VehicleWritten.query_bind fun _ _ => ?_
    exact VehicleWritten.query_bind fun _ _ => writeVehiclePatch_written vehicleId payload

/-! ### Vehicles -/

theorem mem_insertVehicle {schoolId : Uuid} {payload : VehicleWritePayload OptionalVehicleFields}
    {v : Vehicle} :
    v ∈ (db.insertVehicle env schoolId payload).vehicles.rows ↔
      v ∈ db.vehicles.rows ∨ v = db.nextVehicle env schoolId payload :=
  Table.mem_insert db.vehicles _ (env.uuid_fresh _) v

/-- Pending work of the course, a lesson or a drive, that uses the vehicle. -/
inductive VehicleNeeded (now : Instant) (db : Db) (vehicleId : Uuid) (c : Course) : Prop where
  | lesson (l : Lesson) (hl : l ∈ db.lessons.rows) (hvehicle : l.vehicleId = some vehicleId)
      (hpending : l.isPending now = true) (hcourse : db.courses.findUnique l.courseId = some c)
  | event (e : InstructorEvent) (he : e ∈ db.instructorEvents.rows)
      (hvehicle : e.vehicleId = some vehicleId) (hdrive : e.type = .drive)
      (hpending : e.isPending now = true) (courseId : Uuid) (hid : e.courseId = some courseId)
      (hcourse : db.courses.findUnique courseId = some c)

theorem neededCategory_kept {vehicleId : Uuid} {ids : List Uuid} {v : Vehicle} {c : Course}
    (hguard : assertVehicleCategoriesCanChange env db vehicleId (some ids) = .ok ())
    (hv : db.vehicles.findUnique vehicleId = some v)
    (hsupported : c.courseTypeId ∈ v.supportedCourseTypes)
    (hneeded : VehicleNeeded env.now db vehicleId c) : c.courseTypeId ∈ ids := by
  by_contra hremoved
  simp only [assertVehicleCategoriesCanChange, forSome, Option.elim_some, except_bind_eq_ok,
    orThrow_eq_ok, throwIf_eq_ok, not_and, not_or] at hguard
  obtain ⟨_, _, v', hv', hunused⟩ := hguard
  obtain rfl : v' = v := Option.some_inj.mp (hv'.symm.trans hv)
  have hmem : c.courseTypeId ∈ v'.supportedCourseTypes.filter fun t => decide (t ∉ ids) :=
    List.mem_filter.mpr ⟨hsupported, decide_eq_true hremoved⟩
  obtain ⟨hlessons, hevents⟩ := hunused (List.ne_nil_of_mem hmem)
  have hof {courseId : Uuid} (hc : db.courses.findUnique courseId = some c) :
      db.courseIsOfTypes (v'.supportedCourseTypes.filter fun t => decide (t ∉ ids)) courseId =
        true := by
    rw [Db.courseIsOfTypes, hc, Option.any_some]
    exact decide_eq_true hmem
  rw [Table.findFirst_isSome] at hlessons hevents
  cases hneeded with
  | lesson l hl hvehicle hpending hcourse =>
    refine hlessons ⟨l, hl, ?_⟩
    rw [hpending, hof hcourse, decide_eq_true hvehicle]
    rfl
  | event e he hvehicle hdrive hpending courseId hid hcourse =>
    refine hevents ⟨e, he, ?_⟩
    rw [hpending, hid, Option.any_some, hof hcourse, decide_eq_true ⟨hvehicle, hdrive⟩]
    rfl

/-! ### Deleting -/

/-- What the rules of a deletion have found. -/
structure DeleteVehicleRules (env : Env) (userId : Uuid) (vehicleId : UuidText) (db : Db)
    (vehicle : Vehicle) (school : DrivingSchool) : Prop where
  found : db.vehicles.findUnique vehicleId.uuid = some vehicle
  active : vehicle.isActive = true
  owned : getSchoolOwnedByUser db userId vehicle.schoolId = some school
  allowed : assertVehicleCanBeDeleted env db vehicleId vehicle.schoolId school = .ok ()

/-- The store after a deletion: the school first loses the vehicle as its default. -/
def Db.withoutVehicle (db : Db) (vehicleId : UuidText) (schoolId : Uuid)
    (school : DrivingSchool) : Db :=
  if school.defaultVehicleId.map .ofUuid = some vehicleId then
    (db.clearDefaultVehicle schoolId).deleteVehicle vehicleId.uuid
  else db.deleteVehicle vehicleId.uuid

theorem deleteActiveVehicle_ok {vehicleId : UuidText} {schoolId : Uuid} {school : DrivingSchool}
    (h : deleteActiveVehicle env vehicleId schoolId school db = (.ok (), db')) :
    assertVehicleCanBeDeleted env db vehicleId schoolId school = .ok () ∧
      db' = db.withoutVehicle vehicleId schoolId school := by
  rw [deleteActiveVehicle, Prog.query_bind_eq_ok] at h
  simp only [Prog.bind_eq_ok, Prog.when_eq_ok, Prog.write_eq_ok, decide_eq_true_eq,
    decide_eq_false_iff_not] at h
  obtain ⟨_, hallowed, _, t, ⟨hdefault, rfl⟩ | ⟨hother, rfl⟩, rfl⟩ := h
  · exact ⟨hallowed, (if_pos hdefault).symm⟩
  · exact ⟨hallowed, (if_neg hother).symm⟩

theorem deleteVehicleForUser_store (env : Env) (userId : Uuid) (vehicleId : UuidText) (db : Db) :
    (deleteVehicleForUser env userId vehicleId db).2 = db ∨
      ∃ vehicle school, DeleteVehicleRules env userId vehicleId db vehicle school ∧
        (deleteVehicleForUser env userId vehicleId db).2 =
          db.withoutVehicle vehicleId vehicle.schoolId school := by
  rcases Prog.transaction_cases (deleteVehicleForUser env userId vehicleId) rfl db with ⟨_, h⟩ | h
  · generalize (deleteVehicleForUser env userId vehicleId db).2 = db' at h ⊢
    simp only [deleteVehicleForUser, Prog.transaction_eq_ok, Prog.query_bind_eq_ok,
      orThrow_eq_ok] at h
    obtain ⟨vehicle, hfound, school, howned, h⟩ := h
    simp only [Prog.bind_eq_ok, Prog.when_eq_ok, Prog.pure_eq_ok] at h
    obtain ⟨_, t, ⟨hactive, hdelete⟩ | ⟨_, rfl⟩, _, rfl⟩ := h
    · obtain ⟨hallowed, rfl⟩ := deleteActiveVehicle_ok hdelete
      exact Or.inr ⟨vehicle, school, ⟨hfound, hactive, howned, hallowed⟩, rfl⟩
    · exact Or.inl rfl
  · exact Or.inl h

/-- Rules that pass are all that a deletion needs. -/
theorem DeleteVehicleRules.store {userId : Uuid} {vehicleId : UuidText} {vehicle : Vehicle}
    {school : DrivingSchool} (rules : DeleteVehicleRules env userId vehicleId db vehicle school) :
    (deleteVehicleForUser env userId vehicleId db).2 =
      db.withoutVehicle vehicleId vehicle.schoolId school := by
  simp only [deleteVehicleForUser, Prog.transaction, Prog.query_bind_run, orThrow, rules.found,
    Option.elim_some, rules.owned, rules.active, Prog.when, if_true, deleteActiveVehicle,
    Db.withoutVehicle]
  by_cases hdefault : school.defaultVehicleId.map .ofUuid = some vehicleId <;>
    simp [Prog.bind_run, Prog.query, Prog.write, Prog.pure_run, rules.allowed, hdefault]

theorem mem_getVehiclesWithUpcomingLessons {vehicleIds : List Uuid} {now : Instant} {id : Uuid} :
    id ∈ getVehiclesWithUpcomingLessons db vehicleIds now ↔ id ∈ vehicleIds ∧
      ((∃ l ∈ db.lessons.rows, l.vehicleId = some id ∧ l.isPending now = true) ∨
        ∃ e ∈ db.instructorEvents.rows, e.vehicleId = some id ∧ e.type = .drive ∧
          e.isPending now = true) := by
  simp only [getVehiclesWithUpcomingLessons, List.mem_append, List.mem_filterMap,
    Table.mem_findMany, Bool.and_eq_true, decide_eq_true_eq, Option.any_eq_true]
  refine ⟨?_, ?_⟩
  · rintro (⟨l, ⟨hl, ⟨v, hv, hlisted⟩, hpending⟩, hid⟩ |
      ⟨e, ⟨he, ⟨⟨v, hv, hlisted⟩, hdrive⟩, hpending⟩, hid⟩)
    · obtain rfl : v = id := Option.some_inj.mp (hv.symm.trans hid)
      exact ⟨hlisted, Or.inl ⟨l, hl, hv, hpending⟩⟩
    · obtain rfl : v = id := Option.some_inj.mp (hv.symm.trans hid)
      exact ⟨hlisted, Or.inr ⟨e, he, hv, hdrive, hpending⟩⟩
  · rintro ⟨hlisted, ⟨l, hl, hv, hpending⟩ | ⟨e, he, hv, hdrive, hpending⟩⟩
    · exact Or.inl ⟨l, ⟨hl, ⟨id, hv, hlisted⟩, hpending⟩, hv⟩
    · exact Or.inr ⟨e, ⟨he, ⟨⟨id, hv, hlisted⟩, hdrive⟩, hpending⟩, hv⟩

/-- No pending lesson and no pending drive uses the vehicle. -/
def VehicleUnused (now : Instant) (db : Db) (vehicleId : Uuid) : Prop :=
  vehicleId ∉ getVehiclesWithUpcomingLessons db [vehicleId] now

theorem vehicleUnused_iff {now : Instant} {vehicleId : Uuid} :
    VehicleUnused now db vehicleId ↔
      (∀ l ∈ db.lessons.rows, l.isPending now = true → l.vehicleId ≠ some vehicleId) ∧
        ∀ e ∈ db.instructorEvents.rows, e.isPending now = true → e.type = .drive →
          e.vehicleId ≠ some vehicleId := by
  simp only [VehicleUnused, mem_getVehiclesWithUpcomingLessons, List.mem_singleton, true_and,
    not_or, not_exists, not_and]
  refine and_congr ?_ ?_
  · exact forall₂_congr fun l _ => ⟨fun h hpending hv => h hv hpending,
      fun h hv hpending => h hpending hv⟩
  · exact forall₂_congr fun e _ => ⟨fun h hpending hdrive hv => h hv hdrive hpending,
      fun h hv hdrive hpending => h hpending hdrive hv⟩

/-- The guard on the bookings finds them only by the stored spelling. -/
theorem DeleteVehicleRules.unused {userId : Uuid} {vehicleId : UuidText} {vehicle : Vehicle}
    {school : DrivingSchool} (h : DeleteVehicleRules env userId vehicleId db vehicle school)
    (hstored : vehicleId.Stored) : VehicleUnused env.now db vehicleId.uuid := by
  have hallowed := h.allowed
  simp only [assertVehicleCanBeDeleted, except_bind_eq_ok, throwIf_eq_ok, List.mem_map,
    not_exists, not_and] at hallowed
  obtain ⟨_, _, hfree⟩ := hallowed
  exact fun hmem => hfree vehicleId.uuid hmem hstored.symm

end OSK
