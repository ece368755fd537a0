import OskManager.Schedule.VehicleRefresh

/-! The choice of a vehicle for a student's booking. Its candidates are available, so all it
writes is the refresh of the school's vehicles, and running it again gives the same answer. -/

namespace OSK

open Relational

variable (env : Env)

/-! ### The refresh of a school -/

theorem refreshVehicles_twice (db : Db) (schoolId : Uuid) :
    (db.refreshVehicles env schoolId).refreshVehicles env schoolId =
      db.refreshVehicles env schoolId := by
  simp only [Db.refreshVehicles]
  rw [Table.updateMany_twice _ _ _ _ _ Vehicle.madeAvailable_twice]
  simp only [Bool.or_self]

/-- Nothing has happened but the refresh of one school. -/
def SchoolRefreshed (schoolId : Uuid) (db db' : Db) : Prop :=
  db' = db ∨ db' = db.refreshVehicles env schoolId

theorem SchoolRefreshed.refl (schoolId : Uuid) (db : Db) : SchoolRefreshed env schoolId db db :=
  Or.inl rfl

theorem SchoolRefreshed.trans (schoolId : Uuid) (a b c : Db) (hab : SchoolRefreshed env schoolId a b)
    (hbc : SchoolRefreshed env schoolId b c) : SchoolRefreshed env schoolId a c := by
  rcases hab with rfl | rfl
  · exact hbc
  · rcases hbc with rfl | rfl
    · exact Or.inr rfl
    · exact Or.inr (refreshVehicles_twice env a schoolId)

/-! ### Candidates -/

/-- The vehicle is not marked unavailable. -/
def NotUnavailable (db : Db) (vehicleId : Uuid) : Prop :=
  ∀ v, activeVehicle db vehicleId = some v → v.availabilityStatus = .active

/-- An available vehicle is validated without a write. -/
theorem validateVehicle_store {db : Db} {vehicleId : Uuid} (h : NotUnavailable db vehicleId)
    (instructorId : Uuid) (b : Bool) :
    (validateVehicleForInstructor env instructorId vehicleId b db).2 = db := by
  rcases hact : activeVehicle db vehicleId with _ | v
  · simp [validateVehicleForInstructor, Prog.bind_run, Prog.query, hact, orThrow]
  · have hexpired : v.expiredTemporaryUnavailability env = false := by
      simp [Vehicle.expiredTemporaryUnavailability, h v hact]
    simp only [validateVehicleForInstructor, Prog.bind_run, Prog.query, hact, orThrow,
      Option.elim_some, hexpired, Prog.when, Bool.false_eq_true, if_false, Prog.pure_run,
      Prog.lift_run]
    split <;> next heq => exact (Prod.mk.inj heq).2.symm

theorem firstFreeVehicle_store {db : Db} {l : List Uuid} (h : ∀ id ∈ l, NotUnavailable db id)
    (instructorId : Uuid) (start stop : Instant) :
    (firstFreeVehicle env instructorId start stop l db).2 = db := by
  induction l with
  | nil => rfl
  | cons vehicleId rest ih =>
    rw [List.forall_mem_cons] at h
    have hstore := validateVehicle_store env h.1 instructorId false
    have hrest := ih h.2
    simp only [firstFreeVehicle, Prog.bind_run, Prog.attempt, Prog.query]
    rw [hstore]
    cases (validateVehicleForInstructor env instructorId vehicleId false db).1 with
    | error e => exact hrest
    | ok u =>
      split
      · exact hrest
      · rfl

theorem mem_defaultVehicleFirst {d : Option Uuid} {l : List Uuid} {id : Uuid}
    (h : id ∈ defaultVehicleFirst d l) : id ∈ l := by
  cases d with
  | none => exact h
  | some d =>
    simp only [defaultVehicleFirst] at h
    split at h
    · next hd =>
      rcases List.mem_cons.mp h with rfl | h
      · exact hd
      · exact (List.mem_filter.mp h).1
    · exact h

/-- All the choice writes is the refresh it starts with. -/
theorem findAvailableVehicle_store (instructorId schoolId : Uuid) (start stop : Instant)
    (courseTypeId : Uuid) (db : Db) :
    (findAvailableVehicleIdForStudentBooking env instructorId schoolId start stop courseTypeId
      db).2 = db.refreshVehicles env schoolId := by
  refine firstFreeVehicle_store env (fun id hid v hv => ?_) _ _ _
  obtain ⟨w, hw, rfl⟩ := List.mem_map.mp (mem_defaultVehicleFirst hid)
  rw [(List.perm_insertionSort _ _).mem_iff, Table.mem_findMany, decide_eq_true_eq] at hw
  obtain ⟨hv, hid⟩ := Table.mem_of_findFirst hv
  have heq : v = w := Table.key_inj _ hv hw.1 (of_decide_eq_true hid).1
  rw [heq]
  exact hw.2.2.2.2

/-- The refresh that an earlier choice left behind makes no difference to a later one. -/
theorem findAvailableVehicle_refreshVehicles (instructorId schoolId : Uuid) (start stop : Instant)
    (courseTypeId : Uuid) (db : Db) :
    findAvailableVehicleIdForStudentBooking env instructorId schoolId start stop courseTypeId
        (db.refreshVehicles env schoolId) =
      findAvailableVehicleIdForStudentBooking env instructorId schoolId start stop courseTypeId
        db := by
  simp only [findAvailableVehicleIdForStudentBooking, Prog.bind_run, Prog.query, Prog.write,
    refreshExpiredVehicleUnavailabilitiesForSchool, refreshVehicles_twice]
  rfl

theorem findAvailableVehicle_schoolRefreshed (instructorId schoolId : Uuid) (start stop : Instant)
    (courseTypeId : Uuid) :
    Prog.Keeps (SchoolRefreshed env schoolId) (findAvailableVehicleIdForStudentBooking env
      instructorId schoolId start stop courseTypeId) :=
  fun db => Or.inr (findAvailableVehicle_store env instructorId schoolId start stop courseTypeId db)

theorem findAvailableVehicle_succeeds_iff {schoolId : Uuid} {db db' : Db}
    (h : SchoolRefreshed env schoolId db db') (instructorId : Uuid) (start stop : Instant)
    (courseTypeId : Uuid) :
    Prog.Succeeds (findAvailableVehicleIdForStudentBooking env instructorId schoolId start stop
        courseTypeId) db' ↔
      Prog.Succeeds (findAvailableVehicleIdForStudentBooking env instructorId schoolId start stop
        courseTypeId) db := by
  rcases h with rfl | rfl
  · exact Iff.rfl
  · simp only [Prog.Succeeds, findAvailableVehicle_refreshVehicles]

end OSK
