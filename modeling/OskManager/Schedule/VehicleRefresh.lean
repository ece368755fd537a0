import OskManager.Model.Vehicles
import OskManager.Schedule.Occupancy

/-! What the vehicle rules write: they end unavailabilities that have expired and change
nothing else, so no rule about the schedule can tell the difference. -/

namespace OSK

open Relational Booking

/-- Makes the vehicles that satisfy `p` available. -/
def Db.refreshed (db : Db) (p : Vehicle → Bool) : Db :=
  { db with vehicles := db.vehicles.updateMany p Vehicle.madeAvailable Vehicle.id_madeAvailable }

def Refreshed (db db' : Db) : Prop := ∃ p, db' = db.refreshed p

theorem Refreshed.refl (db : Db) : Refreshed db db :=
  ⟨fun _ => false, by rw [Db.refreshed, Table.updateMany_none]⟩

theorem Refreshed.trans {a b c : Db} (hab : Refreshed a b) (hbc : Refreshed b c) :
    Refreshed a c := by
  obtain ⟨p, rfl⟩ := hab
  obtain ⟨q, rfl⟩ := hbc
  refine ⟨fun v => p v || q v, ?_⟩
  simp only [Db.refreshed]
  rw [Table.updateMany_twice _ _ _ _ _ Vehicle.madeAvailable_twice]

theorem refreshed_refreshVehicles (db : Db) (env : Env) (schoolId : Uuid) :
    Refreshed db (db.refreshVehicles env schoolId) := ⟨_, rfl⟩

theorem refreshed_makeVehicleAvailable (db : Db) (vehicleId : Uuid) :
    Refreshed db (db.makeVehicleAvailable vehicleId) := ⟨_, rfl⟩

section Keeps

variable (env : Env)

theorem keeps_bind {α β : Type} {p : Service α} {f : α → Service β}
    (hp : Prog.Keeps Refreshed p) (hf : ∀ a, Prog.Keeps Refreshed (f a)) :
    Prog.Keeps Refreshed (p >>= f) :=
  Prog.Keeps.bind (fun a b _ (hab : Refreshed a b) hbc => hab.trans hbc) hp hf

theorem keeps_query {α : Type} (f : Db → Except Failure α) :
    Prog.Keeps Refreshed (Prog.query f) := Prog.Keeps.query Refreshed.refl f

theorem keeps_lift {α : Type} (x : Except Failure α) :
    Prog.Keeps Refreshed (liftM x : Service α) := Prog.Keeps.lift Refreshed.refl x

theorem keeps_pure {α : Type} (a : α) : Prog.Keeps Refreshed (pure a : Service α) :=
  Prog.Keeps.pure Refreshed.refl a

theorem fails_bind {α β : Type} {p : Service α} {f : α → Service β}
    (hp : Prog.Keeps Refreshed p) (hf : ∀ a, Prog.FailsWithin Refreshed (f a)) :
    Prog.FailsWithin Refreshed (p >>= f) :=
  Prog.FailsWithin.bind (fun a b _ (hab : Refreshed a b) hbc => hab.trans hbc) hp hf

theorem validateVehicleForInstructor_keeps (instructorId vehicleId : Uuid) (b : Bool) :
    Prog.Keeps Refreshed (validateVehicleForInstructor env instructorId vehicleId b) := by
  apply keeps_bind (keeps_query _)
  intro vehicle
  refine keeps_bind ?_ fun _ => keeps_bind (keeps_lift _) fun _ => keeps_query _
  exact Prog.Keeps.when Refreshed.refl
    (Prog.Keeps.write fun db => refreshed_makeVehicleAvailable db _)

theorem refreshExpired_keeps (schoolId : Uuid) :
    Prog.Keeps Refreshed (refreshExpiredVehicleUnavailabilitiesForSchool env schoolId) :=
  Prog.Keeps.write fun db => refreshed_refreshVehicles db env schoolId

theorem assertVehicleAvailableForBooking_keeps (instructorId vehicleId schoolId : Uuid)
    (start stop : Instant) (courseTypeId : Uuid) (exclude : Option Uuid) :
    Prog.Keeps Refreshed (assertVehicleAvailableForBooking env instructorId vehicleId schoolId
      start stop courseTypeId exclude) := by
  apply keeps_bind (refreshExpired_keeps env schoolId)
  intro _
  refine keeps_bind (keeps_query _) fun _ => keeps_bind (keeps_query _) fun _ => ?_
  exact keeps_bind (validateVehicleForInstructor_keeps env _ _ _) fun _ => keeps_query _

theorem firstFreeVehicle_keeps (instructorId : Uuid) (start stop : Instant) (l : List Uuid) :
    Prog.Keeps Refreshed (firstFreeVehicle env instructorId start stop l) := by
  induction l with
  | nil => exact keeps_query _
  | cons vehicleId rest ih =>
    refine keeps_bind ?_ fun valid => keeps_bind (keeps_query _) fun busy => ?_
    · exact Prog.Keeps.attempt (validateVehicleForInstructor_keeps env _ _ _)
    cases valid with
    | error _ => exact ih
    | ok _ =>
      cases busy
      · exact keeps_pure _
      · exact ih

theorem findAvailableVehicle_keeps (instructorId schoolId : Uuid) (start stop : Instant)
    (courseTypeId : Uuid) :
    Prog.Keeps Refreshed (findAvailableVehicleIdForStudentBooking env instructorId schoolId
      start stop courseTypeId) := by
  refine keeps_bind (keeps_query _) fun _ => keeps_bind (refreshExpired_keeps env schoolId) ?_
  exact fun _ => keeps_bind (keeps_query _) fun _ => firstFreeVehicle_keeps env _ _ _ _

end Keeps

/-! ### What the rules see -/

section Refreshed

variable (db : Db) (p : Vehicle → Bool)

@[simp] theorem refreshed_lessons : (db.refreshed p).lessons = db.lessons := rfl

@[simp] theorem refreshed_courses : (db.refreshed p).courses = db.courses := rfl

@[simp] theorem refreshed_events : (db.refreshed p).instructorEvents = db.instructorEvents := rfl

@[simp] theorem calendar_refreshed : calendar (db.refreshed p) = calendar db := by
  funext id
  cases id <;> rfl

@[simp] theorem assertLessonSchedulingWindowAvailable_refreshed (zone : PolishZone)
    (params : LessonWindowParams) :
    assertLessonSchedulingWindowAvailable zone (db.refreshed p) params =
      assertLessonSchedulingWindowAvailable zone db params := rfl

@[simp] theorem vehicleHasBookingConflict_refreshed (vehicleId : Uuid) (start stop : Instant)
    (exclude : Option Uuid) :
    vehicleHasBookingConflict (db.refreshed p) vehicleId start stop exclude =
      vehicleHasBookingConflict db vehicleId start stop exclude := rfl

theorem activeVehicle_refreshed (vehicleId : Uuid) :
    activeVehicle (db.refreshed p) vehicleId =
      (activeVehicle db vehicleId).map fun v => if p v then v.madeAvailable else v :=
  Table.findFirst_updateMany _ _ _ _ Vehicle.id_madeAvailable fun _ => rfl

/-- The categories of a vehicle do not depend on its availability. -/
@[simp] theorem assertVehicleSupportsCourseType_refreshed (vehicleId courseTypeId : Uuid) :
    assertVehicleSupportsCourseType (db.refreshed p) vehicleId courseTypeId =
      assertVehicleSupportsCourseType db vehicleId courseTypeId := by
  unfold assertVehicleSupportsCourseType Db.refreshed
  rw [Table.findFirst_updateMany]
  · simp only [Option.isNone_map]
  · exact fun _ => rfl

end Refreshed

end OSK
