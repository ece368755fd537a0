import OskManager.Model.LessonRules

/-! Vehicle availability: `lib/vehicle.helpers.ts`, `lib/vehicleCourseCategories.ts`,
`lesson/vehicleAvailability.ts` and the school refresh of `vehicle/availabilityRefresh.ts`.
These checks repair expired unavailabilities as they read, so they are programs. -/

namespace OSK

open Relational

abbrev Service := Prog Failure Db

def Vehicle.madeAvailable (v : Vehicle) : Vehicle :=
  { v with availabilityStatus := .active, unavailableUntil := none }

@[simp] theorem Vehicle.id_madeAvailable (v : Vehicle) : v.madeAvailable.id = v.id := rfl

theorem Vehicle.madeAvailable_twice (v : Vehicle) :
    v.madeAvailable.madeAvailable = v.madeAvailable := rfl

def assertVehicleSupportsCourseType (db : Db) (vehicleId courseTypeId : Uuid) :
    Except Failure Unit :=
  let vehicle := db.vehicles.findFirst fun v =>
    decide (v.id = vehicleId ∧ courseTypeId ∈ v.supportedCourseTypes)
  throwIf (vehicle.isNone = true)
    (.badRequestFor .vehicleCourseTypeMismatch
      "Pojazd nie obsługuje kategorii tego kursu. Wybierz zgodny pojazd.")

def assertVehicleSupportsCourse (db : Db) (vehicleId courseId : Uuid) : Except Failure Unit := do
  let course ← orThrow (db.courses.findUnique courseId) (.notFound "Course not found")
  assertVehicleSupportsCourseType db vehicleId course.courseTypeId

/-- `vehicle.findFirst({ where: { id, isActive: true } })`. -/
def activeVehicle (db : Db) (vehicleId : Uuid) : Option Vehicle :=
  db.vehicles.findFirst fun v => decide (v.id = vehicleId ∧ v.isActive = true)

/-- The unavailability ended before the Polish date of today. -/
def Vehicle.expiredTemporaryUnavailability (env : Env) (v : Vehicle) : Bool :=
  decide (v.availabilityStatus = .unavailable) &&
    v.unavailableUntil.any fun until_ => decide (until_ < polishTodayYyyymmdd env)

def Db.makeVehicleAvailable (db : Db) (vehicleId : Uuid) : Db :=
  let refreshed := db.vehicles.update vehicleId Vehicle.madeAvailable Vehicle.id_madeAvailable
  { db with vehicles := refreshed }

def validateVehicleForInstructor (env : Env) (instructorId vehicleId : Uuid)
    (requireAvailable : Bool := false) : Service Unit := do
  let vehicle ← Prog.query fun db => orThrow (activeVehicle db vehicleId)
    (.notFoundFor .vehicleUnavailable "Vehicle not found")
  let expired := vehicle.expiredTemporaryUnavailability env
  Prog.when expired (Prog.write fun db => db.makeVehicleAvailable vehicle.id)
  throwIf (requireAvailable = true ∧ vehicle.availabilityStatus ≠ .active ∧ expired = false)
    (Failure.badRequestFor .vehicleUnavailable "Vehicle is unavailable")
  Prog.query fun db => throwIf ((instructorLink db instructorId vehicle.schoolId).isNone = true)
    (.badRequestFor .vehicleUnavailable
      "Vehicle is not in a school assigned to this instructor")

/-- The rows `refreshExpiredVehicleUnavailabilitiesForSchool` makes available again; unlike
the rule above it compares with the UTC date. -/
def Vehicle.refreshDue (env : Env) (schoolId : Uuid) (v : Vehicle) : Bool :=
  decide (v.schoolId = schoolId ∧ v.isActive = true ∧ v.availabilityStatus = .unavailable) &&
    v.unavailableUntil.any fun until_ => decide (until_ < dateToYYYYMMDD env.now)

def Db.refreshVehicles (db : Db) (env : Env) (schoolId : Uuid) : Db :=
  let due := Vehicle.refreshDue env schoolId
  { db with vehicles := db.vehicles.updateMany due Vehicle.madeAvailable Vehicle.id_madeAvailable }

def refreshExpiredVehicleUnavailabilitiesForSchool (env : Env) (schoolId : Uuid) : Service Unit :=
  Prog.write fun db => db.refreshVehicles env schoolId

def vehicleHasBookingConflict (db : Db) (vehicleId : Uuid) (start stop : Instant)
    (excludeLessonId : Option Uuid := none) : Bool :=
  let vehicleLessonConflict := db.lessons.findFirst fun l =>
    decide (l.vehicleId = some vehicleId) && l.busyDuring start stop excludeLessonId
  let vehicleEventConflict := db.instructorEvents.findFirst fun e =>
    decide (e.vehicleId = some vehicleId ∧ e.type = .drive) && e.busyDuring start stop none
  vehicleLessonConflict.isSome || vehicleEventConflict.isSome

/-- The vehicle, if it is active, available and of the school. -/
def availableVehicleInSchool (db : Db) (vehicleId schoolId : Uuid) : Option Vehicle :=
  db.vehicles.findFirst fun v =>
    decide (v.id = vehicleId ∧ v.schoolId = schoolId ∧ v.isActive = true ∧
      v.availabilityStatus = .active)

def assertVehicleAvailableForBooking (env : Env) (instructorId vehicleId courseSchoolId : Uuid)
    (start stop : Instant) (courseTypeId : Uuid) (excludeLessonId : Option Uuid := none) :
    Service Unit := do
  refreshExpiredVehicleUnavailabilitiesForSchool env courseSchoolId
  Prog.query fun db =>
    throwIf ((availableVehicleInSchool db vehicleId courseSchoolId).isNone = true)
      (.badRequestFor .vehicleUnavailable "Vehicle is not for this driving school")
  Prog.query fun db => assertVehicleSupportsCourseType db vehicleId courseTypeId
  validateVehicleForInstructor env instructorId vehicleId
  Prog.query fun db =>
    throwIf (vehicleHasBookingConflict db vehicleId start stop excludeLessonId = true)
      (.conflictFor .vehicleBusy "Vehicle is already in use")

/-- The loop over the candidates: the first one that is valid and has no booking. -/
def firstFreeVehicle (env : Env) (instructorId : Uuid) (start stop : Instant) :
    List Uuid → Service Uuid
  | [] => Prog.query fun _ => throw (.conflictFor .noVehicleAvailable
      "Brak dostępnego pojazdu odpowiedniej kategorii w tym terminie.")
  | vehicleId :: rest => do
    let valid ← Prog.attempt (validateVehicleForInstructor env instructorId vehicleId)
    let busy ← Prog.query fun db => .ok (vehicleHasBookingConflict db vehicleId start stop)
    match valid with
    | .error _ => firstFreeVehicle env instructorId start stop rest
    | .ok _ => if busy then firstFreeVehicle env instructorId start stop rest else pure vehicleId

/-- The default vehicle of the school first, if it is among the candidates. -/
def defaultVehicleFirst (defaultVehicleId : Option Uuid) (vehicleIds : List Uuid) : List Uuid :=
  match defaultVehicleId with
  | some d => if d ∈ vehicleIds then d :: vehicleIds.filter fun id => decide (id ≠ d)
    else vehicleIds
  | none => vehicleIds

def findAvailableVehicleIdForStudentBooking (env : Env) (instructorId schoolId : Uuid)
    (start stop : Instant) (courseTypeId : Uuid) : Service Uuid := do
  let school ← Prog.query fun db => .ok (db.drivingSchools.findUnique schoolId)
  refreshExpiredVehicleUnavailabilitiesForSchool env schoolId
  let candidates ← Prog.query fun db => .ok ((db.vehicles.findMany fun v =>
    decide (courseTypeId ∈ v.supportedCourseTypes ∧ v.schoolId = schoolId ∧ v.isActive = true ∧
      v.availabilityStatus = .active)).insertionSort fun a b => a.createdAt ≤ b.createdAt)
  let orderedIds := defaultVehicleFirst (school.bind (·.defaultVehicleId)) (candidates.map (·.id))
  firstFreeVehicle env instructorId start stop orderedIds

end OSK
