import OskManager.Model.VehicleCommands

/-! The list of the vehicles of a school: `vehicle/queries.ts` and the refresh of single rows in
`vehicle/availabilityRefresh.ts`. The list repairs the rows it reads. -/

namespace OSK

open Relational

/-! ### Refreshing single rows -/

def getUtcDayStart (value : Instant) : Instant := yyyymmddToDate (dateToYYYYMMDD value)

def shouldRefreshExpiredVehicleUnavailability (now : Instant) (vehicle : Vehicle) : Bool :=
  decide (vehicle.availabilityStatus = .unavailable) &&
    vehicle.unavailableUntil.any fun until_ => decide (yyyymmddToDate until_ < getUtcDayStart now)

def refreshExpiredVehicleUnavailability (now : Instant) (vehicle : Vehicle) : Service Vehicle := do
  let due := shouldRefreshExpiredVehicleUnavailability now vehicle
  Prog.when due (Prog.write fun db => db.makeVehicleAvailable vehicle.id)
  return if due then vehicle.madeAvailable else vehicle

def refreshExpiredVehicleUnavailabilities (now : Instant) : List Vehicle → Service (List Vehicle)
  | [] => pure []
  | vehicle :: rest => do
    let vehicle ← refreshExpiredVehicleUnavailability now vehicle
    let rest ← refreshExpiredVehicleUnavailabilities now rest
    return vehicle :: rest

/-! ### The list -/

inductive VehicleDeletionBlockReason where
  | default | scheduledLessons
  deriving DecidableEq, Repr

structure ListedVehicle where
  vehicle : VehicleResponse
  isDefault : Bool
  deletionBlockReason : Option VehicleDeletionBlockReason

structure VehicleList where
  vehicles : List ListedVehicle
  defaultVehicleId : Option Uuid

/-- The course whose category the list is restricted to, if one is named. -/
def courseOfVehicleList (db : Db) (schoolId : Uuid) :
    Option Uuid → Except Failure (Option Course)
  | none => return none
  | some courseId => do
    let course ← orThrow (db.courses.findFirst fun c =>
      decide (c.id = courseId ∧ c.schoolId = schoolId ∧ c.deletedAt = none))
      (.notFound "Course not found")
    return some course

def activeVehiclesOfSchool (db : Db) (schoolId : Uuid) (course : Option Course) : List Vehicle :=
  (db.vehicles.findMany fun v => decide (v.schoolId = schoolId ∧ v.isActive = true) &&
    course.all fun c => decide (c.courseTypeId ∈ v.supportedCourseTypes)).insertionSort
      fun a b => a.createdAt ≤ b.createdAt

/-- The vehicles of lessons and drives in the window; the source collects them into a set. -/
def busyVehicleIds (db : Db) (vehicleIds : List Uuid) (window : ScheduleWindow) : List Uuid :=
  let listed (vehicleId : Option Uuid) : Bool := vehicleId.any fun id => decide (id ∈ vehicleIds)
  let busyLessons := db.lessons.findMany fun l =>
    listed l.vehicleId && l.busyDuring window.start window.stop none
  let busyEvents := db.instructorEvents.findMany fun e =>
    listed e.vehicleId && decide (e.type = .drive) && e.busyDuring window.start window.stop none
  busyLessons.filterMap Lesson.vehicleId ++ busyEvents.filterMap InstructorEvent.vehicleId

def vehiclesFreeDuring (db : Db) (timeRange : Option ScheduleWindow) (vehicles : List Vehicle) :
    List Vehicle :=
  match timeRange with
  | none => vehicles
  | some window =>
    let busy := busyVehicleIds db (vehicles.map Vehicle.id) window
    vehicles.filter fun v => decide (v.id ∉ busy)

/-- `refreshed` are the vehicles the list looked at, `upcoming` those with pending work. -/
def listedVehicle (db : Db) (defaultVehicleId : Option Uuid) (refreshed : List Vehicle)
    (upcoming : List Uuid) (vehicle : Vehicle) : ListedVehicle :=
  let isDefault := decide (defaultVehicleId = some vehicle.id)
  { vehicle := vehicleToResponse db vehicle
    isDefault
    deletionBlockReason :=
      if isDefault = true ∧ refreshed.length > 1 then some .default
      else if vehicle.id ∈ upcoming then some .scheduledLessons else none }

def listVehiclesBySchoolForUser (env : Env) (userId schoolId : Uuid)
    (timeRange : Option ScheduleWindow := none) (courseId : Option Uuid := none) :
    Service VehicleList := do
  let school ← Prog.query fun db =>
    orThrow (getSchoolOwnedByUser db userId schoolId) (.forbidden "Forbidden")
  let course ← Prog.query fun db => courseOfVehicleList db schoolId courseId
  let vehicles ← Prog.query fun db => .ok (activeVehiclesOfSchool db schoolId course)
  let refreshed ← refreshExpiredVehicleUnavailabilities env.now vehicles
  let upcoming ← Prog.query fun db =>
    .ok (getVehiclesWithUpcomingLessons db (refreshed.map Vehicle.id) env.now)
  let usable := refreshed.filter fun v =>
    course.isNone || decide (v.availabilityStatus = .active)
  let free ← Prog.query fun db => .ok (vehiclesFreeDuring db timeRange usable)
  Prog.query fun db => .ok {
    vehicles := free.map (listedVehicle db school.defaultVehicleId refreshed upcoming)
    defaultVehicleId := school.defaultVehicleId }

end OSK
