import OskManager.Model.RequestIds
import OskManager.Model.Vehicles

/-! Adding, editing and deleting a vehicle: `vehicle/commands.ts`, `vehicle/commandHelpers.ts`,
`vehicle/access.ts`, `vehicle/photoUpload.ts`, `vehicle/deletionGuard.ts` and the category guard of
`lib/vehicleCourseCategories.ts`. -/

namespace OSK

open Relational

/-! ### Requests -/

/-- What `parseUuidParam` makes of a value. -/
inductive UuidParam where
  | missing | invalid | id (id : Uuid)

structure OptionalVehicleFields where
  brand : Option String := none
  model : Option String := none
  photoUrl : Option String := none
  modelYear : Option ℤ := none
  mileageKm : Option ℤ := none
  note : Option String := none

/-- An outer `none` is an absent key. -/
structure OptionalVehiclePatch where
  brand : Option (Option String) := none
  model : Option (Option String) := none
  photoUrl : Option (Option String) := none
  modelYear : Option (Option ℤ) := none
  mileageKm : Option (Option ℤ) := none
  note : Option (Option String) := none

structure VehicleWritePayload (Optional : Type) where
  name : String
  registrationNumber : String
  inspectionDate : Option Instant := none
  insuranceDate : Option Instant := none
  optional : Optional
  supportedCourseTypeIds : Option (List Uuid) := none

/-- What `parseVehicleWriteBody` makes of a body in one of its modes. -/
abbrev ParsedVehicleBody (Optional : Type) := Except String (VehicleWritePayload Optional)

/-- The body of `upsertVehicleForUser`, parsed. -/
structure UpsertVehicleBody where
  id : UuidParam
  schoolId : UuidParam := .missing
  create : ParsedVehicleBody OptionalVehicleFields
  patch : ParsedVehicleBody OptionalVehiclePatch

def parseVehicleWriteBodyOrThrow {Optional : Type} (payload : ParsedVehicleBody Optional) :
    Except Failure (VehicleWritePayload Optional) :=
  payload.mapError .badRequest

/-- The columns of the row, with its categories in the order of their codes. -/
structure VehicleResponse where
  rest : Vehicle
  supportedCourseTypes : List CourseType

def vehicleToResponse (db : Db) (vehicle : Vehicle) : VehicleResponse where
  rest := vehicle
  supportedCourseTypes := (db.courseTypes.findMany fun t =>
    decide (t.id ∈ vehicle.supportedCourseTypes)).insertionSort fun a b => a.code ≤ b.code

/-! ### Rules -/

def assertVehicleRegistrationUnique (db : Db) (schoolId : Uuid) (registrationNumber : String)
    (excludeVehicleId : Option Uuid := none) : Except Failure Unit :=
  let duplicate := db.vehicles.findFirst fun v =>
    decide (v.schoolId = schoolId ∧ v.registrationNumber = registrationNumber ∧
      excludeVehicleId ≠ some v.id)
  throwIf (duplicate.isSome = true)
    (.conflict "registrationNumber already exists for this driving school")

def assertSupportedCourseTypeIdsExist (db : Db) (ids : Option (List Uuid)) : Except Failure Unit :=
  forSome ids fun ids =>
    throwIf (db.courseTypes.count (fun t => decide (t.id ∈ ids)) ≠ ids.length)
      (.badRequest "Nieznana kategoria pojazdu. Odśwież katalog kategorii.")

/-- `course: { courseTypeId: { in: types } }`. -/
def Db.courseIsOfTypes (db : Db) (types : List Uuid) (courseId : Uuid) : Bool :=
  (db.courses.findUnique courseId).any fun c => decide (c.courseTypeId ∈ types)

def assertVehicleCategoriesCanChange (env : Env) (db : Db) (vehicleId : Uuid)
    (ids : Option (List Uuid)) : Except Failure Unit :=
  forSome ids fun ids => do
    assertSupportedCourseTypeIdsExist db (some ids)
    let current ← orThrow (db.vehicles.findUnique vehicleId) (.notFound "Vehicle not found")
    let removed := current.supportedCourseTypes.filter fun t => decide (t ∉ ids)
    let lesson := db.lessons.findFirst fun l =>
      decide (l.vehicleId = some vehicleId) && l.isPending env.now &&
        db.courseIsOfTypes removed l.courseId
    let event := db.instructorEvents.findFirst fun e =>
      decide (e.vehicleId = some vehicleId ∧ e.type = .drive) && e.isPending env.now &&
        e.courseId.any (db.courseIsOfTypes removed)
    throwIf (removed ≠ [] ∧ (lesson.isSome = true ∨ event.isSome = true))
      (.conflict ("Nie można usunąć kategorii pojazdu używanej przez trwające lub zaplanowane " ++
        "jazdy. Najpierw zmień pojazd w tych zajęciach."))

/-! ### Adding -/

/-- The row of a new vehicle, with the defaults of the table. -/
def VehicleWritePayload.row (payload : VehicleWritePayload OptionalVehicleFields)
    (schoolId id : Uuid) (createdAt : Instant) : Vehicle where
  id
  schoolId
  name := payload.name
  registrationNumber := payload.registrationNumber
  inspectionDate := payload.inspectionDate
  insuranceDate := payload.insuranceDate
  brand := payload.optional.brand
  model := payload.optional.model
  photoUrl := payload.optional.photoUrl
  modelYear := payload.optional.modelYear
  mileageKm := payload.optional.mileageKm
  note := payload.optional.note
  supportedCourseTypes := payload.supportedCourseTypeIds.getD []
  createdAt

def Db.nextVehicle (db : Db) (env : Env) (schoolId : Uuid)
    (payload : VehicleWritePayload OptionalVehicleFields) : Vehicle :=
  payload.row schoolId (env.uuid db.vehicles.keys) env.now

def Db.insertVehicle (db : Db) (env : Env) (schoolId : Uuid)
    (payload : VehicleWritePayload OptionalVehicleFields) : Db :=
  { db with
    vehicles := db.vehicles.insert (db.nextVehicle env schoolId payload) (env.uuid_fresh _) }

def DrivingSchool.withDefaultVehicle (vehicleId : Uuid) (s : DrivingSchool) : DrivingSchool :=
  { s with defaultVehicleId := some vehicleId }

@[simp] theorem DrivingSchool.id_withDefaultVehicle (vehicleId : Uuid) (s : DrivingSchool) :
    (s.withDefaultVehicle vehicleId).id = s.id := rfl

def Db.setDefaultVehicle (db : Db) (schoolId vehicleId : Uuid) : Db :=
  { db with
    drivingSchools := db.drivingSchools.update schoolId
      (DrivingSchool.withDefaultVehicle vehicleId)
      (DrivingSchool.id_withDefaultVehicle vehicleId) }

/-- The first active vehicle of a school becomes its default. -/
def writeNewVehicle (env : Env) (schoolId : Uuid)
    (payload : VehicleWritePayload OptionalVehicleFields) : Service VehicleResponse :=
  Prog.transaction do
    let activeVehicleCount ← Prog.query fun db => .ok (db.vehicles.count fun v =>
      decide (v.schoolId = schoolId ∧ v.isActive = true))
    Prog.query fun db => assertSupportedCourseTypeIdsExist db payload.supportedCourseTypeIds
    let vehicle ← Prog.query fun db => .ok (db.nextVehicle env schoolId payload)
    Prog.write fun db => db.insertVehicle env schoolId payload
    Prog.when (activeVehicleCount = 0)
      (Prog.write fun db => db.setDefaultVehicle schoolId vehicle.id)
    Prog.query fun db => .ok (vehicleToResponse db vehicle)

def schoolIdOrThrow : UuidParam → Except Failure Uuid
  | .missing => .error (.badRequest "schoolId is required")
  | .invalid => .error (.badRequest "Invalid schoolId")
  | .id schoolId => .ok schoolId

def createVehicleForUser (env : Env) (userId : Uuid) (body : UpsertVehicleBody) :
    Service VehicleResponse := do
  let payload ← parseVehicleWriteBodyOrThrow body.create
  let schoolId ← schoolIdOrThrow body.schoolId
  Prog.query fun db => throwIf ((getSchoolOwnedByUser db userId schoolId).isNone = true)
    (.forbidden "Forbidden")
  Prog.query fun db => assertVehicleRegistrationUnique db schoolId payload.registrationNumber
  writeNewVehicle env schoolId payload

/-! ### Editing -/

/-- The `data` of the update. -/
def Vehicle.patched (payload : VehicleWritePayload OptionalVehiclePatch) (v : Vehicle) : Vehicle :=
  { v with
    name := payload.name
    registrationNumber := payload.registrationNumber
    inspectionDate := payload.inspectionDate
    insuranceDate := payload.insuranceDate
    brand := payload.optional.brand.getD v.brand
    model := payload.optional.model.getD v.model
    photoUrl := payload.optional.photoUrl.getD v.photoUrl
    modelYear := payload.optional.modelYear.getD v.modelYear
    mileageKm := payload.optional.mileageKm.getD v.mileageKm
    note := payload.optional.note.getD v.note
    supportedCourseTypes := payload.supportedCourseTypeIds.getD v.supportedCourseTypes }

@[simp] theorem Vehicle.id_patched (payload : VehicleWritePayload OptionalVehiclePatch)
    (v : Vehicle) : (v.patched payload).id = v.id := rfl

def Db.patchVehicle (db : Db) (vehicleId : Uuid)
    (payload : VehicleWritePayload OptionalVehiclePatch) : Db :=
  { db with vehicles :=
      db.vehicles.update vehicleId (Vehicle.patched payload) (Vehicle.id_patched payload) }

def writeVehiclePatch (env : Env) (vehicleId : Uuid)
    (payload : VehicleWritePayload OptionalVehiclePatch) : Service VehicleResponse :=
  Prog.transaction do
    Prog.query fun db =>
      assertVehicleCategoriesCanChange env db vehicleId payload.supportedCourseTypeIds
    let row ← Prog.query fun db => orThrow (db.vehicles.findUnique vehicleId)
      (.other "Record to update not found")
    Prog.write fun db => db.patchVehicle vehicleId payload
    Prog.query fun db => .ok (vehicleToResponse db (row.patched payload))

/-- The active vehicle, if the user owns its school. -/
def loadActiveVehicleForOwnerOrThrow (db : Db) (userId vehicleId : Uuid) :
    Except Failure Vehicle := do
  let vehicle ← orThrow (db.vehicles.findUnique vehicleId) (.notFound "Vehicle not found")
  throwIf ((getSchoolOwnedByUser db userId vehicle.schoolId).isNone = true) (.forbidden "Forbidden")
  throwIf (vehicle.isActive = false) (.notFound "Vehicle not found")
  return vehicle

def patchVehicleForUser (env : Env) (userId vehicleId : Uuid) (body : UpsertVehicleBody) :
    Service VehicleResponse := do
  let payload ← parseVehicleWriteBodyOrThrow body.patch
  let existing ← Prog.query fun db => loadActiveVehicleForOwnerOrThrow db userId vehicleId
  Prog.query fun db => assertVehicleRegistrationUnique db existing.schoolId
    payload.registrationNumber (some vehicleId)
  writeVehiclePatch env vehicleId payload

/-- With the status of the response: 201 for a new vehicle. -/
def upsertVehicleForUser (env : Env) (userId : Uuid) (body : UpsertVehicleBody) :
    Service (ℕ × VehicleResponse) :=
  match body.id with
  | .invalid => Prog.query fun _ => throw (.badRequest "Invalid vehicle id")
  | .missing => do return (201, ← createVehicleForUser env userId body)
  | .id vehicleId => do return (200, ← patchVehicleForUser env userId vehicleId body)

def updateVehicleForUser (env : Env) (userId vehicleId : Uuid)
    (body : ParsedVehicleBody OptionalVehiclePatch) : Service VehicleResponse := do
  let vehicle ← Prog.query fun db => loadActiveVehicleForOwnerOrThrow db userId vehicleId
  let payload ← parseVehicleWriteBodyOrThrow body
  Prog.query fun db => assertVehicleRegistrationUnique db vehicle.schoolId
    payload.registrationNumber (some vehicleId)
  writeVehiclePatch env vehicleId payload

/-- The end of the unavailability is a day that the request schema has parsed. -/
structure VehicleAvailabilityStatusPayload where
  status : VehicleAvailabilityStatus
  unavailableUntil : Option Day := none

def Vehicle.withAvailability (payload : VehicleAvailabilityStatusPayload) (v : Vehicle) : Vehicle :=
  { v with
    availabilityStatus := payload.status
    unavailableUntil := if payload.status = .unavailable then payload.unavailableUntil else none }

@[simp] theorem Vehicle.id_withAvailability (payload : VehicleAvailabilityStatusPayload)
    (v : Vehicle) : (v.withAvailability payload).id = v.id := rfl

def Db.setVehicleAvailability (db : Db) (vehicleId : Uuid)
    (payload : VehicleAvailabilityStatusPayload) : Db :=
  { db with
    vehicles := db.vehicles.update vehicleId (Vehicle.withAvailability payload)
      (Vehicle.id_withAvailability payload) }

def updateVehicleStatusForUser (userId vehicleId : Uuid)
    (payload : VehicleAvailabilityStatusPayload) : Service VehicleResponse := do
  let row ← Prog.query fun db => loadActiveVehicleForOwnerOrThrow db userId vehicleId
  Prog.write fun db => db.setVehicleAvailability vehicleId payload
  Prog.query fun db => .ok (vehicleToResponse db (row.withAvailability payload))

def Vehicle.withPhoto (photoUrl : String) (v : Vehicle) : Vehicle :=
  { v with photoUrl := some photoUrl }

@[simp] theorem Vehicle.id_withPhoto (photoUrl : String) (v : Vehicle) :
    (v.withPhoto photoUrl).id = v.id := rfl

def Db.setVehiclePhoto (db : Db) (vehicleId : Uuid) (photoUrl : String) : Db :=
  { db with
    vehicles := db.vehicles.update vehicleId (Vehicle.withPhoto photoUrl)
      (Vehicle.id_withPhoto photoUrl) }

/-- The checks of the file come first; the storage answers with the public address. -/
def uploadVehiclePhotoForUser (file : Except Failure Unit) (upload : Except Failure String)
    (userId vehicleId : Uuid) : Service (Option String) := do
  file
  Prog.query fun db => do
    let row ← orThrow (db.vehicles.findUnique vehicleId) (.notFound "Vehicle not found")
    throwIf ((getSchoolOwnedByUser db userId row.schoolId).isNone = true) (.forbidden "Forbidden")
  let publicUrl ← upload
  Prog.write fun db => db.setVehiclePhoto vehicleId publicUrl
  return some publicUrl

/-! ### Deleting -/

/-- The vehicles of pending lessons and drives; the source collects them into a set. -/
def getVehiclesWithUpcomingLessons (db : Db) (vehicleIds : List Uuid) (now : Instant) : List Uuid :=
  let listed (vehicleId : Option Uuid) : Bool := vehicleId.any fun id => decide (id ∈ vehicleIds)
  let lessons := db.lessons.findMany fun l => listed l.vehicleId && l.isPending now
  let events := db.instructorEvents.findMany fun e =>
    listed e.vehicleId && decide (e.type = .drive) && e.isPending now
  lessons.filterMap Lesson.vehicleId ++ events.filterMap InstructorEvent.vehicleId

def DrivingSchool.withoutDefaultVehicle (s : DrivingSchool) : DrivingSchool :=
  { s with defaultVehicleId := none }

@[simp] theorem DrivingSchool.id_withoutDefaultVehicle (s : DrivingSchool) :
    s.withoutDefaultVehicle.id = s.id := rfl

def Db.clearDefaultVehicle (db : Db) (schoolId : Uuid) : Db :=
  { db with
    drivingSchools := db.drivingSchools.update schoolId DrivingSchool.withoutDefaultVehicle
      DrivingSchool.id_withoutDefaultVehicle }

def Vehicle.deleted (v : Vehicle) : Vehicle := { v with isActive := false }

@[simp] theorem Vehicle.id_deleted (v : Vehicle) : v.deleted.id = v.id := rfl

def Db.deleteVehicle (db : Db) (vehicleId : Uuid) : Db :=
  { db with vehicles := db.vehicles.update vehicleId Vehicle.deleted Vehicle.id_deleted }

/-- The default vehicle is deleted only when it is the last one of its school. The text of the
request is compared with the default and with the vehicles of the bookings; the queries take it
as an id. -/
def assertVehicleCanBeDeleted (env : Env) (db : Db) (vehicleId : UuidText) (schoolId : Uuid)
    (school : DrivingSchool) : Except Failure Unit := do
  onlyIf (school.defaultVehicleId.map .ofUuid = some vehicleId) do
    let otherActiveVehicles := db.vehicles.count fun v =>
      decide (v.schoolId = schoolId ∧ v.isActive = true ∧ v.id ≠ vehicleId.uuid)
    throwIf (otherActiveVehicles > 0) (.conflict
      "Nie można usunąć domyślnego pojazdu. Najpierw wybierz inny pojazd domyślny.")
  let booked := getVehiclesWithUpcomingLessons db [vehicleId.uuid] env.now
  throwIf (vehicleId ∈ booked.map .ofUuid)
    (.conflict "Nie można usunąć pojazdu z trwającymi lub zaplanowanymi lekcjami.")

def deleteActiveVehicle (env : Env) (vehicleId : UuidText) (schoolId : Uuid)
    (school : DrivingSchool) : Service Unit := do
  Prog.query fun db => assertVehicleCanBeDeleted env db vehicleId schoolId school
  Prog.when (school.defaultVehicleId.map .ofUuid = some vehicleId)
    (Prog.write fun db => db.clearDefaultVehicle schoolId)
  Prog.write fun db => db.deleteVehicle vehicleId.uuid

def deleteVehicleForUser (env : Env) (userId : Uuid) (vehicleId : UuidText) : Service UuidText :=
  Prog.transaction do
    let loaded ← Prog.query fun db => orThrow (db.vehicles.findUnique vehicleId.uuid)
      (.notFound "Vehicle not found")
    let school ← Prog.query fun db => orThrow (getSchoolOwnedByUser db userId loaded.schoolId)
      (.forbidden "Forbidden")
    Prog.when loaded.isActive (deleteActiveVehicle env vehicleId loaded.schoolId school)
    return vehicleId

end OSK
