import OskManager.Model.VehicleCommands

/-! The schools of an owner and their defaults: `driving-school/commands.ts`,
`driving-school/access.ts`, `driving-school/shared.ts` and `oskContext.ts`. -/

namespace OSK

open Relational

def loadOwnedActiveDrivingSchoolOrThrow (db : Db) (userId id : Uuid) :
    Except Failure DrivingSchool := do
  let school ← orThrow (db.drivingSchools.findUnique id) (.notFound "Driving school not found")
  throwIf (school.deletedAt ≠ none) (.notFound "Driving school not found")
  throwIf (school.ownerId ≠ userId) (.forbidden "Forbidden")
  return school

/-- The schools of an owner that are not deleted. -/
def Db.activeSchools (db : Db) (ownerId : Uuid) : List DrivingSchool :=
  db.drivingSchools.findMany fun s => decide (s.ownerId = ownerId ∧ s.deletedAt = none)

/-! ### The default school of an owner -/

def User.withStoredDefault (defaultOskId : Option Uuid) (u : User) : User := { u with defaultOskId }

@[simp] theorem User.id_withStoredDefault (defaultOskId : Option Uuid) (u : User) :
    (u.withStoredDefault defaultOskId).id = u.id := rfl

def Db.setDefaultOsk (db : Db) (userId : Uuid) (defaultOskId : Option Uuid) : Db :=
  { db with
    users := db.users.update userId (User.withStoredDefault defaultOskId)
      (User.id_withStoredDefault defaultOskId) }

/-- `user.update`, which fails for a user who is not there. -/
def updateDefaultOsk (userId : Uuid) (defaultOskId : Option Uuid) : Service Unit := do
  let _ ← Prog.query fun db => orThrow (db.users.findUnique userId)
    (.other "Record to update not found")
  Prog.write fun db => db.setDefaultOsk userId defaultOskId

/-- `owner?.defaultOskId ?? null`. -/
def Db.storedDefaultOsk (db : Db) (userId : Uuid) : Option Uuid :=
  (db.users.findUnique userId).bind User.defaultOskId

/-- `schools.reduce((a, b) => (a.createdAt <= b.createdAt ? a : b))`. -/
def earliest : List DrivingSchool → Option DrivingSchool
  | [] => none
  | school :: rest => some (rest.foldl (fun a b => if a.createdAt ≤ b.createdAt then a else b) school)

def reconcileUserDefaultOskId (userId : Uuid) (schools : List DrivingSchool)
    (storedDefaultId : Option Uuid) : Service (Option Uuid) :=
  if storedDefaultId.any (fun id => decide (id ∈ schools.map DrivingSchool.id)) then
    return storedDefaultId
  else match earliest schools with
    | some school => do
      updateDefaultOsk userId (some school.id)
      return some school.id
    | none => do
      Prog.when (storedDefaultId.isSome = true) (updateDefaultOsk userId none)
      return none

/-- The schools and the stored default, read again. -/
def reconcileAfter (userId : Uuid) : Service (Option Uuid) := do
  let schools ← Prog.query fun db => .ok (db.activeSchools userId)
  let stored ← Prog.query fun db => .ok (db.storedDefaultOsk userId)
  reconcileUserDefaultOskId userId schools stored

def getResolvedDefaultOskIdForOwner (userId : Uuid) : Service (Option Uuid) := reconcileAfter userId

def setDefaultDrivingSchoolForOwner (userId id : Uuid) : Service Uuid := do
  let school ← Prog.query fun db => loadOwnedActiveDrivingSchoolOrThrow db userId id
  updateDefaultOsk userId (some school.id)
  return school.id

/-! ### Adding -/

/-- The texts have been trimmed by the request schema. -/
structure CreateDrivingSchoolInput where
  name : String
  city : Option String := none
  address : Option String := none

structure DrivingSchoolDto where
  rest : DrivingSchool
  enabledCourseKinds : List CourseKind
  offeredCourseTypes : List CourseType

def mapSchoolWithOfferedSettings (db : Db) (school : DrivingSchool) : DrivingSchoolDto where
  rest := school
  enabledCourseKinds :=
    ((db.schoolSettings.findUnique school.id).map SchoolSettings.enabledCourseKinds).getD []
  offeredCourseTypes :=
    ((db.schoolSettings.findUnique school.id).map fun settings =>
      db.courseTypes.findMany fun t => decide (t.id ∈ settings.offeredCourseTypes)).getD []

def Db.nextSchool (db : Db) (env : Env) (userId : Uuid) (data : CreateDrivingSchoolInput) :
    DrivingSchool where
  id := env.uuid db.drivingSchools.keys
  name := data.name
  city := data.city
  address := data.address
  ownerId := userId
  createdAt := env.now

def Db.insertSchool (db : Db) (env : Env) (userId : Uuid) (data : CreateDrivingSchoolInput) : Db :=
  { db with
    drivingSchools :=
      db.drivingSchools.insert (db.nextSchool env userId data) (env.uuid_fresh _) }

def writeNewSchool (env : Env) (userId : Uuid) (data : CreateDrivingSchoolInput)
    (isFirstSchool : Bool) : Service DrivingSchoolDto :=
  Prog.transaction do
    let school ← Prog.query fun db => .ok (db.nextSchool env userId data)
    Prog.write fun db => db.insertSchool env userId data
    Prog.when isFirstSchool (updateDefaultOsk userId (some school.id))
    Prog.query fun db => .ok (mapSchoolWithOfferedSettings db school)

def createDrivingSchoolForOwner (env : Env) (userId : Uuid) (data : CreateDrivingSchoolInput) :
    Service DrivingSchoolDto := do
  let existingCount ← Prog.query fun db => .ok (db.activeSchools userId).length
  let isFirstSchool := decide (existingCount = 0)
  let newSchool ← writeNewSchool env userId data isFirstSchool
  Prog.when (!isFirstSchool) (Prog.discard (reconcileAfter userId))
  return newSchool

/-! ### Deleting -/

def DrivingSchool.deleted (now : Instant) (s : DrivingSchool) : DrivingSchool :=
  { s with deletedAt := some now }

@[simp] theorem DrivingSchool.id_deleted (now : Instant) (s : DrivingSchool) :
    (s.deleted now).id = s.id := rfl

def Db.deleteSchool (db : Db) (now : Instant) (id : Uuid) : Db :=
  { db with
    drivingSchools := db.drivingSchools.update id (DrivingSchool.deleted now)
      (DrivingSchool.id_deleted now) }

structure DeletedDrivingSchoolDto where
  id : UuidText
  defaultOskId : Option Uuid
  deriving DecidableEq

/-- `findFirst` with `orderBy: { createdAt: 'asc' }`: one of those created first. -/
def nextDefaultSchool (db : Db) (userId : Uuid) : Option DrivingSchool :=
  ((db.activeSchools userId).insertionSort fun a b => a.createdAt ≤ b.createdAt).head?

/-- The stored default is compared with the text of the request. -/
def writeSchoolDeletion (env : Env) (userId : Uuid) (id : UuidText) :
    Service DeletedDrivingSchoolDto :=
  Prog.transaction do
    let stored ← Prog.query fun db => .ok (db.storedDefaultOsk userId)
    Prog.write fun db => db.deleteSchool env.now id.uuid
    if stored.map .ofUuid = some id then do
      let next ← Prog.query fun db => .ok (nextDefaultSchool db userId)
      let defaultOskId := next.map DrivingSchool.id
      updateDefaultOsk userId defaultOskId
      return { id, defaultOskId }
    else return { id, defaultOskId := stored }

def deleteDrivingSchoolForOwner (env : Env) (userId : Uuid) (id : UuidText) :
    Service DeletedDrivingSchoolDto := do
  let _ ← Prog.query fun db => loadOwnedActiveDrivingSchoolOrThrow db userId id.uuid
  let payload ← writeSchoolDeletion env userId id
  let defaultOskId ← reconcileAfter userId
  return { id := payload.id, defaultOskId }

/-! ### The default vehicle of a school -/

/-- The school has been loaded before; here only the vehicle is looked at again. -/
def writeDefaultVehicle (schoolId : UuidText) (vehicleId : Uuid) : Service Uuid :=
  Prog.transaction do
    Prog.query fun db => do
      let vehicle ← orThrow (db.vehicles.findUnique vehicleId) (.notFound "Vehicle not found")
      throwIf (vehicle.isActive = false) (.notFound "Vehicle not found")
      throwIf (.ofUuid vehicle.schoolId ≠ schoolId) (.forbidden "Forbidden")
    Prog.write fun db => db.setDefaultVehicle schoolId.uuid vehicleId
    return vehicleId

def setDefaultVehicleForDrivingSchoolOwner (userId : Uuid) (schoolId : UuidText)
    (vehicleId : Uuid) : Service Uuid := do
  let _ ← Prog.query fun db => loadOwnedActiveDrivingSchoolOrThrow db userId schoolId.uuid
  writeDefaultVehicle schoolId vehicleId

end OSK
