import OskManager.Model.EventConflicts
import OskManager.Model.RequestIds

/-! Writes of instructor events: `event/writeModel.ts`, `event/bulkStatus.ts` and
`event/deleteEvent.ts`. An edit reads the row first and writes in a transaction later, so
the two phases are programs of their own. -/

namespace OSK

open Relational

structure InstructorEventDto where
  id : Uuid
  instructorId : Uuid
  schoolId : Uuid
  type : EventType
  status : EventStatus
  courseId : Option Uuid
  startTime : Instant
  endTime : Instant
  vehicleId : Option Uuid
  capacity : Option ℤ
  createdAt : Instant
  deriving DecidableEq

def mapInstructorEventWriteDto (row : InstructorEvent) : InstructorEventDto where
  id := row.id
  instructorId := row.instructorId
  schoolId := row.schoolId
  type := row.type
  status := row.status
  courseId := row.courseId
  startTime := row.startTime
  endTime := row.endTime
  vehicleId := row.vehicleId
  capacity := row.capacity
  createdAt := row.createdAt

/-! ### Creating -/

structure CreateInstructorEventBody where
  instructorId : Uuid
  type : EventType
  startTime : Instant
  endTime : Instant
  vehicleId : Option Uuid := none
  capacity : Option ℤ := none
  courseId : Option Uuid := none

/-- The row a body creates, with the defaults of the table. -/
def CreateInstructorEventBody.row (body : CreateInstructorEventBody) (schoolId : Uuid)
    (vehicleId : Option Uuid) (id : Uuid) (createdAt : Instant) : InstructorEvent where
  id
  instructorId := body.instructorId
  schoolId
  courseId := body.courseId
  type := body.type
  startTime := body.startTime
  endTime := body.endTime
  vehicleId
  capacity := body.capacity
  createdAt

/-- The event ids in use, as a key or in a reference. -/
def Db.takenEventIds (db : Db) : List Uuid :=
  db.instructorEvents.keys ++ db.eventParticipants.rows.map EventParticipant.eventId

theorem Db.fresh_event_key (db : Db) (env : Env) :
    env.uuid db.takenEventIds ∉ db.instructorEvents.keys := fun h =>
  env.uuid_fresh db.takenEventIds (List.mem_append_left _ h)

/-- The row of the body under the next id. -/
def Db.nextEvent (db : Db) (env : Env) (body : CreateInstructorEventBody) (schoolId : Uuid)
    (vehicleId : Option Uuid) : InstructorEvent :=
  body.row schoolId vehicleId (env.uuid db.takenEventIds) env.now

def Db.insertEvent (db : Db) (env : Env) (body : CreateInstructorEventBody) (schoolId : Uuid)
    (vehicleId : Option Uuid) : Db :=
  let row := db.nextEvent env body schoolId vehicleId
  { db with instructorEvents := db.instructorEvents.insert row (db.fresh_event_key env) }

def createEventRow (env : Env) (body : CreateInstructorEventBody) (schoolId : Uuid)
    (vehicleId : Option Uuid) : Service InstructorEvent := fun db =>
  (.ok (db.nextEvent env body schoolId vehicleId), db.insertEvent env body schoolId vehicleId)

/-- `if (type === DRIVE) { … }` before the transaction of a create or an edit. -/
def validateDriveVehicle (env : Env) (type : EventType) (instructorId : Uuid)
    (vehicleId : Option Uuid) (requireAvailable : Bool) : Service Unit :=
  Prog.when (type = .drive) do
    let vehicleId ← orThrow vehicleId
      (Failure.badRequest "vehicleId is required for DRIVE events")
    validateVehicleForInstructor env instructorId vehicleId requireAvailable

def createInstructorEvent (env : Env) (actor : Actor) (body : CreateInstructorEventBody) :
    Service InstructorEventDto := do
  Prog.query fun db => assertActorCanManageAvailability db actor body.instructorId
  Prog.query fun db => resolveActiveInstructorProfile db body.instructorId
  let schoolId ← Prog.query fun db =>
    resolveInstructorEventSchoolId db body.instructorId body.courseId body.vehicleId
  Prog.query fun db => forSome body.courseId fun courseId =>
    assertCourseEligibleForInstructorEvent db body.instructorId courseId
  validateDriveVehicle env body.type body.instructorId body.vehicleId true
  let resolvedVehicleId := if body.type = .drive then body.vehicleId else none
  let row ← Prog.transaction do
    let _ ← Prog.query fun db =>
      assertScheduleDurationAllowed db schoolId (.event body.type) body.startTime body.endTime
    Prog.query fun db => assertInstructorEventWindowAvailable env.zone db
      { instructorId := body.instructorId, start := body.startTime, stop := body.endTime }
    Prog.query fun db => onlyIf (body.type = .drive) (forSome resolvedVehicleId fun vehicleId =>
      assertVehicleAvailableForEventWindow db vehicleId body.startTime body.endTime)
    createEventRow env body schoolId resolvedVehicleId
  return mapInstructorEventWriteDto row

/-! ### Editing -/

structure PatchInstructorEventBody where
  instructorId : Option UuidText := none
  type : Option EventType := none
  status : Option EventStatus := none
  startTime : Option Instant := none
  endTime : Option Instant := none
  vehicleId : Option (Option UuidText) := none
  capacity : Option (Option ℤ) := none

/-- The columns an edit computes from the row it read and the body. -/
structure MergedEvent where
  instructorId : UuidText
  courseId : Option Uuid
  type : EventType
  status : EventStatus
  start : Instant
  stop : Instant
  vehicleId : Option UuidText
  capacity : Option ℤ
  deriving DecidableEq

def mergeEvent (current : InstructorEvent) (body : PatchInstructorEventBody) : MergedEvent where
  instructorId := body.instructorId.getD (.ofUuid current.instructorId)
  courseId := current.courseId
  type := body.type.getD current.type
  status := body.status.getD current.status
  start := body.startTime.getD current.startTime
  stop := body.endTime.getD current.endTime
  vehicleId := body.vehicleId.getD (current.vehicleId.map .ofUuid)
  capacity := body.capacity.getD current.capacity

/-- The instructor whom the patch names, however it spells the id. -/
def PatchInstructorEventBody.instructorUuid (body : PatchInstructorEventBody) : Option Uuid :=
  body.instructorId.map UuidText.uuid

/-- The vehicle that the patch names; the inner `none` takes the vehicle away. -/
def PatchInstructorEventBody.vehicleUuid (body : PatchInstructorEventBody) :
    Option (Option Uuid) :=
  body.vehicleId.map (Option.map UuidText.uuid)

theorem uuid_instructorId_mergeEvent (current : InstructorEvent)
    (body : PatchInstructorEventBody) :
    (mergeEvent current body).instructorId.uuid =
      body.instructorUuid.getD current.instructorId := by
  unfold mergeEvent PatchInstructorEventBody.instructorUuid
  cases body.instructorId <;> rfl

theorem uuid_vehicleId_mergeEvent (current : InstructorEvent) (body : PatchInstructorEventBody) :
    (mergeEvent current body).vehicleId.map UuidText.uuid =
      body.vehicleUuid.getD current.vehicleId := by
  unfold mergeEvent PatchInstructorEventBody.vehicleUuid
  cases body.vehicleId with
  | none => exact UuidText.map_uuid_ofUuid _
  | some _ => rfl

namespace MergedEvent

variable (merged : MergedEvent) (current : InstructorEvent)

def timeChanged : Bool :=
  decide (merged.start ≠ current.startTime ∨ merged.stop ≠ current.endTime)

def vehicleChanged : Bool := decide (merged.vehicleId ≠ current.vehicleId.map .ofUuid)

def typeChanged : Bool := decide (merged.type ≠ current.type)

def instructorChanged : Bool := decide (merged.instructorId ≠ .ofUuid current.instructorId)

def resolvedVehicleId : Option Uuid :=
  if merged.type = .drive then merged.vehicleId.map UuidText.uuid else none

end MergedEvent

/-- What the read phase of an edit hands to its write phase. -/
structure PreparedEventUpdate where
  current : InstructorEvent
  merged : MergedEvent
  schoolId : Uuid
  deriving DecidableEq

def prepareEventUpdate (env : Env) (actor : Actor) (eventId : Uuid)
    (body : PatchInstructorEventBody) : Service PreparedEventUpdate := do
  let current ← Prog.query fun db => orThrow (db.instructorEvents.findUnique eventId)
    (.notFound "Event not found")
  throwIf (current.isActive = false) (Failure.notFound "Event not found")
  Prog.query fun db => assertActorCanManageAvailability db actor current.instructorId
  Prog.query fun db => forSome body.instructorId fun instructorId =>
    onlyIf (instructorId ≠ .ofUuid current.instructorId) do
      assertActorCanManageAvailability db actor instructorId.uuid
      resolveActiveInstructorProfile db instructorId.uuid
  let merged := mergeEvent current body
  throwIf (merged.start ≥ merged.stop) (Failure.badRequest "startTime must be before endTime")
  Prog.query fun db => forSome merged.courseId fun courseId =>
    onlyIf (merged.type = .theory ∧ (body.instructorId ≠ none ∨ body.type ≠ none))
      (assertCourseEligibleForInstructorEvent db merged.instructorId.uuid courseId)
  validateDriveVehicle env merged.type merged.instructorId.uuid
    (merged.vehicleId.map UuidText.uuid)
    (merged.timeChanged current || merged.vehicleChanged current ||
      merged.typeChanged current || merged.instructorChanged current)
  let schoolId ← Prog.query fun db =>
    resolveInstructorEventSchoolId db merged.instructorId.uuid merged.courseId
      merged.resolvedVehicleId
  return { current, merged, schoolId }

def InstructorEvent.rewritten (u : PreparedEventUpdate) (e : InstructorEvent) : InstructorEvent :=
  { e with
    instructorId := u.merged.instructorId.uuid
    schoolId := u.schoolId
    type := u.merged.type
    status := u.merged.status
    startTime := u.merged.start
    endTime := u.merged.stop
    vehicleId := u.merged.resolvedVehicleId
    capacity := u.merged.capacity }

@[simp] theorem InstructorEvent.id_rewritten (u : PreparedEventUpdate) (e : InstructorEvent) :
    (e.rewritten u).id = e.id := rfl

def Db.rewriteEvent (db : Db) (eventId : Uuid) (u : PreparedEventUpdate) : Db :=
  let rewritten := db.instructorEvents.update eventId (InstructorEvent.rewritten u)
    (InstructorEvent.id_rewritten u)
  { db with instructorEvents := rewritten }

/-- `tx.instructorEvent.update`, which fails when the row is gone. -/
def updateEventRow (eventId : Uuid) (u : PreparedEventUpdate) : Service InstructorEvent := do
  let row ← Prog.query fun db => orThrow (db.instructorEvents.findUnique eventId)
    (.other "Record to update not found")
  Prog.write fun db => db.rewriteEvent eventId u
  return row.rewritten u

/-- The rules checked inside the transaction of an edit. -/
def assertEventUpdateAllowed (zone : PolishZone) (db : Db) (eventId : Uuid)
    (body : PatchInstructorEventBody) (u : PreparedEventUpdate) : Except Failure Unit := do
  let merged := u.merged
  let timeChanged := merged.timeChanged u.current
  let instructorChanged := merged.instructorChanged u.current
  onlyIf (merged.type = .drive ∧ merged.status ≠ .cancelled)
    (forSome merged.courseId fun courseId => forSome merged.resolvedVehicleId fun vehicleId =>
      assertVehicleSupportsCourse db vehicleId courseId)
  onlyIf (timeChanged = true ∨ body.type ≠ none) do
    let _ ← assertScheduleDurationAllowed db u.schoolId (.event merged.type) merged.start
      merged.stop
    return ()
  onlyIf (timeChanged = true ∨ instructorChanged = true)
    (assertInstructorEventWindowAvailable zone db
      { instructorId := merged.instructorId.uuid, start := merged.start, stop := merged.stop
        eventId := some eventId, checkExistingParticipantsForEventId := some eventId })
  onlyIf (merged.type = .drive ∧ (timeChanged = true ∨ merged.vehicleChanged u.current = true ∨
      merged.typeChanged u.current = true ∨ instructorChanged = true))
    (forSome merged.resolvedVehicleId fun vehicleId =>
      assertVehicleAvailableForEventWindow db vehicleId merged.start merged.stop (some eventId))
  assertEventCapacityFitsParticipants db eventId merged.capacity

def writeEventUpdate (env : Env) (eventId : Uuid) (body : PatchInstructorEventBody)
    (u : PreparedEventUpdate) : Service InstructorEventDto := do
  let row ← Prog.transaction do
    Prog.query fun db => assertEventUpdateAllowed env.zone db eventId body u
    updateEventRow eventId u
  return mapInstructorEventWriteDto row

def updateInstructorEvent (env : Env) (actor : Actor) (eventId : Uuid)
    (body : PatchInstructorEventBody) : Service InstructorEventDto := do
  let u ← prepareEventUpdate env actor eventId body
  writeEventUpdate env eventId body u

/-! ### Deleting -/

def InstructorEvent.deactivated (e : InstructorEvent) : InstructorEvent :=
  { e with isActive := false }

@[simp] theorem InstructorEvent.id_deactivated (e : InstructorEvent) : e.deactivated.id = e.id :=
  rfl

def Db.deactivateEvent (db : Db) (eventId : Uuid) : Db :=
  let deactivated := db.instructorEvents.update eventId InstructorEvent.deactivated
    InstructorEvent.id_deactivated
  { db with instructorEvents := deactivated }

def deleteInstructorEvent (actor : Actor) (eventId : Uuid) : Service Unit := do
  let event ← Prog.query fun db => orThrow (db.instructorEvents.findUnique eventId)
    (.notFound "Event not found")
  throwIf (event.isActive = false) (Failure.badRequest "Event is already inactive")
  Prog.query fun db => assertActorCanManageAvailability db actor event.instructorId
  Prog.write fun db => db.deactivateEvent eventId

/-! ### Changing many statuses -/

structure BulkUpdateEventStatusBody where
  status : EventStatus
  eventIds : List Uuid

structure BulkResult where
  updated : ℕ
  skipped : ℕ
  deriving DecidableEq

/-- The listed active events that the actor may change. -/
def bulkAllowedEventIds (db : Db) (actor : Actor) (uniqueIds : List Uuid) :
    Except Failure (List Uuid) := do
  let events := db.instructorEvents.findMany fun e =>
    decide (e.id ∈ uniqueIds ∧ e.isActive = true)
  match actor.role with
  | .admin => return events.map InstructorEvent.id
  | .instructor =>
    let profile ← orThrow (db.instructorProfiles.findFirst fun p => decide (p.userId = actor.id))
      (.notFound "Instructor profile not found")
    return (events.filter fun e => decide (e.instructorId = profile.id)).map InstructorEvent.id
  | .manager =>
    return (events.filter fun e =>
      (activeSchoolLink db e.instructorId fun s => decide (s.ownerId = actor.id)).isSome).map
        InstructorEvent.id
  | .student => throw (.forbidden "Forbidden")

/-- The rule on each drive that is planned again: its vehicle still fits its course. -/
def assertDriveCanBePlanned (db : Db) (drive : InstructorEvent) : Except Failure Unit := do
  let vehicleId ← orThrow drive.vehicleId
    (.badRequestFor .vehicleUnavailable "Wybierz pojazd dla jazdy.")
  forSome drive.courseId fun courseId => assertVehicleSupportsCourse db vehicleId courseId

def InstructorEvent.withStatus (status : EventStatus) (e : InstructorEvent) : InstructorEvent :=
  { e with status := status }

@[simp] theorem InstructorEvent.id_withStatus (status : EventStatus) (e : InstructorEvent) :
    (e.withStatus status).id = e.id := rfl

def Db.setEventStatuses (db : Db) (eventIds : List Uuid) (status : EventStatus) : Db :=
  let listed (e : InstructorEvent) : Bool := decide (e.id ∈ eventIds)
  let updated := db.instructorEvents.updateMany listed (InstructorEvent.withStatus status)
    (InstructorEvent.id_withStatus status)
  { db with instructorEvents := updated }

def bulkUpdateEventStatus (actor : Actor) (body : BulkUpdateEventStatusBody) :
    Service BulkResult := do
  throwIf (actor.role = .student) (Failure.forbidden "Forbidden")
  let uniqueIds := body.eventIds.eraseDups
  let allowedEventIds ← Prog.query fun db => bulkAllowedEventIds db actor uniqueIds
  if allowedEventIds = [] then
    return { updated := 0, skipped := uniqueIds.length }
  let count ← Prog.transaction do
    Prog.query fun db => onlyIf (body.status = .planned) (forEach (assertDriveCanBePlanned db)
      (db.instructorEvents.findMany fun e =>
        decide (e.id ∈ allowedEventIds ∧ e.type = .drive ∧ e.courseId ≠ none)))
    let count ← Prog.query fun db =>
      .ok (db.instructorEvents.count fun e => decide (e.id ∈ allowedEventIds))
    Prog.write fun db => db.setEventStatuses allowedEventIds body.status
    return count
  return { updated := count, skipped := uniqueIds.length - count }

end OSK
