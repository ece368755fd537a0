import OskManager.Model.EventConflicts

/-! Participants of an event: `event/participants.ts`, `event/participantWriteHelpers.ts`,
`event/participantValidation.ts` and `event/participantQueries.ts`. Assigning and replacing
read and validate first and write in a transaction later. -/

namespace OSK

open Relational

/-! ### Validation -/

def getUniqueStudentIdsOrThrow (studentIds : List Uuid) : Except Failure (List Uuid) := do
  let uniqueIds := studentIds.eraseDups
  throwIf (uniqueIds.length ≠ studentIds.length) (.badRequest "Duplicate studentIds in request")
  return uniqueIds

def loadParticipantWriteEvent (db : Db) (eventId : Uuid) : Except Failure InstructorEvent := do
  let event ← orThrow (db.instructorEvents.findUnique eventId) (.notFound "Event not found")
  throwIf (event.isActive = false) (.notFound "Event not found")
  return event

def assertEventTypeAllowsParticipants (eventType : EventType) : Except Failure Unit :=
  throwIf (eventType ≠ .theory)
    (.unprocessableEntity "Student participants are only supported for THEORY events")

def assertActorCanManageParticipantEvent (db : Db) (actor : Actor) (event : InstructorEvent) :
    Except Failure Unit := do
  assertActorCanManageAvailability db actor event.instructorId
  assertEventTypeAllowsParticipants event.type

/-- The pairs of user id and student profile id of the listed active students. -/
def loadActiveStudentUserIdToProfileIdMap (db : Db) (uniqueUserIds : List Uuid) :
    Except Failure (List (Uuid × Uuid)) := do
  let users := db.users.findMany fun u => decide (u.id ∈ uniqueUserIds)
  throwIf (users.length ≠ uniqueUserIds.length) (.notFound "One or more students not found")
  users.mapM fun user => do
    throwIf (user.deletedAt ≠ none ∨ user.role ≠ .student)
      (.notFound "One or more students not found")
    let profile ← orThrow (db.studentProfiles.findFirst fun p => decide (p.userId = user.id))
      (.notFound "One or more students not found")
    return (user.id, profile.id)

def resolveStudentProfileIdsOrThrow (db : Db) (studentUserIds : List Uuid) :
    Except Failure (List Uuid) := do
  let userIdToProfileId ← loadActiveStudentUserIdToProfileIdMap db studentUserIds
  studentUserIds.mapM fun studentUserId =>
    orThrow (userIdToProfileId.lookup studentUserId) (.notFound "One or more students not found")

def getSchoolIdsForEventParticipantValidation (db : Db) (actor : Actor) (instructorId : Uuid) :
    Except Failure (List Uuid) := do
  throwIf (actor.role ≠ .manager ∧ actor.role ≠ .admin) (.forbidden "Forbidden")
  let instructorSchools := db.instructorSchools.findMany fun l =>
    decide (l.instructorId = instructorId) &&
      (db.drivingSchools.findUnique l.schoolId).any fun s =>
        decide (s.deletedAt = none ∧ (actor.role = .manager → s.ownerId = actor.id))
  return instructorSchools.map InstructorSchool.schoolId

def assertStudentProfilesInAllowedSchools (db : Db) (studentProfileIds allowedSchoolIds : List Uuid) :
    Except Failure Unit :=
  onlyIf (studentProfileIds ≠ []) do
    throwIf (allowedSchoolIds = [])
      (.unprocessableEntity "No driving school context available for participant validation")
    forEach (fun studentProfileId =>
      let covered := db.studentSchools.findFirst fun s =>
        decide (s.studentId = studentProfileId ∧ s.schoolId ∈ allowedSchoolIds)
      throwIf (covered.isNone = true) (.unprocessableEntity
        "One or more students are not enrolled in a driving school linked to this event"))
      studentProfileIds

def assertStudentProfilesAllowedForEvent (db : Db) (actor : Actor) (instructorId : Uuid)
    (profileIds : List Uuid) (requireSchoolContext : Bool := false) : Except Failure Unit :=
  onlyIf (profileIds ≠ [] ∨ requireSchoolContext = true) do
    let allowedSchoolIds ← getSchoolIdsForEventParticipantValidation db actor instructorId
    throwIf (allowedSchoolIds = [])
      (.unprocessableEntity "Instructor is not linked to a driving school for this operation")
    assertStudentProfilesInAllowedSchools db profileIds allowedSchoolIds

def assertStudentProfilesInEventCourse (db : Db) (studentProfileIds : List Uuid)
    (courseId : Option Uuid) : Except Failure Unit :=
  forSome courseId fun courseId => forEach (fun studentProfileId =>
    let active := db.courseParticipants.findFirst fun p =>
      decide (p.courseId = courseId ∧ p.studentId = studentProfileId ∧ p.status = .active)
    throwIf (active.isNone = true) (.unprocessableEntity
      "One or more students are not active participants of the event course"))
    studentProfileIds

/-! ### Rows -/

def Db.insertParticipant (db : Db) (env : Env) (eventId studentId : Uuid)
    (h : (eventId, studentId) ∉ db.eventParticipants.keys) : Db :=
  let id := env.uuid (db.eventParticipants.rows.map EventParticipant.id)
  { db with eventParticipants :=
      db.eventParticipants.insert { id, eventId, studentId, createdAt := env.now } h }

/-- One row of `eventParticipant.createMany`; the unique index refuses a second one. -/
def createParticipant (env : Env) (eventId studentId : Uuid) : Service Unit := fun db =>
  if h : (eventId, studentId) ∈ db.eventParticipants.keys then
    (.error (.other "Unique constraint failed"), db)
  else (.ok (), db.insertParticipant env eventId studentId h)

def createParticipants (env : Env) (eventId : Uuid) : List Uuid → Service Unit
  | [] => pure ()
  | studentId :: rest => do
    createParticipant env eventId studentId
    createParticipants env eventId rest

def Db.removeParticipants (db : Db) (eventId : Uuid) (studentIds : List Uuid) : Db :=
  { db with eventParticipants :=
      db.eventParticipants.deleteMany fun p =>
        decide (p.eventId = eventId ∧ p.studentId ∈ studentIds) }

/-! ### Assigning -/

structure AssignStudentsToEventResult where
  assigned : ℕ
  skipped : ℕ
  deriving DecidableEq

structure PreparedAssignment where
  event : InstructorEvent
  profileIdsOrdered : List Uuid

def prepareAssignStudents (db : Db) (actor : Actor) (eventId : Uuid) (studentIds : List Uuid) :
    Except Failure PreparedAssignment := do
  let uniqueIds ← getUniqueStudentIdsOrThrow studentIds
  let event ← loadParticipantWriteEvent db eventId
  assertActorCanManageParticipantEvent db actor event
  let profileIdsOrdered ← resolveStudentProfileIdsOrThrow db uniqueIds
  assertStudentProfilesAllowedForEvent db actor event.instructorId profileIdsOrdered true
  return { event, profileIdsOrdered }

/-- The listed students that are not assigned yet. -/
def newProfileIds (db : Db) (eventId : Uuid) (profileIdsOrdered : List Uuid) : List Uuid :=
  profileIdsOrdered.filter fun id => decide (id ∉ eventStudentIds db eventId)

def assertAssignmentAllowed (db : Db) (eventId : Uuid) (prepared : PreparedAssignment) :
    Except Failure Unit := do
  let added := newProfileIds db eventId prepared.profileIdsOrdered
  forSome prepared.event.capacity fun capacity =>
    throwIf (((eventStudentIds db eventId).length + added.length : ℤ) > capacity)
      (.conflict "Event capacity would be exceeded")
  forEach (fun studentId => assertNewParticipantNoScheduleConflicts db eventId studentId
    prepared.event.startTime prepared.event.endTime) added

def writeAssignStudents (env : Env) (eventId : Uuid) (prepared : PreparedAssignment) :
    Service AssignStudentsToEventResult := Prog.transaction do
  let added ← Prog.query fun db => .ok (newProfileIds db eventId prepared.profileIdsOrdered)
  Prog.query fun db => assertAssignmentAllowed db eventId prepared
  createParticipants env eventId added
  return { assigned := added.length, skipped := prepared.profileIdsOrdered.length - added.length }

def assignStudentsToEvent (env : Env) (actor : Actor) (eventId : Uuid) (studentIds : List Uuid) :
    Service AssignStudentsToEventResult := do
  let prepared ← Prog.query fun db => prepareAssignStudents db actor eventId studentIds
  writeAssignStudents env eventId prepared

/-! ### Replacing -/

structure PreparedEventStudentReplacement where
  event : InstructorEvent
  studentUserIds : List Uuid
  studentProfileIds : List Uuid
  start : Instant
  stop : Instant

def prepareEventStudentReplacement (db : Db) (actor : Actor) (eventId : Uuid)
    (studentIds : List Uuid) (window : Option ScheduleWindow := none) :
    Except Failure PreparedEventStudentReplacement := do
  let studentUserIds ← getUniqueStudentIdsOrThrow studentIds
  let event ← loadParticipantWriteEvent db eventId
  assertActorCanManageParticipantEvent db actor event
  let studentProfileIds ← resolveStudentProfileIdsOrThrow db studentUserIds
  assertStudentProfilesAllowedForEvent db actor event.instructorId studentProfileIds
  assertStudentProfilesInEventCourse db studentProfileIds event.courseId
  return {
    event, studentUserIds, studentProfileIds
    start := (window.map ScheduleWindow.start).getD event.startTime
    stop := (window.map ScheduleWindow.stop).getD event.endTime }

inductive EventStudentsAvailabilityIssue where
  | eventCapacityExceeded
  | studentScheduleConflict (studentUserIds : List Uuid)
  deriving DecidableEq

def EventStudentsAvailabilityIssue.message : EventStudentsAvailabilityIssue → String
  | .eventCapacityExceeded => "Liczba kursantów przekracza limit miejsc wydarzenia."
  | .studentScheduleConflict _ =>
    "Co najmniej jeden kursant ma w tym czasie inną lekcję lub wydarzenie."

def getEventStudentReplacementIssues (db : Db) (prepared : PreparedEventStudentReplacement) :
    List EventStudentsAvailabilityIssue :=
  let conflicting := findStudentProfileIdsWithScheduleConflictsForEventWindow db prepared.event.id
    prepared.start prepared.stop prepared.studentProfileIds
  (if prepared.event.capacity.any (fun c => decide ((prepared.studentUserIds.length : ℤ) > c))
    then [.eventCapacityExceeded] else []) ++
  (if conflicting ≠ [] then
    [.studentScheduleConflict (((prepared.studentUserIds.zip prepared.studentProfileIds).filter
      fun pair => decide (pair.2 ∈ conflicting)).map Prod.fst)]
    else [])

def assertReplacementAllowed (db : Db) (prepared : PreparedEventStudentReplacement) :
    Except Failure Unit :=
  forSome (getEventStudentReplacementIssues db prepared).head? fun issue =>
    throw (.conflict issue.message)

def writeReplaceStudents (env : Env) (eventId : Uuid)
    (prepared : PreparedEventStudentReplacement) : Service Unit := Prog.transaction do
  Prog.query fun db => assertReplacementAllowed db prepared
  let existing ← Prog.query fun db => .ok (eventStudentIds db eventId)
  let toRemove := existing.filter fun id => decide (id ∉ prepared.studentProfileIds)
  let toAdd := prepared.studentProfileIds.filter fun id => decide (id ∉ existing)
  Prog.write fun db => db.removeParticipants eventId toRemove
  createParticipants env eventId toAdd

def replaceEventStudents (env : Env) (actor : Actor) (eventId : Uuid) (studentIds : List Uuid) :
    Service (List Uuid) := do
  let prepared ← Prog.query fun db => prepareEventStudentReplacement db actor eventId studentIds
  writeReplaceStudents env eventId prepared
  return prepared.studentUserIds.insertionSort (· ≤ ·)

/-! ### Removing -/

def getEventStudentUserIds (db : Db) (actor : Actor) (eventId : Uuid) :
    Except Failure (List Uuid) := do
  let event ← loadParticipantWriteEvent db eventId
  assertActorCanManageAvailability db actor event.instructorId
  let rows := (db.eventParticipants.findMany fun p => decide (p.eventId = eventId)).insertionSort
    fun a b => a.createdAt ≤ b.createdAt
  rows.mapM fun p => do
    let student ← orThrow (db.studentProfiles.findUnique p.studentId)
      (.other "Inconsistent query result: Field student is required")
    return student.userId

def removeStudentFromEvent (actor : Actor) (eventId studentUserId : Uuid) :
    Service (List Uuid) := do
  let profileIds ← Prog.query fun db => do
    let event ← loadParticipantWriteEvent db eventId
    assertActorCanManageParticipantEvent db actor event
    resolveStudentProfileIdsOrThrow db [studentUserId]
  let deleted ← Prog.query fun db => .ok (db.eventParticipants.count fun p =>
    decide (p.eventId = eventId ∧ p.studentId ∈ profileIds))
  Prog.write fun db => db.removeParticipants eventId profileIds
  throwIf (deleted = 0) (Failure.notFound "Student is not assigned to this event")
  let studentUserIds ← Prog.query fun db => getEventStudentUserIds db actor eventId
  return studentUserIds.insertionSort (· ≤ ·)

end OSK
