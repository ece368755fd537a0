import OskManager.Model.Vehicles

/-! The rules an instructor event's time, vehicle and participants must satisfy:
`event/conflicts.ts`, `event/writeConflicts.ts` and the school of an event in
`event/writeModel.ts`. -/

namespace OSK

open Relational

/-- The conflicting students of the window; the source collects them into a set. -/
def findStudentProfileIdsWithScheduleConflictsForEventWindow (db : Db) (eventId : Uuid)
    (start stop : Instant) (candidateProfileIds : List Uuid) : List Uuid :=
  let lessonRows := db.lessons.findMany fun l =>
    decide (l.studentId ∈ candidateProfileIds) && l.busyDuring start stop none
  let eventRows := db.eventParticipants.findMany fun p =>
    decide (p.studentId ∈ candidateProfileIds ∧ p.eventId ≠ eventId) &&
      p.busyDuring db start stop none
  lessonRows.map Lesson.studentId ++ eventRows.map EventParticipant.studentId

def assertNewParticipantNoScheduleConflicts (db : Db) (eventId studentProfileId : Uuid)
    (start stop : Instant) : Except Failure Unit :=
  let conflicting := findStudentProfileIdsWithScheduleConflictsForEventWindow db eventId start stop
    [studentProfileId]
  if studentProfileId ∈ conflicting then
    let lessonConflict := db.lessons.findFirst fun l =>
      decide (l.studentId = studentProfileId) && l.busyDuring start stop none
    throw (if lessonConflict.isSome then .conflict "Student has a conflicting driving lesson"
      else .conflict "Student has a conflicting scheduled event")
  else return ()

def eventStudentIds (db : Db) (eventId : Uuid) : List Uuid :=
  (db.eventParticipants.findMany fun p => decide (p.eventId = eventId)).map
    EventParticipant.studentId

def assertExistingParticipantsHaveFreeWindow (db : Db) (eventId : Uuid) (start stop : Instant) :
    Except Failure Unit :=
  let conflicting := findStudentProfileIdsWithScheduleConflictsForEventWindow db eventId start stop
    (eventStudentIds db eventId)
  throwIf (conflicting ≠ [])
    (.conflictFor .participantBusy "Time change conflicts with existing participant schedules")

structure EventWindowParams where
  instructorId : Uuid
  start : Instant
  stop : Instant
  eventId : Option Uuid := none
  checkExistingParticipantsForEventId : Option Uuid := none

def assertInstructorEventWindowAvailable (zone : PolishZone) (db : Db)
    (params : EventWindowParams) : Except Failure Unit := do
  let lessonConflict := db.lessons.findFirst fun l =>
    decide (l.instructorId = params.instructorId) && l.busyDuring params.start params.stop none
  throwIf (lessonConflict.isSome = true)
    (.conflictFor .instructorBusy "Time slot conflicts with a lesson")
  let eventConflict := db.instructorEvents.findFirst fun e =>
    decide (e.instructorId = params.instructorId) &&
      e.busyDuring params.start params.stop params.eventId
  throwIf (eventConflict.isSome = true)
    (.conflictFor .instructorBusy "Time slot conflicts with a scheduled block")
  assertInstructorTimeWindowAvailable zone db params.instructorId params.start params.stop
    params.eventId
  forSome params.checkExistingParticipantsForEventId fun eventId =>
    assertExistingParticipantsHaveFreeWindow db eventId params.start params.stop

def assertVehicleAvailableForEventWindow (db : Db) (vehicleId : Uuid) (start stop : Instant)
    (eventId : Option Uuid := none) : Except Failure Unit := do
  let vehicleLessonConflict := db.lessons.findFirst fun l =>
    decide (l.vehicleId = some vehicleId) && l.busyDuring start stop none
  throwIf (vehicleLessonConflict.isSome = true)
    (.conflictFor .vehicleBusy "Vehicle is already in use")
  let vehicleEventConflict := db.instructorEvents.findFirst fun e =>
    decide (e.vehicleId = some vehicleId ∧ e.type = .drive) && e.busyDuring start stop eventId
  throwIf (vehicleEventConflict.isSome = true)
    (.conflictFor .vehicleBusy "Vehicle is already in use")

def assertEventCapacityFitsParticipants (db : Db) (eventId : Uuid) (capacity : Option ℤ) :
    Except Failure Unit :=
  forSome capacity fun capacity =>
    throwIf (capacity < (eventStudentIds db eventId).length)
      (.conflict "Event capacity would be exceeded")

def resolveInstructorEventSchoolId (db : Db) (instructorId : Uuid) (courseId : Option Uuid)
    (vehicleId : Option Uuid) : Except Failure Uuid := do
  let link ← orThrow (activeSchoolLink db instructorId fun _ => true)
    (.unprocessableEntity "Instructor is not assigned to a driving school")
  forSome courseId fun courseId => do
    let course ← orThrow
      (db.courses.findFirst fun c => decide (c.id = courseId ∧ c.deletedAt = none))
      (.notFound "Course not found")
    throwIf (course.schoolId ≠ link.schoolId)
      (.unprocessableEntity "Course is not in the instructor driving school")
  forSome vehicleId fun vehicleId => do
    let vehicle ← orThrow (activeVehicle db vehicleId) (.notFound "Vehicle not found")
    throwIf (vehicle.schoolId ≠ link.schoolId)
      (.badRequest "Vehicle is not in the instructor driving school")
  return link.schoolId

end OSK
