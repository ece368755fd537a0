import OskManager.Model.CheckIssues
import OskManager.Model.Events
import OskManager.Model.LessonChecks

/-! Availability checks of instructor events, `schedule-validation/eventChecks.ts`, and the
choice of the check by intent, `schedule-validation/check.ts`. -/

namespace OSK

open Relational

/-- The request schema admits a course for theory and a vehicle for drives only. -/
structure EventCreateCheckBody extends LocalWindow where
  instructorId : Uuid
  eventType : EventType
  vehicleId : Option Uuid := none
  courseId : Option Uuid := none
  drive_has_no_course : eventType = .drive → courseId = none := by decide
  theory_has_no_vehicle : eventType = .theory → vehicleId = none := by decide

def checkEventCreateAvailability (env : Env) (actor : Actor) (body : EventCreateCheckBody) :
    Service ScheduleAvailabilityAnswer := do
  Prog.query fun db => assertActorCanManageAvailability db actor body.instructorId
  Prog.query fun db => resolveActiveInstructorProfile db body.instructorId
  let window ← body.parse env.zone
  let schoolId ← Prog.query fun db =>
    resolveInstructorEventSchoolId db body.instructorId body.courseId body.vehicleId
  let policy ← Prog.query fun db =>
    .ok (resolveScheduleDurationPolicy db schoolId (.event body.eventType))
  let courseIssues ← Prog.issues (Prog.query fun db =>
      onlyIf (body.eventType = .theory) (forSome body.courseId fun courseId =>
        assertCourseEligibleForInstructorEvent db body.instructorId courseId))
    (expectedClientError { code := .courseNotEligible, field := .courseId })
  let vehicleIssues ← issuesFor (if body.eventType = .drive then body.vehicleId else none)
    fun vehicleId => Prog.issues
      (validateVehicleForInstructor env body.instructorId vehicleId true)
      (scheduleIssueCode [.vehicleUnavailable] .vehicleId)
  let lateIssues ← Prog.transaction do
    let windowIssues ← Prog.issues (Prog.query fun db =>
        assertInstructorEventWindowAvailable env.zone db
          { instructorId := body.instructorId, start := window.start, stop := window.stop })
      (scheduleIssueCode [.instructorBusy, .outsideInstructorHours] .instructorId)
    let busyIssues ← Prog.issues (Prog.query fun db =>
        onlyIf (body.eventType = .drive) (forSome body.vehicleId fun vehicleId =>
          assertVehicleAvailableForEventWindow db vehicleId window.start window.stop))
      (scheduleIssueCode [.vehicleBusy] .vehicleId)
    return windowIssues ++ busyIssues
  let issues := durationIssues window.durationMs policy ++ courseIssues ++ vehicleIssues ++
    lateIssues
  return { available := issues.isEmpty, issues, policy }

structure EventEditCheckBody extends LocalWindow where
  eventId : Uuid
  instructorId : UuidText
  vehicleId : Option UuidText := none

/-- The vehicle the edit is checked with; the request may leave a drive's vehicle out. -/
def EventEditCheckBody.checkedVehicleId (body : EventEditCheckBody) (current : InstructorEvent) :
    Option UuidText :=
  if current.type = .drive then body.vehicleId.or (current.vehicleId.map .ofUuid) else none

/-- The vehicle rules of a drive, before the bookings of the vehicle. -/
def assertEventVehicleFits (env : Env) (current : InstructorEvent) (instructorId vehicleId : Uuid) :
    Service Unit := do
  Prog.query fun db => forSome current.courseId fun courseId =>
    assertVehicleSupportsCourse db vehicleId courseId
  validateVehicleForInstructor env instructorId vehicleId true

def eventEditIssues (env : Env) (current : InstructorEvent) (instructorId : Uuid)
    (vehicleId : Option Uuid) (window : ScheduleWindow) (policy : ScheduleDurationPolicy)
    (timeChanged instructorChanged : Bool) : Service (List ScheduleAvailabilityIssue) := do
  let courseIssues ← Prog.issues (Prog.query fun db =>
      onlyIf (current.type = .theory ∧ instructorChanged = true)
        (forSome current.courseId fun courseId =>
          assertCourseEligibleForInstructorEvent db instructorId courseId))
    (expectedClientError { code := .courseNotEligible, field := .courseId })
  let vehicleIssues ← issuesFor (if current.type = .drive then vehicleId else none)
    fun vehicleId => Prog.issues
      (assertEventVehicleFits env current instructorId vehicleId)
      (scheduleIssueCode [.vehicleUnavailable, .vehicleCourseTypeMismatch] .vehicleId)
  let lateIssues ← Prog.transaction do
    let windowIssues ← issuesWhen (timeChanged || instructorChanged) (Prog.issues
      (Prog.query fun db => assertInstructorEventWindowAvailable env.zone db
        { instructorId, start := window.start, stop := window.stop, eventId := some current.id
          checkExistingParticipantsForEventId := some current.id })
      (scheduleIssueCode [.participantBusy, .instructorBusy, .outsideInstructorHours]
        .instructorId))
    let busyIssues ← Prog.issues (Prog.query fun db =>
        onlyIf (current.type = .drive) (forSome vehicleId fun vehicleId =>
          assertVehicleAvailableForEventWindow db vehicleId window.start window.stop
            (some current.id)))
      (scheduleIssueCode [.vehicleBusy] .vehicleId)
    return windowIssues ++ busyIssues
  return (if timeChanged then durationIssues window.durationMs policy else []) ++ courseIssues ++
    vehicleIssues ++ lateIssues

def checkEventEditAvailability (env : Env) (actor : Actor) (body : EventEditCheckBody) :
    Service ScheduleAvailabilityAnswer := do
  let current ← Prog.query fun db => orThrow
    ((db.instructorEvents.findUnique body.eventId).filter InstructorEvent.isActive)
    (.notFound "Event not found")
  Prog.query fun db => assertActorCanManageAvailability db actor current.instructorId
  let instructorChanged := decide (body.instructorId ≠ .ofUuid current.instructorId)
  Prog.query fun db => onlyIf (instructorChanged = true) do
    assertActorCanManageAvailability db actor body.instructorId.uuid
    resolveActiveInstructorProfile db body.instructorId.uuid
  throwIf (current.type = .theory ∧ body.vehicleId ≠ none)
    (Failure.badRequest "vehicleId is only allowed for DRIVE events")
  let window ← body.parse env.zone
  let vehicleId := body.checkedVehicleId current
  throwIf (current.type = .drive ∧ vehicleId = none)
    (Failure.badRequest "vehicleId is required for DRIVE events")
  let schoolId ← Prog.query fun db =>
    resolveInstructorEventSchoolId db body.instructorId.uuid current.courseId
      (vehicleId.map UuidText.uuid)
  let policy ← Prog.query fun db =>
    .ok (resolveScheduleDurationPolicy db schoolId (.event current.type))
  let timeChanged := decide (window.start ≠ current.startTime ∨ window.stop ≠ current.endTime)
  let vehicleChanged := decide (vehicleId ≠ current.vehicleId.map .ofUuid)
  if !timeChanged && !instructorChanged && !vehicleChanged then
    return { available := true, issues := [], policy }
  let issues ← eventEditIssues env current body.instructorId.uuid (vehicleId.map UuidText.uuid)
    window policy timeChanged instructorChanged
  return { available := issues.isEmpty, issues, policy }

/-! ### The check of a request -/

inductive ScheduleAvailabilityCheckBody where
  | lessonCreate (body : LessonCreateCheckBody)
  | lessonSelfBook (body : LessonSelfBookCheckBody)
  | lessonEdit (body : LessonEditCheckBody)
  | eventEdit (body : EventEditCheckBody)
  | eventCreate (body : EventCreateCheckBody)

def checkScheduleAvailability (env : Env) (actor : Actor) :
    ScheduleAvailabilityCheckBody → Service ScheduleAvailabilityAnswer
  | .lessonCreate body => checkLessonCreateAvailability env actor body
  | .lessonSelfBook body => checkLessonSelfBookAvailability env actor body
  | .lessonEdit body => checkLessonEditAvailability env actor body
  | .eventEdit body => checkEventEditAvailability env actor body
  | .eventCreate body => checkEventCreateAvailability env actor body

end OSK
