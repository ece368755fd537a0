import OskManager.Model.Vehicles

/-! Issues of an availability check and the rules that report them:
`schedule-validation/checkTypes.ts` and `schedule-validation/checkIssues.ts`. -/

namespace OSK

open Relational

inductive ScheduleAvailabilityIssueCode where
  | durationTooShort | durationTooLong | instructorBusy | outsideInstructorHours
  | instructorNotEligible | participantBusy | studentBusy | studentNotEligible
  | courseLimitExceeded | dateNotBookable | vehicleCourseTypeMismatch | vehicleUnavailable
  | vehicleBusy | noVehicleAvailable | courseNotEligible
  deriving DecidableEq, Repr

inductive IssueField where
  | date | startTime | endTime | instructorId | vehicleId | studentId | courseId
  deriving DecidableEq, Repr

structure ScheduleAvailabilityIssue where
  code : ScheduleAvailabilityIssueCode
  field : IssueField
  deriving DecidableEq, Repr

/-- The code a domain reason has in common with the issues, if there is one. -/
def ScheduleDomainReason.issueCode : ScheduleDomainReason → Option ScheduleAvailabilityIssueCode
  | .courseLimitExceeded => some .courseLimitExceeded
  | .dateNotBookable => some .dateNotBookable
  | .instructorBusy => some .instructorBusy
  | .noVehicleAvailable => some .noVehicleAvailable
  | .outsideInstructorHours => some .outsideInstructorHours
  | .participantBusy => some .participantBusy
  | .studentBusy => some .studentBusy
  | .vehicleCourseTypeMismatch => some .vehicleCourseTypeMismatch
  | .vehicleBusy => some .vehicleBusy
  | .vehicleUnavailable => some .vehicleUnavailable
  | .schoolClosed => none

structure ScheduleAlternative where
  startTime : ℤ
  endTime : ℤ
  durationMinutes : ℤ
  deriving DecidableEq

structure ScheduleAvailabilityAnswer where
  available : Bool
  issues : List ScheduleAvailabilityIssue
  policy : ScheduleDurationPolicy
  remainingMinutes : Option ℤ := none
  alternative : Option ScheduleAlternative := none
  deriving DecidableEq

/-- `date`, `startTime` and `endTime` of a request, as a Polish date and minutes of the day. -/
structure LocalWindow where
  date : Day
  startTime : ℤ
  endTime : ℤ

def LocalWindow.parse (zone : PolishZone) (w : LocalWindow) : Except Failure ScheduleWindow :=
  parsePolishScheduleWindow zone w.date w.startTime w.endTime

/-! ### Handlers -/

/-- `expectedClientError(error)`, then the given issue. -/
def expectedClientError (issue : ScheduleAvailabilityIssue) (error : Failure) :
    Except Failure ScheduleAvailabilityIssue :=
  if error.isClientError then return issue else throw error

/-- `expectedScheduleReason(error, reasons)`. -/
def expectedScheduleReason (reasons : List ScheduleDomainReason) (error : Failure) :
    Except Failure ScheduleDomainReason :=
  match error.reason with
  | some reason => if reason ∈ reasons then return reason else throw error
  | none => throw error

/-- `scheduleIssueCode(error, reasons)` with the field it is reported on. -/
def scheduleIssueCode (reasons : List ScheduleDomainReason) (field : IssueField)
    (error : Failure) : Except Failure ScheduleAvailabilityIssue := do
  let reason ← expectedScheduleReason reasons error
  let code ← orThrow reason.issueCode error
  return { code, field }

def lessonScheduleIssue (error : Failure) : Except Failure ScheduleAvailabilityIssue := do
  let issue ← scheduleIssueCode
    [.studentBusy, .courseLimitExceeded, .instructorBusy, .outsideInstructorHours]
    .instructorId error
  return { issue with field :=
    if issue.code = .studentBusy then .studentId
    else if issue.code = .courseLimitExceeded then .courseId
    else .instructorId }

/-! ### Rules -/

/-- `pushDurationIssue`; the duration is in milliseconds. -/
def durationIssues (durationMs : ℤ) (policy : ScheduleDurationPolicy) :
    List ScheduleAvailabilityIssue :=
  if durationMs < policy.minDurationMinutes * msPerMinute then
    [{ code := .durationTooShort, field := .endTime }]
  else if durationMs > policy.maxDurationMinutes * msPerMinute then
    [{ code := .durationTooLong, field := .endTime }]
  else []

def lessonDateIssues (env : Env) (start : Instant) (schoolId : Uuid) :
    Service (List ScheduleAvailabilityIssue) :=
  Prog.issues (Prog.query fun db => assertLessonTimeIsBookable env db start schoolId)
    fun error => do
      let _ ← expectedScheduleReason [.dateNotBookable, .schoolClosed] error
      return { code := .dateNotBookable, field := .date }

def lessonInstructorIssues (instructorId : Uuid) (course : CourseForBooking)
    (allowSubstitute : Bool := false) : Service (List ScheduleAvailabilityIssue) :=
  Prog.issues (Prog.query fun db =>
      assertInstructorCanBookCourse db instructorId course allowSubstitute)
    (expectedClientError { code := .instructorNotEligible, field := .instructorId })

def lessonScheduleIssues (zone : PolishZone) (params : LessonWindowParams) :
    Service (List ScheduleAvailabilityIssue) :=
  Prog.issues (Prog.query fun db => assertLessonSchedulingWindowAvailable zone db params)
    lessonScheduleIssue

/-- Issues that are looked for only under a condition. -/
def issuesWhen (c : Bool) (p : Service (List ScheduleAvailabilityIssue)) :
    Service (List ScheduleAvailabilityIssue) := if c then p else pure []

/-- Issues that are looked for only for a value that is there. -/
def issuesFor (x : Option Uuid) (f : Uuid → Service (List ScheduleAvailabilityIssue)) :
    Service (List ScheduleAvailabilityIssue) := x.elim (pure []) f

end OSK
