import OskManager.Model.EventChecks

/-! The start and end times offered for a day: `schedule-validation/options.ts`,
`optionsMatrix.ts`, `vehicleWindows.ts` and `schedule-validation/conflicts.ts`. -/

namespace OSK

open Relational

/-! ### The matrix -/

def availabilityOptionStepMinutes : ℤ := 15

/-- The values of `for (x = lo; x <= hi; x += step)`. -/
def stepsUpTo (lo hi step : ℤ) : List ℤ :=
  (List.range ((hi - lo) / step + 1).toNat).map fun k : ℕ => lo + k * step

/-- `Math.ceil(value / step) * step`. -/
def ceilTo (value step : ℤ) : ℤ := (value + step - 1) / step * step

structure ScheduleAvailabilityOption where
  startTime : ℤ
  endTimes : List ℤ
  deriving DecidableEq, Repr

def optionsInWindow (policy : ScheduleDurationPolicy) (startStepMinutes : ℤ)
    (window : TimeWindow) : List ScheduleAvailabilityOption :=
  let starts := stepsUpTo (ceilTo window.start startStepMinutes)
    (window.stop - policy.minDurationMinutes) startStepMinutes
  (starts.map fun start =>
    { startTime := start
      endTimes := stepsUpTo (start + policy.minDurationMinutes)
        (min (start + policy.maxDurationMinutes) window.stop) availabilityOptionStepMinutes
      : ScheduleAvailabilityOption }).filter fun o => o.endTimes ≠ []

def buildScheduleAvailabilityOptions (windows : List TimeWindow) (policy : ScheduleDurationPolicy)
    (startStepMinutes : ℤ) : List ScheduleAvailabilityOption :=
  windows.flatMap (optionsInWindow policy startStepMinutes)

/-! ### Windows of students and vehicles -/

def subtractStudentScheduleConflicts (zone : PolishZone) (db : Db) (studentIds : List Uuid)
    (date : Instant) (windows : List TimeWindow)
    (excludeLessonId excludeEventId : Option Uuid := none) : Except Failure (List TimeWindow) :=
  if studentIds = [] ∨ windows = [] then return windows
  else do
    let day ← polishDayRange zone date
    let lessons := db.lessons.findMany fun l =>
      decide (l.studentId ∈ studentIds) && l.busyDuring day.start day.stop excludeLessonId
    let participations := db.eventParticipants.findMany fun p =>
      decide (p.studentId ∈ studentIds) && p.busyDuring db day.start day.stop excludeEventId
    let used :=
      (lessons.map fun row => timeWindowFromDates zone row.startTime row.endTime day) ++
      (participations.filterMap fun p => (db.instructorEvents.findUnique p.eventId).map
        fun event => timeWindowFromDates zone event.startTime event.endTime day)
    return windows.flatMap fun window => subtractWindows window used

structure VehicleWindowsInput where
  schoolId : Uuid
  date : Instant
  instructorWindows : List TimeWindow
  policy : ScheduleDurationPolicy
  startStepMinutes : ℤ
  excludeLessonId : Option Uuid := none
  excludeEventId : Option Uuid := none
  courseTypeId : Option Uuid := none

/-- The minutes of the day in which a vehicle is booked. -/
def vehicleUsedWindows (zone : PolishZone) (db : Db) (input : VehicleWindowsInput)
    (day : ScheduleWindow) (vehicleId : Uuid) : List TimeWindow :=
  let lessons := db.lessons.findMany fun l =>
    decide (l.vehicleId = some vehicleId) && l.busyDuring day.start day.stop input.excludeLessonId
  let events := db.instructorEvents.findMany fun e =>
    decide (e.vehicleId = some vehicleId ∧ e.type = .drive) &&
      e.busyDuring day.start day.stop input.excludeEventId
  (lessons.map fun row => timeWindowFromDates zone row.startTime row.endTime day) ++
  (events.map fun row => timeWindowFromDates zone row.startTime row.endTime day)

/-- The ids of the vehicles that can be offered. -/
def offeredVehicleIds (db : Db) (input : VehicleWindowsInput) : List Uuid :=
  (db.vehicles.findMany fun v =>
    decide (v.schoolId = input.schoolId ∧ v.isActive = true ∧ v.availabilityStatus = .active) &&
      input.courseTypeId.all fun c => decide (c ∈ v.supportedCourseTypes)).map Vehicle.id

/-- The map from vehicles with at least one option to their free windows. -/
def resolveAvailableVehicleWindows (env : Env) (input : VehicleWindowsInput) :
    Service (List (Uuid × List TimeWindow)) := do
  refreshExpiredVehicleUnavailabilitiesForSchool env input.schoolId
  Prog.query fun db =>
    let vehicleIds := offeredVehicleIds db input
    if vehicleIds = [] ∨ input.instructorWindows = [] then return []
    else do
      let day ← polishDayRange env.zone input.date
      let free := vehicleIds.map fun vehicleId => (vehicleId,
        input.instructorWindows.flatMap fun window =>
          subtractWindows window (vehicleUsedWindows env.zone db input day vehicleId))
      return free.filter fun entry =>
        buildScheduleAvailabilityOptions entry.2 input.policy input.startStepMinutes ≠ []

/-- The windows of the requested vehicle, if its text is a key of the map. -/
def windowsOfVehicle (vehicleWindows : List (Uuid × List TimeWindow))
    (vehicleId : Option UuidText) : List TimeWindow :=
  (vehicleId.bind fun text => (vehicleWindows.find? fun entry =>
    decide (.ofUuid entry.1 = text)).map Prod.snd).getD []

/-! ### Responses -/

inductive OptionsEmptyReason where
  | schoolClosed | dateNotBookable | instructorUnavailable | courseLimitExceeded | studentBusy
  | vehicleUnavailable | noFreeTime
  deriving DecidableEq, Repr

structure ScheduleAvailabilityOptions where
  stepMinutes : ℤ := availabilityOptionStepMinutes
  options : List ScheduleAvailabilityOption
  availableVehicleIds : Option (List Uuid) := none
  policy : ScheduleDurationPolicy
  emptyReason : Option OptionsEmptyReason := none

def buildOptionsResponse (windows : List TimeWindow) (policy : ScheduleDurationPolicy)
    (startStepMinutes : ℤ) (availableVehicleIds : Option (List Uuid)) :
    ScheduleAvailabilityOptions where
  options := buildScheduleAvailabilityOptions windows policy startStepMinutes
  availableVehicleIds
  policy

/-- The request schema admits a course for theory and a vehicle for drives only. -/
structure EventCreateOptionsBody where
  instructorId : Uuid
  eventType : EventType
  date : Day
  vehicleId : Option UuidText := none
  courseId : Option Uuid := none
  drive_has_no_course : eventType = .drive → courseId = none := by decide
  theory_has_no_vehicle : eventType = .theory → vehicleId = none := by decide

def getEventCreateAvailabilityOptions (env : Env) (actor : Actor) (body : EventCreateOptionsBody) :
    Service ScheduleAvailabilityOptions := do
  Prog.query fun db => assertActorCanManageAvailability db actor body.instructorId
  Prog.query fun db => resolveActiveInstructorProfile db body.instructorId
  let schoolId ← Prog.query fun db =>
    resolveInstructorEventSchoolId db body.instructorId body.courseId
      (body.vehicleId.map UuidText.uuid)
  let date := yyyymmddToDate body.date
  let policy ← Prog.query fun db => .ok (resolveScheduleOptionsPolicy db schoolId
    (.event body.eventType) availabilityOptionStepMinutes)
  let dayWindows ← Prog.query fun db => computeDayWindows env.zone db body.instructorId date
  Prog.query fun db => onlyIf (body.eventType = .theory) (forSome body.courseId fun courseId =>
    assertCourseEligibleForInstructorEvent db body.instructorId courseId)
  Prog.whenSome (if body.eventType = .drive then body.vehicleId else none) fun vehicleId =>
    validateVehicleForInstructor env body.instructorId vehicleId.uuid true
  let windows := dayWindows.getD []
  if body.eventType = .drive then do
    let vehicleWindows ← resolveAvailableVehicleWindows env
      { schoolId, date, instructorWindows := windows, policy := policy.toScheduleDurationPolicy
        startStepMinutes := policy.startStepMinutes }
    return buildOptionsResponse (windowsOfVehicle vehicleWindows body.vehicleId)
      policy.toScheduleDurationPolicy policy.startStepMinutes (some (vehicleWindows.map Prod.fst))
  else
    return buildOptionsResponse windows policy.toScheduleDurationPolicy policy.startStepMinutes none

structure EventEditOptionsBody where
  eventId : Uuid
  instructorId : UuidText
  date : Day
  vehicleId : Option UuidText := none

def subtractParticipantConflicts (zone : PolishZone) (db : Db) (eventId : Uuid) (date : Instant)
    (windows : List TimeWindow) : Except Failure (List TimeWindow) :=
  subtractStudentScheduleConflicts zone db (eventStudentIds db eventId) date windows none
    (some eventId)

def getEventEditAvailabilityOptions (env : Env) (actor : Actor) (body : EventEditOptionsBody) :
    Service ScheduleAvailabilityOptions := do
  let current ← Prog.query fun db => orThrow
    ((db.instructorEvents.findUnique body.eventId).filter InstructorEvent.isActive)
    (.notFound "Event not found")
  Prog.query fun db => assertActorCanManageAvailability db actor current.instructorId
  Prog.query fun db => assertActorCanManageAvailability db actor body.instructorId.uuid
  Prog.query fun db => resolveActiveInstructorProfile db body.instructorId.uuid
  throwIf (current.type = .theory ∧ body.vehicleId ≠ none)
    (Failure.badRequest "vehicleId is only allowed for DRIVE events")
  let date := yyyymmddToDate body.date
  let policy ← Prog.query fun db => .ok (resolveScheduleOptionsPolicy db current.schoolId
    (.event current.type) availabilityOptionStepMinutes)
  let dayWindows ← Prog.query fun db =>
    computeDayWindows env.zone db body.instructorId.uuid date (some current.id)
  Prog.query fun db => onlyIf (current.type = .theory) (forSome current.courseId fun courseId =>
    assertCourseEligibleForInstructorEvent db body.instructorId.uuid courseId)
  Prog.whenSome (if current.type = .drive then body.vehicleId else none) fun vehicleId =>
    validateVehicleForInstructor env body.instructorId.uuid vehicleId.uuid true
  let windows := dayWindows.getD []
  if current.type = .drive then do
    let courseTypeId ← Prog.query fun db =>
      .ok ((current.courseId.bind db.courses.findUnique).map Course.courseTypeId)
    let vehicleWindows ← resolveAvailableVehicleWindows env
      { schoolId := current.schoolId, date, instructorWindows := windows
        policy := policy.toScheduleDurationPolicy, startStepMinutes := policy.startStepMinutes
        excludeEventId := some current.id, courseTypeId }
    return buildOptionsResponse (windowsOfVehicle vehicleWindows body.vehicleId)
      policy.toScheduleDurationPolicy policy.startStepMinutes (some (vehicleWindows.map Prod.fst))
  else do
    let windows ← Prog.query fun db =>
      subtractParticipantConflicts env.zone db current.id date windows
    return buildOptionsResponse windows policy.toScheduleDurationPolicy policy.startStepMinutes none

structure LessonEditOptionsBody where
  lessonId : Uuid
  instructorId : UuidText
  date : Day
  vehicleId : Option UuidText := none

/-- The remaining minutes, `none` for a course without a package (the source's infinity). -/
def resolveRemainingCourseMinutes (db : Db) (courseId studentId : Uuid) (kind : CourseKind)
    (totalHours : ℤ) (excludeLessonId : Uuid) : Option ℤ :=
  if kind ≠ .practical ∧ kind ≠ .extra then none
  else
    let lessons := db.lessons.findMany fun l =>
      decide (l.courseId = courseId ∧ l.studentId = studentId ∧ l.status ≠ .cancelled ∧
        l.id ≠ excludeLessonId)
    some (max 0 (totalHours * 60 - (lessons.map Lesson.minutes).sum))

def mapLessonDateError (error : Failure) : Except Failure OptionsEmptyReason :=
  if error.reason = some .schoolClosed then return .schoolClosed
  else if error.reason = some .dateNotBookable then return .dateNotBookable
  else throw error

def getLessonDateIssue (env : Env) (date : Instant) (schoolId : Uuid) :
    Service (Option OptionsEmptyReason) :=
  Prog.handle (Prog.query fun db => assertLessonDateInsideBookingWindow env db date schoolId)
    (fun _ => none) fun error => do return some (← mapLessonDateError error)

/-- The part of each window from the current minute on. -/
def windowsFromNow (nowMinutes : ℤ) (windows : List TimeWindow) : List TimeWindow :=
  (windows.map fun window => { window with start := max window.start nowMinutes }).filter
    fun window => window.start < window.stop

def ScheduleDurationPolicy.cappedBy (policy : ScheduleDurationPolicy)
    (packageMinutes : Option ℤ) : ScheduleDurationPolicy :=
  { policy with maxDurationMinutes :=
      packageMinutes.elim policy.maxDurationMinutes (min policy.maxDurationMinutes) }

/-- The windows of a bookable day, narrowed to the student, to the rest of today and to the
vehicle. -/
def lessonEditOptions (env : Env) (lesson : Lesson) (course : CourseForBooking)
    (body : LessonEditOptionsBody) (policy : ScheduleDurationPolicy) (startStepMinutes : ℤ)
    (dayWindows : List TimeWindow) : Service ScheduleAvailabilityOptions := do
  let date := yyyymmddToDate body.date
  let studentWindows ← Prog.query fun db => subtractStudentScheduleConflicts env.zone db
    [lesson.studentId] date dayWindows (some lesson.id)
  let windows := if body.date = polishTodayYyyymmdd env
    then windowsFromNow (instantToPolishDateTime env.zone env.now).minutes studentWindows
    else studentWindows
  let vehicleWindows ← resolveAvailableVehicleWindows env
    { schoolId := course.schoolId, date, instructorWindows := windows, policy, startStepMinutes
      excludeLessonId := some lesson.id, courseTypeId := some course.courseTypeId }
  let response := buildOptionsResponse (windowsOfVehicle vehicleWindows body.vehicleId) policy
    startStepMinutes (some (vehicleWindows.map Prod.fst))
  if response.options ≠ [] then return response
  else return { response with emptyReason := some (
    if dayWindows = [] then .instructorUnavailable
    else if studentWindows = [] then .studentBusy
    else if body.vehicleId.any (fun id =>
        decide (id ∉ vehicleWindows.map fun entry => .ofUuid entry.1))
      then .vehicleUnavailable
    else .noFreeTime) }

def getLessonEditAvailabilityOptions (env : Env) (actor : Actor) (body : LessonEditOptionsBody) :
    Service ScheduleAvailabilityOptions := do
  let lesson ← Prog.query fun db => orThrow (findLesson db body.lessonId)
    (.notFound "Lesson not found")
  let course ← Prog.query fun db => lessonCourse db lesson
  assertLessonIsEditable env lesson.status lesson.endTime
  assertLessonHasNotStarted env lesson.status lesson.startTime
  Prog.query fun db => assertActorCanBookLessonForCourse db actor course.schoolId
  Prog.query fun db => resolveActiveInstructorProfile db body.instructorId.uuid
  Prog.query fun db =>
    throwIf ((instructorLink db body.instructorId.uuid course.schoolId).isNone = true)
      (.badRequest "Instructor is not eligible for this course")
  Prog.query fun db =>
    assertInstructorQualifiedForCourseType db body.instructorId.uuid course.courseTypeId
  let date := yyyymmddToDate body.date
  let optionsPolicy ← Prog.query fun db => .ok (resolveScheduleOptionsPolicy db course.schoolId
    .practice availabilityOptionStepMinutes)
  let packageMinutes ← Prog.query fun db => .ok (resolveRemainingCourseMinutes db course.id
    lesson.studentId course.kind course.totalHours lesson.id)
  let dateIssue ← getLessonDateIssue env date course.schoolId
  let dayWindows ← Prog.query fun db =>
    computeDayWindows env.zone db body.instructorId.uuid date none (some lesson.id)
  Prog.whenSome body.vehicleId fun vehicleId =>
    validateVehicleForInstructor env body.instructorId.uuid vehicleId.uuid true
  let policy := optionsPolicy.toScheduleDurationPolicy.cappedBy packageMinutes
  let empty (reason : OptionsEmptyReason) : ScheduleAvailabilityOptions :=
    { buildOptionsResponse [] policy optionsPolicy.startStepMinutes (some []) with
      emptyReason := some reason }
  match dateIssue, dayWindows with
  | some reason, _ => return empty reason
  | none, none => return empty .instructorUnavailable
  | none, some dayWindows =>
    if policy.maxDurationMinutes < policy.minDurationMinutes then
      return empty .courseLimitExceeded
    else
      lessonEditOptions env lesson course body policy optionsPolicy.startStepMinutes dayWindows

inductive ScheduleAvailabilityOptionsBody where
  | eventCreate (body : EventCreateOptionsBody)
  | eventEdit (body : EventEditOptionsBody)
  | lessonEdit (body : LessonEditOptionsBody)

def getScheduleAvailabilityOptions (env : Env) (actor : Actor) :
    ScheduleAvailabilityOptionsBody → Service ScheduleAvailabilityOptions
  | .eventCreate body => getEventCreateAvailabilityOptions env actor body
  | .eventEdit body => getEventEditAvailabilityOptions env actor body
  | .lessonEdit body => getLessonEditAvailabilityOptions env actor body

end OSK
