import OskManager.Model.CheckIssues
import OskManager.Model.Lessons

/-! Availability checks of lessons: `schedule-validation/lessonCreateCheck.ts`,
`lessonSelfBookCheck.ts` and `lessonEditCheck.ts`. -/

namespace OSK

open Relational

/-! ### Booking by the school -/

structure LessonCreateCheckBody extends LocalWindow where
  courseId : Uuid
  studentId : Uuid
  instructorId : Uuid
  vehicleId : Uuid

def checkLessonCreateAvailability (env : Env) (actor : Actor) (body : LessonCreateCheckBody) :
    Service ScheduleAvailabilityAnswer := do
  let course ← Prog.query fun db => loadCourseForBooking db body.courseId
  Prog.query fun db => assertActorCanBookLessonForCourse db actor course.schoolId
  let window ← body.parse env.zone
  let policy ← Prog.query fun db => .ok (resolveScheduleDurationPolicy db course.schoolId .practice)
  let dateIssues ← lessonDateIssues env window.start course.schoolId
  let profile ← Prog.query fun db => .ok (loadStudentProfileIdForUser db body.studentId)
  let studentIssues ← Prog.issues (Prog.query fun db => do
      let studentProfileId ← profile
      assertStudentParticipatesInCourse db course.id studentProfileId)
    (expectedClientError { code := .studentNotEligible, field := .studentId })
  let instructorIssues ← lessonInstructorIssues body.instructorId course true
  let lateIssues ← Prog.transaction do
    let scheduleIssues ← issuesFor (if instructorIssues = [] then profile.toOption else none)
      fun studentProfileId => lessonScheduleIssues env.zone
        (course.window studentProfileId body.instructorId window.start window.stop)
    let vehicleIssues ← Prog.issues
      (assertVehicleAvailableForBooking env body.instructorId body.vehicleId course.schoolId
        window.start window.stop course.courseTypeId)
      (scheduleIssueCode [.vehicleCourseTypeMismatch, .vehicleBusy, .vehicleUnavailable] .vehicleId)
    return scheduleIssues ++ vehicleIssues
  let issues := durationIssues window.durationMs policy ++ dateIssues ++ studentIssues ++
    instructorIssues ++ lateIssues
  return { available := issues.isEmpty, issues, policy }

/-! ### Booking by the student -/

structure LessonSelfBookCheckBody extends LocalWindow where
  courseId : Uuid
  instructorId : Uuid
  bookingMode : Option BookingMode := none

/-- The issue a failed remaining-package rule is reported as. -/
def remainingPackageIssue (error : Failure) : Except Failure ScheduleAvailabilityIssue :=
  if error.isClientError then
    return if error.reason = some .courseLimitExceeded
      then { code := .courseLimitExceeded, field := .courseId }
      else { code := .durationTooShort, field := .endTime }
  else throw error

/-- The shortened booking of the rest of the package, if every rule admits it. -/
def shortAlternative (env : Env) (body : LessonSelfBookCheckBody) (course : CourseForBooking)
    (studentProfileId : Uuid) (start : Instant) (remainingMinutes : ℤ) :
    Service (Option ScheduleAlternative) :=
  let shortEnd := start + remainingMinutes * msPerMinute
  Prog.handle
    (do
      Prog.query fun db => assertStudentSelfBookingDurationAllowed db
        (course.duration studentProfileId start shortEnd (some .remainingPackage))
      Prog.query fun db => assertLessonSchedulingWindowAvailable env.zone db
        (course.window studentProfileId body.instructorId start shortEnd)
      let _ ← findAvailableVehicleIdForStudentBooking env body.instructorId course.schoolId
        start shortEnd course.courseTypeId
      return {
        startTime := body.startTime
        endTime := (instantToPolishDateTime env.zone shortEnd).minutes
        durationMinutes := remainingMinutes : ScheduleAlternative })
    some
    fun error => if error.isClientError then return none else throw error

structure SelfBookFindings where
  issues : List ScheduleAvailabilityIssue := []
  remainingMinutes : Option ℤ := none
  alternative : Option ScheduleAlternative := none

/-- The part of the check that runs for an eligible student and instructor. -/
def selfBookFindings (env : Env) (body : LessonSelfBookCheckBody) (course : CourseForBooking)
    (studentProfileId : Uuid) (window : ScheduleWindow) (policy : ScheduleDurationPolicy)
    (earlier : List ScheduleAvailabilityIssue) : Service SelfBookFindings := do
  let remainingMinutes ← Prog.query fun db =>
    .ok (getCoursePracticePackageBalance db course.id studentProfileId
      course.totalHours).remainingMinutes
  let modeIssues ← issuesWhen body.bookingMode.isSome (Prog.issues
    (Prog.query fun db => assertStudentSelfBookingDurationAllowed db
      (course.duration studentProfileId window.start window.stop body.bookingMode))
    remainingPackageIssue)
  let scheduleIssues ← lessonScheduleIssues env.zone
    (course.window studentProfileId body.instructorId window.start window.stop)
  let issues := modeIssues ++ scheduleIssues
  if body.bookingMode = none ∧
      (earlier ++ issues).all (fun issue => decide (issue.code ≠ .dateNotBookable)) = true ∧
      0 < remainingMinutes ∧ remainingMinutes * msPerMinute < window.durationMs ∧
      remainingMinutes < policy.minDurationMinutes then do
    let alternative ← shortAlternative env body course studentProfileId window.start
      remainingMinutes
    return { issues, remainingMinutes := some remainingMinutes, alternative }
  else return { issues, remainingMinutes := some remainingMinutes }

def checkLessonSelfBookAvailability (env : Env) (actor : Actor)
    (body : LessonSelfBookCheckBody) : Service ScheduleAvailabilityAnswer := do
  throwIf (actor.role ≠ .student) (Failure.forbidden "Forbidden")
  let course ← Prog.query fun db => loadCourseForBooking db body.courseId
  let window ← body.parse env.zone
  let policy ← Prog.query fun db => .ok (resolveScheduleDurationPolicy db course.schoolId .practice)
  let courseIssues ← Prog.issues (Prog.query fun _ => assertCourseCanBeSelfBooked course)
    (expectedClientError { code := .courseNotEligible, field := .courseId })
  if courseIssues ≠ [] then
    return { available := false, issues := courseIssues, policy }
  let dateIssues ← lessonDateIssues env window.start course.schoolId
  let studentProfileId ← Prog.query fun db => loadStudentProfileIdForUser db actor.id
  let studentIssues ← Prog.issues (Prog.query fun db =>
      assertStudentParticipatesInCourse db course.id studentProfileId true)
    (expectedClientError { code := .studentNotEligible, field := .studentId })
  let instructorIssues ← lessonInstructorIssues body.instructorId course
  let earlier := (if body.bookingMode = none then durationIssues window.durationMs policy else []) ++
    dateIssues ++ studentIssues ++ instructorIssues
  let found ← Prog.transaction do
    let found ← if studentIssues = [] ∧ instructorIssues = [] then
        selfBookFindings env body course studentProfileId window policy earlier
      else pure {}
    let vehicleIssues ← Prog.issues
      (do
        let _ ← findAvailableVehicleIdForStudentBooking env body.instructorId course.schoolId
          window.start window.stop course.courseTypeId
        return ())
      (scheduleIssueCode [.noVehicleAvailable] .vehicleId)
    return { found with issues := found.issues ++ vehicleIssues }
  let issues := earlier ++ found.issues
  return {
    available := issues.isEmpty, issues, policy
    remainingMinutes := found.remainingMinutes, alternative := found.alternative }

/-! ### Editing -/

structure LessonEditCheckBody extends LocalWindow where
  lessonId : Uuid
  instructorId : UuidText
  vehicleId : UuidText

/-- The instants of the request with the instructor and the vehicle it names. -/
def LessonEditCheckBody.slot (body : LessonEditCheckBody) (window : ScheduleWindow) :
    LessonSlot where
  instructorId := body.instructorId
  vehicleId := body.vehicleId
  start := window.start
  stop := window.stop

/-- The vehicle rules of the check, before the bookings of the vehicle. -/
def assertLessonVehicleFits (env : Env) (instructorId vehicleId : Uuid)
    (course : CourseForBooking) : Service Unit := do
  Prog.query fun db =>
    let vehicleInSchool := db.vehicles.findFirst fun v =>
      decide (v.id = vehicleId ∧ v.schoolId = course.schoolId ∧ v.isActive = true)
    throwIf (vehicleInSchool.isNone = true)
      (.badRequestFor .vehicleUnavailable "Vehicle is not for this driving school")
  Prog.query fun db => assertVehicleSupportsCourseType db vehicleId course.courseTypeId
  validateVehicleForInstructor env instructorId vehicleId true

/-- The part of the check that looks at the bookings, in a transaction of its own. -/
def lessonEditBookingIssues (env : Env) (existing : Lesson) (course : CourseForBooking)
    (slot : LessonSlot) : Service (List ScheduleAvailabilityIssue) := do
  let scheduleIssues ← issuesWhen (existing.timeChanged slot || existing.instructorChanged slot)
    (lessonScheduleIssues env.zone
      (course.window existing.studentId slot.instructorId.uuid slot.start slot.stop existing.id))
  let busy ← Prog.query fun db => .ok (vehicleHasBookingConflict db slot.vehicleId.uuid slot.start
    slot.stop (some existing.id))
  return scheduleIssues ++
    (if busy then [{ code := .vehicleBusy, field := .vehicleId : ScheduleAvailabilityIssue }]
      else [])

def lessonEditIssues (env : Env) (existing : Lesson) (course : CourseForBooking)
    (slot : LessonSlot) (policy : ScheduleDurationPolicy) :
    Service (List ScheduleAvailabilityIssue) := do
  let timeChanged := existing.timeChanged slot
  let instructorChanged := existing.instructorChanged slot
  let timeIssues ← issuesWhen timeChanged do
    let dateIssues ← lessonDateIssues env slot.start course.schoolId
    return durationIssues (slot.stop - slot.start) policy ++ dateIssues
  let instructorIssue : ScheduleAvailabilityIssue :=
    { code := .instructorNotEligible, field := .instructorId }
  let link ← Prog.query fun db => .ok (instructorLink db slot.instructorId.uuid course.schoolId)
  let instructorIssues ← if link.isNone then pure [instructorIssue] else
    issuesWhen instructorChanged (Prog.issues (Prog.query fun db =>
        assertInstructorQualifiedForCourseType db slot.instructorId.uuid course.courseTypeId)
      (expectedClientError instructorIssue))
  let vehicleIssues ← Prog.issues
    (assertLessonVehicleFits env slot.instructorId.uuid slot.vehicleId.uuid course)
    (scheduleIssueCode [.vehicleUnavailable, .vehicleCourseTypeMismatch] .vehicleId)
  let lateIssues ← Prog.transaction (lessonEditBookingIssues env existing course slot)
  return timeIssues ++ instructorIssues ++ vehicleIssues ++ lateIssues

def checkLessonEditAvailability (env : Env) (actor : Actor) (body : LessonEditCheckBody) :
    Service ScheduleAvailabilityAnswer := do
  let existing ← Prog.query fun db => orThrow (findLesson db body.lessonId)
    (.notFound "Lesson not found")
  let course ← Prog.query fun db => lessonCourse db existing
  Prog.query fun db => assertActorCanBookLessonForCourse db actor course.schoolId
  assertLessonIsEditable env existing.status existing.endTime
  assertLessonHasNotStarted env existing.status existing.startTime
  let window ← body.parse env.zone
  let slot := body.slot window
  let policy ← Prog.query fun db => .ok (resolveScheduleDurationPolicy db course.schoolId .practice)
  if !(existing.timeChanged slot) && !(existing.instructorChanged slot) &&
      !(existing.vehicleChanged slot) then
    return { available := true, issues := [], policy }
  let issues ← lessonEditIssues env existing course slot policy
  return { available := issues.isEmpty, issues, policy }

end OSK
