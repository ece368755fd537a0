import OskManager.Model.InstructorAvailability

/-! The rules a lesson's time must satisfy: `lib/lesson-scheduling.ts`,
`schedule-validation/policy.ts`, `lesson/scheduleConflicts.ts`, `lesson/editability.ts`
and the date rules of `lesson/bookingRules.ts`. -/

namespace OSK

open Relational

/-- `Math.round((endTime - startTime) / 60_000)`: halves round up. -/
def roundedMinutes (startTime endTime : Instant) : ℤ :=
  (endTime - startTime + msPerMinute / 2) / msPerMinute

def Lesson.minutes (l : Lesson) : ℤ := roundedMinutes l.startTime l.endTime

/-! ### Package hours -/

structure PackageBalance where
  bookedMinutes : ℤ
  remainingMinutes : ℤ

/-- A lesson that uses package minutes of the course and student. -/
def Lesson.countsFor (l : Lesson) (courseId studentProfileId : Uuid) : Bool :=
  decide (l.courseId = courseId ∧ l.studentId = studentProfileId ∧ l.lessonType = .practice ∧
    l.deletedAt = none ∧ l.status ≠ .cancelled)

def getCoursePracticePackageBalance (db : Db) (courseId studentProfileId : Uuid)
    (totalHours : ℤ) (excludeLessonId : Option Uuid := none) : PackageBalance :=
  let rows := db.lessons.findMany fun l =>
    l.countsFor courseId studentProfileId && decide (excludeLessonId ≠ some l.id)
  let bookedMinutes := (rows.map Lesson.minutes).sum
  { bookedMinutes, remainingMinutes := max 0 (totalHours * 60 - bookedMinutes) }

def packageLimitError (remainingMinutes : ℤ) : Failure :=
  .conflictFor .courseLimitExceeded
    ("Pozostało " ++ toString remainingMinutes ++ " minut jazd w pakiecie kursu.")
    (some remainingMinutes)

def assertCourseDrivingPackageHoursAllowNewLesson (db : Db) (courseId studentProfileId : Uuid)
    (courseKind : CourseKind) (totalHours : ℤ) (start stop : Instant)
    (excludeLessonId : Option Uuid := none) : Except Failure Unit :=
  if courseKind ≠ .practical ∧ courseKind ≠ .extra then return ()
  else do
    let newMinutes := roundedMinutes start stop
    throwIf (newMinutes ≤ 0) (.badRequest "Lesson duration must be positive")
    let remainingMinutes := (getCoursePracticePackageBalance db courseId studentProfileId
      totalHours excludeLessonId).remainingMinutes
    throwIf (newMinutes > remainingMinutes) (packageLimitError remainingMinutes)

/-! ### Conflicts -/

/-- A participation of the student in an event that is busy during the window. -/
def EventParticipant.busyDuring (db : Db) (p : EventParticipant) (start stop : Instant)
    (excludeEventId : Option Uuid) : Bool :=
  (db.instructorEvents.findUnique p.eventId).any fun e => e.busyDuring start stop excludeEventId

def assertStudentNoScheduleOverlap (db : Db) (studentProfileId : Uuid) (start stop : Instant)
    (excludeLessonId : Option Uuid := none) : Except Failure Unit := do
  let lessonHit := db.lessons.findFirst fun l =>
    decide (l.studentId = studentProfileId) && l.busyDuring start stop excludeLessonId
  throwIf (lessonHit.isSome = true)
    (.conflictFor .studentBusy "Student already has a driving lesson at this time")
  let eventHit := db.eventParticipants.findFirst fun p =>
    decide (p.studentId = studentProfileId) && p.busyDuring db start stop none
  throwIf (eventHit.isSome = true)
    (.conflictFor .studentBusy
      "Student is already assigned to another instructor block at this time")

structure LessonWindowParams where
  instructorId : Uuid
  studentProfileId : Uuid
  courseId : Uuid
  courseKind : CourseKind
  totalHours : ℤ
  start : Instant
  stop : Instant
  excludeLessonId : Option Uuid := none

/-- The window of a lesson of the course. -/
def CourseForBooking.window (course : CourseForBooking) (studentProfileId instructorId : Uuid)
    (start stop : Instant) (excludeLessonId : Option Uuid := none) : LessonWindowParams where
  instructorId
  studentProfileId
  courseId := course.id
  courseKind := course.kind
  totalHours := course.totalHours
  start
  stop
  excludeLessonId

def assertLessonSchedulingWindowAvailable (zone : PolishZone) (db : Db)
    (params : LessonWindowParams) : Except Failure Unit := do
  assertStudentNoScheduleOverlap db params.studentProfileId params.start params.stop
    params.excludeLessonId
  assertCourseDrivingPackageHoursAllowNewLesson db params.courseId params.studentProfileId
    params.courseKind params.totalHours params.start params.stop params.excludeLessonId
  let lessonConflict := db.lessons.findFirst fun l =>
    decide (l.instructorId = params.instructorId) &&
      l.busyDuring params.start params.stop params.excludeLessonId
  throwIf (lessonConflict.isSome = true)
    (.conflictFor .instructorBusy "Time slot conflicts with a lesson")
  let eventConflict := db.instructorEvents.findFirst fun e =>
    decide (e.instructorId = params.instructorId) && e.busyDuring params.start params.stop none
  throwIf (eventConflict.isSome = true)
    (.conflictFor .instructorBusy "Time slot conflicts with a scheduled block")
  assertInstructorTimeWindowAvailable zone db params.instructorId params.start params.stop none
    params.excludeLessonId

/-! ### Durations -/

/-- `'PRACTICE' | EventType`. -/
inductive DurationKind where
  | practice
  | event (type : EventType)
  deriving DecidableEq

structure ScheduleDurationPolicy where
  minDurationMinutes : ℤ
  maxDurationMinutes : ℤ
  deriving DecidableEq

structure ScheduleOptionsPolicy extends ScheduleDurationPolicy where
  startStepMinutes : ℤ

def durationPolicyFromSettings (settings : Option SchoolSettings) (kind : DurationKind) :
    ScheduleDurationPolicy :=
  if kind = .event .theory then
    { minDurationMinutes := (settings.map (·.theoryMinDurationMinutes)).getD 45
      maxDurationMinutes := (settings.map (·.theoryMaxDurationMinutes)).getD 90 }
  else
    { minDurationMinutes := (settings.map (·.practiceMinDurationMinutes)).getD 60
      maxDurationMinutes := (settings.map (·.practiceMaxDurationMinutes)).getD 120 }

def resolveScheduleDurationPolicy (db : Db) (schoolId : Uuid) (kind : DurationKind) :
    ScheduleDurationPolicy :=
  durationPolicyFromSettings (db.schoolSettings.findUnique schoolId) kind

def resolveScheduleOptionsPolicy (db : Db) (schoolId : Uuid) (kind : DurationKind)
    (defaultStepMinutes : ℤ) : ScheduleOptionsPolicy :=
  let settings := db.schoolSettings.findUnique schoolId
  { durationPolicyFromSettings settings kind with
    startStepMinutes :=
      if (settings.map (·.slotMustStartFullHour)).getD false then 60 else defaultStepMinutes }

def assertScheduleDurationAllowed (db : Db) (schoolId : Uuid) (kind : DurationKind)
    (start stop : Instant) : Except Failure ScheduleDurationPolicy := do
  throwIf (stop - start ≤ 0) (.badRequest "startTime must be before endTime")
  let policy := resolveScheduleDurationPolicy db schoolId kind
  throwIf (stop - start < policy.minDurationMinutes * msPerMinute)
    (.badRequest
      ("Duration must be at least " ++ toString policy.minDurationMinutes ++ " minutes"))
  throwIf (stop - start > policy.maxDurationMinutes * msPerMinute)
    (.badRequest
      ("Duration must not exceed " ++ toString policy.maxDurationMinutes ++ " minutes"))
  return policy

inductive BookingMode where
  | remainingPackage
  deriving DecidableEq

structure SelfBookingDuration where
  schoolId : Uuid
  courseId : Uuid
  studentProfileId : Uuid
  totalHours : ℤ
  start : Instant
  stop : Instant
  bookingMode : Option BookingMode

/-- The duration of a student's booking of the course. -/
def CourseForBooking.duration (course : CourseForBooking) (studentProfileId : Uuid)
    (start stop : Instant) (bookingMode : Option BookingMode) : SelfBookingDuration where
  schoolId := course.schoolId
  courseId := course.id
  studentProfileId
  totalHours := course.totalHours
  start
  stop
  bookingMode

def assertStudentSelfBookingDurationAllowed (db : Db) (input : SelfBookingDuration) :
    Except Failure Unit :=
  if input.bookingMode ≠ some .remainingPackage then do
    let _ ← assertScheduleDurationAllowed db input.schoolId .practice input.start input.stop
  else do
    let policy := resolveScheduleDurationPolicy db input.schoolId .practice
    let settings := db.schoolSettings.findUnique input.schoolId
    let durationMs := input.stop - input.start
    let remainingMinutes := (getCoursePracticePackageBalance db input.courseId
      input.studentProfileId input.totalHours).remainingMinutes
    throwIf (durationMs ≠ remainingMinutes * msPerMinute) (packageLimitError remainingMinutes)
    throwIf (settings.any (fun s => !s.allowShortFinalPracticeLesson) = true ∨
        ¬msPerMinute ∣ durationMs ∨
        durationMs < (settings.map (·.minFinalPracticeDurationMinutes)).getD 30 * msPerMinute ∨
        durationMs ≥ policy.minDurationMinutes * msPerMinute ∨
        durationMs > policy.maxDurationMinutes * msPerMinute)
      (.badRequest "Nie można zarezerwować krótkiej jazdy z pozostałego czasu pakietu.")

/-! ### Dates -/

/-- `workingDaysMask & (1 << weekday)`, with `0` replaced by Monday to Friday. -/
def schoolOpenOn (settings : Option SchoolSettings) (weekday : ℤ) : Bool :=
  let mask := (settings.map (·.workingDaysMask)).getD 0
  Int.testBit (if mask = 0 then 62 else mask) weekday.toNat

def assertLessonDateInsideBookingWindow (env : Env) (db : Db) (start : Instant)
    (courseSchoolId : Uuid) : Except Failure Unit := do
  let settings := db.schoolSettings.findUnique courseSchoolId
  let bookingMaxDaysAhead := (settings.map (·.bookingMaxDaysAhead)).getD 30
  let lessonDay := formatYYYYMMDD env.zone start
  let today := polishTodayYyyymmdd env
  let maxBookable := addDaysYyyymmdd env.zone today bookingMaxDaysAhead
  throwIf (lessonDay < today)
    (.badRequestFor .dateNotBookable "Lesson date cannot be in the past")
  throwIf (lessonDay > maxBookable)
    (.badRequestFor .dateNotBookable "Lesson date is outside booking window")
  let weekday := (instantToPolishDateTime env.zone start).dayOfWeek
  throwIf (schoolOpenOn settings weekday = false)
    (.badRequestFor .schoolClosed "Driving school is closed on this day")

def assertLessonTimeIsBookable (env : Env) (db : Db) (start : Instant) (courseSchoolId : Uuid) :
    Except Failure Unit := do
  throwIf (start < env.now)
    (.badRequestFor .dateNotBookable "Lesson time must be in the future")
  assertLessonDateInsideBookingWindow env db start courseSchoolId

/-! ### Editability -/

def assertLessonIsEditable (env : Env) (status : LessonStatus) (endTime : Instant) :
    Except Failure Unit := do
  throwIf (status ≠ .scheduled) (.badRequest "Only scheduled lessons can be edited")
  throwIf (endTime ≤ env.now) (.badRequest "Finished lessons cannot be edited")

def assertLessonHasNotStarted (env : Env) (status : LessonStatus) (startTime : Instant) :
    Except Failure Unit :=
  throwIf (status ≠ .scheduled ∨ startTime ≤ env.now)
    (.badRequest "Only lessons that have not started can be changed")

end OSK
