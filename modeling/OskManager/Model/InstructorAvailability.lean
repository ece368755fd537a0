import OskManager.Model.Access

/-! Working hours, leaves and busy windows of an instructor on one Polish day:
`instructor-availability/windows.ts`. -/

namespace OSK

open Relational

/-- A lesson that is not cancelled, crosses the window and is not the excluded one. -/
def Lesson.busyDuring (l : Lesson) (start stop : Instant) (exclude : Option Uuid) : Bool :=
  l.occupies && crosses l.startTime l.endTime start stop && decide (exclude ≠ some l.id)

/-- An active event that is not cancelled, crosses the window and is not the excluded one. -/
def InstructorEvent.busyDuring (e : InstructorEvent) (start stop : Instant)
    (exclude : Option Uuid) : Bool :=
  e.occupies && crosses e.startTime e.endTime start stop && decide (exclude ≠ some e.id)

@[simp] theorem Lesson.busyDuring_eq_true (l : Lesson) (start stop : Instant)
    (exclude : Option Uuid) :
    l.busyDuring start stop exclude = true ↔
      l.status ≠ .cancelled ∧ (l.startTime < stop ∧ start < l.endTime) ∧ exclude ≠ some l.id := by
  simp [Lesson.busyDuring, and_assoc]

@[simp] theorem InstructorEvent.busyDuring_eq_true (e : InstructorEvent) (start stop : Instant)
    (exclude : Option Uuid) :
    e.busyDuring start stop exclude = true ↔
      (e.isActive = true ∧ e.status ≠ .cancelled) ∧ (e.startTime < stop ∧ start < e.endTime) ∧
        exclude ≠ some e.id := by
  simp [InstructorEvent.busyDuring, and_assoc]

/-- The working hours of the date: the exception row if there is one, else the weekly row;
`none` on a day off and on a day without a row. -/
def baseWindow (zone : PolishZone) (db : Db) (instructorId : Uuid) (date : Instant) :
    Except Failure (Option TimeWindow) :=
  match db.workingHours.findUnique (instructorId, dateToYYYYMMDD date) with
  | some hours =>
    if hours.isDayOff then return none
    else do
      let start ← orThrow hours.startTime (.other "TypeError: startTime is null")
      let stop ← orThrow hours.endTime (.other "TypeError: endTime is null")
      return some ⟨dbTimeToMinutes start, dbTimeToMinutes stop⟩
  | none =>
    let dayOfWeek := (instantToPolishDateTime zone date).dayOfWeek
    return (db.workingHoursDefault.findUnique (instructorId, dayOfWeek)).map fun weekly =>
      ⟨dbTimeToMinutes weekly.startTime, dbTimeToMinutes weekly.endTime⟩

def computeDayWindows (zone : PolishZone) (db : Db) (instructorId : Uuid) (date : Instant)
    (excludeEventId excludeLessonId : Option Uuid := none) :
    Except Failure (Option (List TimeWindow)) := do
  let leave := db.leaves.findFirst fun l =>
    decide (l.instructorId = instructorId ∧ l.startDate ≤ dateToYYYYMMDD date ∧
      dateToYYYYMMDD date ≤ l.endDate)
  if leave.isSome then return none
  let base ← baseWindow zone db instructorId date
  match base with
  | none => return none
  | some base =>
    let day ← polishDayRange zone date
    let timeBlocks := db.timeBlocks.findMany fun b =>
      decide (b.instructorId = instructorId) && crosses b.startTime b.endTime day.start day.stop
    let lessons := db.lessons.findMany fun l =>
      decide (l.instructorId = instructorId) && l.busyDuring day.start day.stop excludeLessonId
    let instructorEvents := db.instructorEvents.findMany fun e =>
      decide (e.instructorId = instructorId) && e.busyDuring day.start day.stop excludeEventId
    let usedWindows :=
      (timeBlocks.map fun row => timeWindowFromDates zone row.startTime row.endTime day) ++
      (lessons.map fun row => timeWindowFromDates zone row.startTime row.endTime day) ++
      (instructorEvents.map fun row => timeWindowFromDates zone row.startTime row.endTime day)
    return some (subtractWindows base usedWindows)

def assertInstructorTimeWindowAvailable (zone : PolishZone) (db : Db) (instructorId : Uuid)
    (startTime endTime : Instant) (excludeEventId excludeLessonId : Option Uuid := none) :
    Except Failure Unit := do
  throwIf (startTime ≥ endTime) (.badRequest "startTime must be before endTime")
  throwIf (datesAreSamePolishDay zone startTime endTime = false)
    (.badRequest "Event must start and end on the same Polish calendar day")
  let free ← computeDayWindows zone db instructorId (polishDateOnly zone startTime)
    excludeEventId excludeLessonId
  let free ← orThrow free
    (.conflictFor .outsideInstructorHours "Slot outside instructor availability")
  let reqStart := (instantToPolishDateTime zone startTime).minutes
  let reqEnd := (instantToPolishDateTime zone endTime).minutes
  let ok := free.any fun w => decide (reqStart ≥ w.start ∧ reqEnd ≤ w.stop)
  throwIf (ok = false)
    (.conflictFor .outsideInstructorHours "Slot outside instructor availability")

end OSK
