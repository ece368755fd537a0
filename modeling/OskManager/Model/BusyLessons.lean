import Mathlib.Algebra.Order.Ring.Rat
import OskManager.Lib.WallClock
import OskManager.Model.InstructorAvailability

/-! The minutes a student has lessons in: `school-availability/busyLessons.ts` and the helpers of
`school-availability/dateHelpers.ts`. A lesson is split at the midnights of the Polish clock, and
once more where the clock is changed. -/

namespace OSK.SchoolAvailability

open Relational WallClock

/-- The UTC date of an instant. -/
def formatYYYYMMDD (date : Instant) : Day := date / msPerDay

def addDaysYyyymmdd (date : Day) (days : ℤ) : Day :=
  formatYYYYMMDD (yyyymmddToDate date + days * msPerDay)

theorem addDays_one (date : Day) : addDaysYyyymmdd date 1 = date + 1 := by
  dsimp only [addDaysYyyymmdd, formatYYYYMMDD, yyyymmddToDate, Day, msPerDay]
  omega

/-- The end is a quotient of milliseconds. -/
structure BusyInterval where
  date : Day
  startMin : ℤ
  endMin : ℚ
  deriving DecidableEq

def slotOverlapsLesson (slotDate : Day) (slotStartMin slotEndMin : ℤ) (lessonDate : Day)
    (lessonStartMin : ℤ) (lessonEndMin : ℚ) : Bool :=
  if slotDate ≠ lessonDate then false
  else !decide (slotEndMin ≤ lessonStartMin ∨ (slotStartMin : ℚ) ≥ lessonEndMin)

/-- The end of the part of the lesson that begins at `start`: the change of the clock, which is
searched for when the offsets at the two ends differ, or the end of the lesson. -/
def segmentEnd (zone : PolishZone) (start stop : Instant) : Instant :=
  if zone.offset (stop - 1) ≠ zone.offset start then
    bisect (fun t => zone.offset t = zone.offset start) start (stop - 1)
  else stop

theorem lt_segmentEnd (zone : PolishZone) {start stop : Instant} (h : start < stop) :
    start < segmentEnd zone start stop ∧ segmentEnd zone start stop ≤ stop := by
  unfold segmentEnd
  split
  · next hdiffer =>
    have hne : stop - 1 ≠ start := fun heq => hdiffer (congrArg zone.offset heq)
    obtain ⟨hfrom, hto⟩ := lt_bisect (fun t => zone.offset t = zone.offset start)
      (show start < stop - 1 by dsimp only [Instant] at *; omega)
    exact ⟨hfrom, hto.trans (Int.sub_le_self stop (by decide))⟩
  · exact ⟨h, le_rfl⟩

def appendBusyOnPolishDay (zone : PolishZone) (busy : List BusyInterval) (date : Day)
    (start stop : Instant) : List BusyInterval :=
  if start < stop then
    let startMin := (instantToPolishDateTime zone start).minutes
    let endMin := startMin + (segmentEnd zone start stop - start : ℤ) / (60000 : ℚ)
    appendBusyOnPolishDay zone (busy ++ [⟨date, startMin, endMin⟩]) date
      (segmentEnd zone start stop) stop
  else busy
termination_by (stop - start).toNat
decreasing_by
  have h := lt_segmentEnd zone ‹start < stop›
  dsimp only [Instant] at *
  omega

/-- The loop over the dates of one lesson. -/
def appendBusyLesson (zone : PolishZone) (lesson : Lesson) (dateTo : Day)
    (busy : List BusyInterval) (date : Day) : Except Failure (List BusyInterval) :=
  if date ≤ dateTo then do
    let day ← polishDayBounds zone date
    let start := max lesson.startTime day.start
    let stop := min lesson.endTime day.stop
    if start ≥ stop then return busy
    else
      appendBusyLesson zone lesson dateTo (appendBusyOnPolishDay zone busy date start stop)
        (addDaysYyyymmdd date 1)
  else return busy
termination_by (dateTo + 1 - date).toNat
decreasing_by
  rw [addDays_one]
  dsimp only [Day] at *
  omega

def loadStudentBusyIntervals (zone : PolishZone) (db : Db) (actor : Actor)
    (dateFrom dateTo : Day) (excludeMyLessons : Bool) : Except Failure (List BusyInterval) :=
  if excludeMyLessons = false ∨ actor.role ≠ .student then return []
  else
    match db.studentProfiles.findFirst fun p => decide (p.userId = actor.id) with
    | none => return []
    | some profile => do
      let rangeStart := (← polishDayBounds zone dateFrom).start
      let rangeEndExclusive := (← polishDayBounds zone dateTo).stop
      let lessons := db.lessons.findMany fun l =>
        decide (l.studentId = profile.id) && l.busyDuring rangeStart rangeEndExclusive none
      lessons.foldlM (fun busy lesson =>
        let clippedStart := max lesson.startTime rangeStart
        appendBusyLesson zone lesson dateTo busy
          (instantToPolishDateTime zone clippedStart).date) []

end OSK.SchoolAvailability
