import Mathlib.Data.List.Sort
import OskManager.Model.Http
import OskManager.Model.Schema

/-! Polish wall-clock time and minute windows of a day: `lib/polishScheduleTime.ts`,
`instructor-availability/time.ts` and `lesson/dateUtils.ts`. A calendar date is its day
number, a wall-clock time of day is its minute. -/

namespace OSK

open Relational

def msPerMinute : ℤ := 60000
def msPerDay : ℤ := 86400000
def minutesPerDay : ℤ := 1440

/-- What the services use of `@internationalized/date` for `Europe/Warsaw`. `offset` is the
zone's offset at an instant, `toAbsolute` is `toZoned(..., 'reject')`: the instant with the
given wall-clock time (in milliseconds), if there is exactly one. -/
structure PolishZone where
  offset : Instant → ℤ
  toAbsolute : ℤ → Option Instant
  toAbsolute_wall : ∀ w t, toAbsolute w = some t → t + offset t = w
  toAbsolute_unique : ∀ w t t', toAbsolute w = some t → t' + offset t' = w → t' = t
  toAbsolute_complete : ∀ w t, t + offset t = w → (∀ t', t' + offset t' = w → t' = t) →
    toAbsolute w = some t
  offset_nonneg : ∀ t, 0 ≤ offset t
  offset_lt_day : ∀ t, offset t < msPerDay

/-- The clock, the time zone and the source of new row ids during one request. -/
structure Env where
  now : Instant
  zone : PolishZone
  uuid : List Uuid → Uuid
  uuid_fresh : ∀ used, uuid used ∉ used

structure PolishDateTime where
  date : Day
  minutes : ℤ
  dayOfWeek : ℤ

/-- `getUTCDay` of a calendar date; day 0 was a Thursday. -/
def dayOfWeekOf (date : Day) : ℤ := (date + 4) % 7

def instantToPolishDateTime (zone : PolishZone) (value : Instant) : PolishDateTime where
  date := (value + zone.offset value) / msPerDay
  minutes := (value + zone.offset value) % msPerDay / msPerMinute
  dayOfWeek := dayOfWeekOf ((value + zone.offset value) / msPerDay)

def polishTodayYyyymmdd (env : Env) : Day := (instantToPolishDateTime env.zone env.now).date

/-- Times outside `00:00`..`23:59` do not match the expected format. -/
def polishLocalDateTimeToDate (zone : PolishZone) (date : Day) (time : ℤ) :
    Except Failure Instant := do
  throwIf (¬(0 ≤ time ∧ time < minutesPerDay)) (.badRequest "Invalid Polish local date or time")
  orThrow (zone.toAbsolute (date * msPerDay + time * msPerMinute))
    (.badRequest "Local time does not exist or is ambiguous in Europe/Warsaw")

structure ScheduleWindow where
  start : Instant
  stop : Instant

/-- Length in milliseconds; the source divides it by 60 000 and compares minutes. -/
def ScheduleWindow.durationMs (w : ScheduleWindow) : ℤ := w.stop - w.start

def parsePolishScheduleWindow (zone : PolishZone) (date : Day) (startTime endTime : ℤ) :
    Except Failure ScheduleWindow := do
  let start ← polishLocalDateTimeToDate zone date startTime
  let stop ← polishLocalDateTimeToDate zone date endTime
  throwIf (stop - start ≤ 0) (.badRequest "startTime must be before endTime")
  return { start, stop }

def polishDayBounds (zone : PolishZone) (date : Day) : Except Failure ScheduleWindow := do
  let start ← orThrow (zone.toAbsolute (date * msPerDay)) (.badRequest "Invalid Polish local date")
  let stop ← orThrow (zone.toAbsolute ((date + 1) * msPerDay))
    (.badRequest "Invalid Polish local date")
  return { start, stop }

/-! ### Calendar dates -/

def yyyymmddToDate (date : Day) : Instant := date * msPerDay

/-- The UTC date of an instant. -/
def dateToYYYYMMDD (date : Instant) : Day := date / msPerDay

@[simp] theorem dateToYYYYMMDD_yyyymmddToDate (d : Day) : dateToYYYYMMDD (yyyymmddToDate d) = d :=
  Int.mul_ediv_cancel d (by decide)

def formatYYYYMMDD (zone : PolishZone) (date : Instant) : Day :=
  (instantToPolishDateTime zone date).date

def addDaysYyyymmdd (zone : PolishZone) (date : Day) (days : ℤ) : Day :=
  formatYYYYMMDD zone (yyyymmddToDate date + days * msPerDay)

def datesAreSamePolishDay (zone : PolishZone) (startTime endTime : Instant) : Bool :=
  decide ((instantToPolishDateTime zone startTime).date =
    (instantToPolishDateTime zone endTime).date)

def polishDateOnly (zone : PolishZone) (date : Instant) : Instant :=
  yyyymmddToDate (instantToPolishDateTime zone date).date

def polishDayRange (zone : PolishZone) (date : Instant) : Except Failure ScheduleWindow :=
  polishDayBounds zone (dateToYYYYMMDD date)

/-! ### Minute windows -/

structure TimeWindow where
  start : ℤ
  stop : ℤ
  deriving DecidableEq, Repr

/-- `timeToMinutes (dbTimeToHHmm date)`: the minute of a `Time` column. -/
def dbTimeToMinutes (date : ℤ) : ℤ := date % msPerDay / msPerMinute

def timeWindowFromDates (zone : PolishZone) (startTime endTime : Instant)
    (dayRange : ScheduleWindow) : TimeWindow where
  start := if startTime ≤ dayRange.start then 0
    else (instantToPolishDateTime zone startTime).minutes
  stop := if endTime ≥ dayRange.stop then minutesPerDay
    else (instantToPolishDateTime zone endTime).minutes

/-- The rest of the loop of `subtractWindows`, with the blocks sorted by start. -/
def subtractFrom (base : TimeWindow) (cursor : ℤ) : List TimeWindow → List TimeWindow
  | [] => if cursor < base.stop then [⟨cursor, base.stop⟩] else []
  | block :: rest =>
    if block.start ≥ base.stop then
      if cursor < base.stop then [⟨cursor, base.stop⟩] else []
    else
      let blockStart := max block.start base.start
      let blockEnd := min block.stop base.stop
      let free := if blockStart > cursor then [⟨cursor, blockStart⟩] else []
      free ++ subtractFrom base (max cursor blockEnd) rest

def subtractWindows (base : TimeWindow) (used : List TimeWindow) : List TimeWindow :=
  subtractFrom base base.start (used.insertionSort fun a b => a.start ≤ b.start)

end OSK
