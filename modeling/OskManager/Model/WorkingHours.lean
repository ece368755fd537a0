import OskManager.Lib.Upsert
import OskManager.Model.Access
import OskManager.Model.InstructorAvailability
import OskManager.Model.Vehicles

/-! The hours that are set for an instructor: `instructor-availability/weekly.ts` and
`exceptions.ts` with the bodies of `instructor-availability.schemas.ts`. Times of day in a body are
minutes. -/

namespace OSK

open Relational

structure PutWeeklyBody where
  startTime : ℤ
  endTime : ℤ
  inDay : 0 ≤ startTime ∧ endTime < minutesPerDay
  start_before_end : startTime < endTime

structure PutExceptionBody where
  isDayOff : Bool
  startTime : Option ℤ := none
  endTime : Option ℤ := none
  inDay : ∀ t, startTime = some t ∨ endTime = some t → 0 ≤ t ∧ t < minutesPerDay
  hours : isDayOff = false → ∃ a b, startTime = some a ∧ endTime = some b ∧ a < b

structure WeeklyEntryDto where
  dayOfWeek : ℤ
  startTime : ℤ
  endTime : ℤ

structure ExceptionEntryDto where
  date : Day
  isDayOff : Bool
  startTime : Option ℤ
  endTime : Option ℤ

def hhmmToDbTime (minutes : ℤ) : ℤ := minutes * msPerMinute

/-- What every function of the two files begins with. -/
def assertActorManagesActive (db : Db) (actor : Actor) (instructorId : Uuid) :
    Except Failure Unit := do
  assertActorCanManageAvailability db actor instructorId
  resolveActiveInstructorProfile db instructorId

def InstructorWorkingHoursDefault.dto (row : InstructorWorkingHoursDefault) : WeeklyEntryDto :=
  ⟨row.dayOfWeek, dbTimeToMinutes row.startTime, dbTimeToMinutes row.endTime⟩

def formatExceptionDto (row : InstructorWorkingHours) : ExceptionEntryDto :=
  ⟨row.date, row.isDayOff, row.startTime.map dbTimeToMinutes, row.endTime.map dbTimeToMinutes⟩

def PutWeeklyBody.row (body : PutWeeklyBody) (instructorId : Uuid) (dayOfWeek : ℤ) :
    InstructorWorkingHoursDefault where
  instructorId
  dayOfWeek
  startTime := hhmmToDbTime body.startTime
  endTime := hhmmToDbTime body.endTime

def PutExceptionBody.row (body : PutExceptionBody) (instructorId : Uuid) (date : Day) :
    InstructorWorkingHours where
  instructorId
  date
  isDayOff := body.isDayOff
  startTime := body.startTime.map hhmmToDbTime
  endTime := body.endTime.map hhmmToDbTime

def upsertWeeklyDay (actor : Actor) (instructorId : Uuid) (dayOfWeek : ℤ) (body : PutWeeklyBody) :
    Service WeeklyEntryDto := do
  Prog.query fun db => assertActorManagesActive db actor instructorId
  let row := body.row instructorId dayOfWeek
  Prog.write fun db => { db with workingHoursDefault := db.workingHoursDefault.upsert row }
  return row.dto

def deleteWeeklyDay (actor : Actor) (instructorId : Uuid) (dayOfWeek : ℤ) : Service Unit := do
  Prog.query fun db => assertActorManagesActive db actor instructorId
  let deleted ← Prog.query fun db =>
    .ok (db.workingHoursDefault.findUnique (instructorId, dayOfWeek))
  Prog.write fun db =>
    { db with workingHoursDefault := db.workingHoursDefault.deleteKey (instructorId, dayOfWeek) }
  throwIf (deleted.isNone = true) (Failure.notFound "Schedule entry not found")

def upsertException (actor : Actor) (instructorId : Uuid) (date : Day) (body : PutExceptionBody) :
    Service ExceptionEntryDto := do
  Prog.query fun db => assertActorManagesActive db actor instructorId
  let row := body.row instructorId date
  Prog.write fun db => { db with workingHours := db.workingHours.upsert row }
  return formatExceptionDto row

def deleteException (actor : Actor) (instructorId : Uuid) (date : Day) : Service Unit := do
  Prog.query fun db => assertActorManagesActive db actor instructorId
  let deleted ← Prog.query fun db => .ok (db.workingHours.findUnique (instructorId, date))
  Prog.write fun db => { db with workingHours := db.workingHours.deleteKey (instructorId, date) }
  throwIf (deleted.isNone = true) (Failure.notFound "Exception not found")

end OSK
