import OskManager.Lib.Calendar
import OskManager.Lib.Groups
import OskManager.Model.DayOptions

/-! The schedule of the development seed: `devResetSeed/schedulePlanner.ts` reserves its slots,
`devResetSeed/scheduleIntegrity.ts` checks the rows that are about to be written. The ids are the
texts that the two take; what is not given or empty is no id. -/

namespace OSK

open Relational

/-- The id in a condition: it must be there and not empty. -/
def givenId (id : Option String) : Option String := id.filter fun s => decide (s ≠ "")

/-! ### The planner -/

/-- The server's own time zone as `Date` uses it: its offset at an instant and the instant of a
time on the server's clock. -/
structure ServerZone where
  offset : Instant → ℤ
  instant : ℤ → Instant

def addDays (server : ServerZone) (date : Instant) (days : ℤ) : Instant :=
  server.instant (date + server.offset date + days * msPerDay)

def atTime (zone : PolishZone) (date : Instant) (hour minute : ℤ) : Except Failure Instant :=
  polishLocalDateTimeToDate zone (instantToPolishDateTime zone date).date (hour * 60 + minute)

structure SeedWorkingWindow where
  dayOfWeek : ℤ
  startTime : Instant
  endTime : Instant

structure SeedWorkingException where
  date : Instant
  startTime : Option Instant
  endTime : Option Instant
  isDayOff : Bool

structure SeedLeave where
  startDate : Instant
  endDate : Instant

structure SeedInstructorCalendar where
  windows : List SeedWorkingWindow
  exceptions : List SeedWorkingException
  leaves : List SeedLeave

structure SeedSlotRequest where
  anchor : Instant
  durationMinutes : ℤ
  instructorId : String
  studentIds : Option (List String) := none
  vehicleId : Option String := none
  slotIndex : Option ℤ := none
  stepMinutes : Option ℤ := none

abbrev Reservations := Groups String ScheduleWindow

def timeOnlyMinutes (value : Instant) : ℤ := value % msPerDay / msPerMinute

def dateKey (zone : PolishZone) (value : Instant) : Day := (instantToPolishDateTime zone value).date

def overlaps (a b : ScheduleWindow) : Bool := decide (a.start < b.stop) && decide (a.stop > b.start)

def resolveWindow (zone : PolishZone) (calendar : SeedInstructorCalendar) (date : Instant) :
    Option (Instant × Instant) :=
  let key := dateKey zone date
  if calendar.leaves.any fun leave =>
      decide (key ≥ dateKey zone leave.startDate) && decide (key ≤ dateKey zone leave.endDate) then
    none
  else
    match calendar.exceptions.find? fun item => decide (dateKey zone item.date = key) with
    | some found =>
      if found.isDayOff then none
      else
        match found.startTime, found.endTime with
        | some startTime, some endTime => some (startTime, endTime)
        | _, _ => none
    | none =>
      let dayOfWeek := (instantToPolishDateTime zone date).dayOfWeek
      (calendar.windows.find? fun item => decide (item.dayOfWeek = dayOfWeek)).map fun window =>
        (window.startTime, window.endTime)

def SeedSlotRequest.resourceKeys (request : SeedSlotRequest) : List String :=
  (("instructor:" ++ request.instructorId) ::
    ((request.studentIds.getD []).map ("student:" ++ ·) ++
      ((givenId request.vehicleId).map ("vehicle:" ++ ·)).toList)).eraseDups

/-- The starts of one day, from the rotated one on. -/
def orderedStarts (starts : List ℤ) (slotIndex : Option ℤ) : List ℤ :=
  let rotation := (slotIndex.getD 0).natAbs % starts.length
  starts.drop rotation ++ starts.take rotation

/-- The loop over the starts of one day. -/
def firstFreeStart (zone : PolishZone) (reservations : Reservations) (resourceKeys : List String)
    (date : Instant) (durationMinutes : ℤ) : List ℤ → Except Failure (Option ScheduleWindow)
  | [] => return none
  | startMinute :: rest => do
    let endMinute := startMinute + durationMinutes
    let start ← atTime zone date (startMinute / 60) (startMinute % 60)
    let stop ← atTime zone date (endMinute / 60) (endMinute % 60)
    let reservation : ScheduleWindow := { start, stop }
    if resourceKeys.any fun key => (reservations.get key).any fun existing =>
        overlaps existing reservation then
      firstFreeStart zone reservations resourceKeys date durationMinutes rest
    else return some reservation

/-- One round of the loop over the days. -/
def firstFreeOnDay (zone : PolishZone) (reservations : Reservations)
    (calendar : SeedInstructorCalendar) (request : SeedSlotRequest) (stepMinutes : ℤ)
    (date : Instant) : Except Failure (Option ScheduleWindow) :=
  match resolveWindow zone calendar date with
  | none => return none
  | some (startTime, endTime) =>
    let windowStart := timeOnlyMinutes startTime
    let latestStart := timeOnlyMinutes endTime - request.durationMinutes
    if latestStart < windowStart then return none
    else
      firstFreeStart zone reservations request.resourceKeys date request.durationMinutes
        (orderedStarts (stepsUpTo windowStart latestStart stepMinutes) request.slotIndex)

/-- The loop over the days; the last argument lists the days that are still to be tried. -/
def firstFreeSlot (zone : PolishZone) (reservations : Reservations)
    (calendar : SeedInstructorCalendar) (request : SeedSlotRequest) (stepMinutes : ℤ) :
    List Instant → Except Failure (Option ScheduleWindow)
  | [] => return none
  | date :: rest => do
    let slot ← firstFreeOnDay zone reservations calendar request stepMinutes date
    match slot with
    | some slot => return some slot
    | none => firstFreeSlot zone reservations calendar request stepMinutes rest

def planDays : ℕ := 120

def findSlot (zone : PolishZone) (server : ServerZone)
    (calendars : String → Option SeedInstructorCalendar) (request : SeedSlotRequest)
    (reservations : Reservations) : Except Failure ScheduleWindow := do
  throwIf (request.durationMinutes ≤ 0) (.other "Seed slot duration must be positive")
  let calendar ← orThrow (calendars request.instructorId)
    (.other ("Missing seed calendar for instructor " ++ request.instructorId))
  let stepMinutes := request.stepMinutes.getD 60
  throwIf (stepMinutes ≤ 0) (.other "Seed slot step must be positive")
  let days := (List.range planDays).map fun dayOffset : ℕ =>
    addDays server request.anchor dayOffset
  let slot ← firstFreeSlot zone reservations calendar request stepMinutes days
  orThrow slot (.other ("No conflict-free seed slot for instructor " ++ request.instructorId))

/-- The reservations are written only once a slot has been found. -/
def reserve (zone : PolishZone) (server : ServerZone)
    (calendars : String → Option SeedInstructorCalendar) (request : SeedSlotRequest) :
    Prog Failure Reservations ScheduleWindow := do
  let slot ← Prog.query (findSlot zone server calendars request)
  Prog.write fun reservations =>
    request.resourceKeys.foldl (fun m key => m.push key slot) reservations
  return slot

/-! ### The check -/

/-- The dates are those that `new Date(...)` reads; there is none where it reads no date. -/
structure SeedLesson where
  id : Option String := none
  studentId : String
  instructorId : String
  vehicleId : Option String := none
  startTime : Option Instant
  endTime : Option Instant
  status : Option LessonStatus := none

structure SeedEvent where
  id : Option String := none
  instructorId : String
  vehicleId : Option String := none
  startTime : Option Instant
  endTime : Option Instant
  isActive : Option Bool := none
  status : Option EventStatus := none

structure SeedEventParticipant where
  eventId : String
  studentId : String
  deriving DecidableEq

structure SeedTimeBlock where
  id : Option String := none
  instructorId : String
  startTime : Option Instant
  endTime : Option Instant

structure IntegrityInput where
  lessons : List SeedLesson := []
  events : List SeedEvent := []
  eventParticipants : List SeedEventParticipant := []
  blocks : List SeedTimeBlock := []

structure ResourceWindow where
  entry : String
  start : Instant
  stop : Instant

abbrev Resources := Groups String ResourceWindow

def createWindow (entry : String) (startTime endTime : Option Instant) :
    Except Failure ResourceWindow :=
  match startTime, endTime with
  | some start, some stop =>
    if start ≥ stop then .error (.other ("Invalid seed schedule window for " ++ entry))
    else return { entry, start, stop }
  | _, _ => .error (.other ("Invalid seed schedule window for " ++ entry))

def addWindow (resources : Resources) (key : String) (window : ResourceWindow) : Resources :=
  resources.push key window

def addLesson (resources : Resources) (lesson : SeedLesson) : Except Failure Resources :=
  if lesson.status = some .cancelled then return resources
  else do
    let window ← createWindow ("lesson:" ++ lesson.id.getD "missing-id")
      lesson.startTime lesson.endTime
    let resources := addWindow resources ("instructor:" ++ lesson.instructorId) window
    let resources := addWindow resources ("student:" ++ lesson.studentId) window
    return match givenId lesson.vehicleId with
      | some vehicleId => addWindow resources ("vehicle:" ++ vehicleId) window
      | none => resources

def addEvent (participantsByEvent : Groups String String) (resources : Resources)
    (event : SeedEvent) : Except Failure Resources :=
  if event.isActive = some false ∨ event.status = some .cancelled then return resources
  else do
    let id ← orThrow (givenId event.id) (.other "Seed schedule event is missing an id")
    let window ← createWindow ("event:" ++ id) event.startTime event.endTime
    let resources := addWindow resources ("instructor:" ++ event.instructorId) window
    let resources := match givenId event.vehicleId with
      | some vehicleId => addWindow resources ("vehicle:" ++ vehicleId) window
      | none => resources
    return (participantsByEvent.get id).foldl
      (fun m studentId => addWindow m ("student:" ++ studentId) window) resources

def addBlock (resources : Resources) (block : SeedTimeBlock) : Except Failure Resources := do
  let window ← createWindow ("block:" ++ block.id.getD "missing-id") block.startTime block.endTime
  return addWindow resources ("instructor:" ++ block.instructorId) window

/-- Ordered by start, then by end. -/
def windowOrder (a b : ResourceWindow) : Prop :=
  a.start < b.start ∨ a.start = b.start ∧ a.stop ≤ b.stop

instance : DecidableRel windowOrder := fun _ _ => inferInstanceAs (Decidable (_ ∨ _))

def checkResource (group : String × List ResourceWindow) : Except Failure Unit :=
  match Booking.firstOverlap ResourceWindow.start ResourceWindow.stop
      (group.2.insertionSort windowOrder) with
  | some (previous, current) =>
    .error (.other ("Seed schedule conflict for " ++ group.1 ++ ": " ++ previous.entry ++
      " overlaps " ++ current.entry))
  | none => .ok ()

def participantsByEvent (input : IntegrityInput) : Groups String String :=
  input.eventParticipants.foldl (fun m participant =>
    m.push participant.eventId participant.studentId) Groups.empty

def assertSeedScheduleIntegrity (input : IntegrityInput) : Except Failure Unit := do
  let resources ← input.lessons.foldlM addLesson Groups.empty
  let resources ← input.events.foldlM (addEvent (participantsByEvent input)) resources
  let resources ← input.blocks.foldlM addBlock resources
  forEach checkResource resources.entries

end OSK
