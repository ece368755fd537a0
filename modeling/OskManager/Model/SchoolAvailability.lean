import OskManager.Model.BusyLessons
import OskManager.Model.DayOptions

/-! The free slots of a school: `school-availability/queries.ts`, `access.ts`, `instructors.ts`,
`vehicleSlots.ts` and `instructor-availability/slots.ts`. Times of day are minutes. -/

namespace OSK

open Relational

/-! ### The slots of an instructor -/

structure SlotDto where
  date : Day
  startTime : ℤ
  endTime : ℤ
  deriving DecidableEq

/-- A duration that is not positive never gets past the end of the window; the loop then fills the
memory. -/
def splitWindowIntoSlots (window : TimeWindow) (slotDurationMinutes : ℤ) :
    Except Failure (List TimeWindow) := do
  throwIf (slotDurationMinutes ≤ 0 ∧ window.start + slotDurationMinutes ≤ window.stop)
    (Failure.other "JavaScript heap out of memory")
  return (stepsUpTo window.start (window.stop - slotDurationMinutes) slotDurationMinutes).map
    fun cursor => ⟨cursor, cursor + slotDurationMinutes⟩

/-- The slots of one date. -/
def daySlots (zone : PolishZone) (db : Db) (instructorId : Uuid) (slotDurationMinutes : ℤ)
    (date : Day) : Except Failure (List SlotDto) := do
  let freeWindows ← computeDayWindows zone db instructorId (yyyymmddToDate date)
  let slots ← (freeWindows.getD []).mapM fun window =>
    splitWindowIntoSlots window slotDurationMinutes
  return slots.flatten.map fun slot =>
    { date := dateToYYYYMMDD (yyyymmddToDate date), startTime := slot.start, endTime := slot.stop }

def generateSlotsInternal (zone : PolishZone) (db : Db) (instructorId : Uuid)
    (dateFrom dateTo : Day) (slotDurationMinutes : ℤ) : Except Failure (List SlotDto) := do
  let slots ← (stepsUpTo dateFrom dateTo 1).mapM
    (daySlots zone db instructorId slotDurationMinutes)
  return slots.flatten

namespace SchoolAvailability

/-! ### Access -/

structure SchoolSlotAccess where
  id : Uuid
  slotDurationMinutes : ℤ
  bookingMaxDaysAhead : ℤ

/-- `student: { userId }` of a row that names a student. -/
def ofStudentUser (db : Db) (studentId userId : Uuid) : Bool :=
  (db.studentProfiles.findUnique studentId).any fun p => decide (p.userId = userId)

def loadSchoolAndAssertSlotAccess (db : Db) (actor : Actor) (schoolId : Uuid) :
    Except Failure SchoolSlotAccess := do
  let school ← orThrow (db.drivingSchools.findFirst fun s =>
      decide (s.id = schoolId ∧ s.deletedAt = none))
    (.notFound "Driving school not found")
  match actor.role with
  | .admin => pure ()
  | .manager => throwIf (school.ownerId ≠ actor.id) (Failure.forbidden "Forbidden")
  | .student =>
    let link := db.studentSchools.findFirst fun link =>
      decide (link.schoolId = school.id) && ofStudentUser db link.studentId actor.id
    throwIf (link.isNone = true) (Failure.forbidden "Forbidden")
  | .instructor =>
    let link := db.instructorSchools.findFirst fun link =>
      decide (link.schoolId = school.id) &&
        (db.instructorProfiles.findUnique link.instructorId).any fun p =>
          decide (p.userId = actor.id)
    throwIf (link.isNone = true) (Failure.forbidden "Forbidden")
  let settings := db.schoolSettings.findUnique school.id
  return {
    id := school.id
    slotDurationMinutes := (settings.map (·.slotDurationMinutes)).getD 60
    bookingMaxDaysAhead := (settings.map (·.bookingMaxDaysAhead)).getD 30 }

/-! ### Instructors -/

structure InstructorMeta where
  firstName : String
  lastName : String

/-- The instructors of the school with an active user, the oldest profile first. -/
def schoolInstructorRows (db : Db) (schoolId : Uuid) : List (InstructorProfile × User) :=
  ((db.instructorSchools.findMany fun link => decide (link.schoolId = schoolId)).filterMap
    fun link =>
      (db.instructorProfiles.findUnique link.instructorId).bind fun profile =>
        ((db.users.findUnique profile.userId).filter fun u =>
          decide (u.deletedAt = none ∧ u.isActive = true ∧ u.role = .instructor)).map fun user =>
            (profile, user)).insertionSort
    fun a b => a.1.createdAt ≤ b.1.createdAt

structure InstructorSelection where
  instructorIds : List Uuid
  metaById : List (Uuid × InstructorMeta)

def loadSchoolInstructorSelection (db : Db) (schoolId : Uuid)
    (requestedInstructorIds : List Uuid) : Except Failure InstructorSelection := do
  let rows := schoolInstructorRows db schoolId
  let instructorIds := rows.map fun row => row.1.id
  let metaById := rows.map fun row => (row.1.id, ⟨row.2.firstName, row.2.lastName⟩)
  throwIf (∃ id ∈ requestedInstructorIds, id ∉ instructorIds)
    (Failure.badRequest "Invalid instructorIds")
  return {
    instructorIds := if requestedInstructorIds = [] then instructorIds
      else requestedInstructorIds
    metaById }

def filterInstructorIdsQualifiedForCourseType (db : Db) (instructorIds : List Uuid)
    (courseTypeId : Uuid) : List Uuid :=
  let rows := db.instructorProfiles.findMany fun p =>
    decide (p.id ∈ instructorIds ∧ p.hasActiveUser db = true ∧
      courseTypeId ∈ p.qualifiedCourseTypes)
  instructorIds.filter fun id => decide (id ∈ rows.map InstructorProfile.id)

/-! ### The course -/

/-- The course of the request, if it names one; a student has to take part in it. -/
def loadSlotCourse (db : Db) (actor : Actor) (schoolId : Uuid) :
    Option Uuid → Except Failure (Option Course)
  | none => return none
  | some courseId => do
    let course ← orThrow (db.courses.findFirst fun c =>
        decide (c.id = courseId ∧ c.schoolId = schoolId ∧ c.deletedAt = none))
      (.notFound "Course not found")
    let participant := db.courseParticipants.findFirst fun p =>
      decide (p.courseId = courseId) && ofStudentUser db p.studentId actor.id
    throwIf (actor.role = .student ∧ participant.isNone = true) (Failure.forbidden "Forbidden")
    return some course

/-- Only managers and admins are offered other instructors than the one of the course. -/
def courseInstructorIds (db : Db) (actor : Actor) (course : Course) (instructorIds : List Uuid) :
    List Uuid :=
  let ids := match course.instructorId with
    | some instructorId =>
      if actor.role ≠ .manager ∧ actor.role ≠ .admin then
        instructorIds.filter fun id => decide (id = instructorId)
      else instructorIds
    | none => instructorIds
  filterInstructorIdsQualifiedForCourseType db ids course.courseTypeId

/-! ### Vehicles -/

/-- The bookings of a vehicle that cross the range. -/
def busyOfVehicle (db : Db) (rangeStart rangeEnd : Instant) (vehicleId : Uuid) :
    List ScheduleWindow :=
  let lessons := db.lessons.findMany fun l =>
    decide (l.vehicleId = some vehicleId) && l.busyDuring rangeStart rangeEnd none
  let events := db.instructorEvents.findMany fun e =>
    decide (e.vehicleId = some vehicleId ∧ e.type = .drive) && e.busyDuring rangeStart rangeEnd none
  (lessons.map fun l => ⟨l.startTime, l.endTime⟩) ++ (events.map fun e => ⟨e.startTime, e.endTime⟩)

/-- The answer for one slot, with the fleet as it was loaded. -/
def vehicleFitsSlot (zone : PolishZone) (busyByVehicle : List (List ScheduleWindow))
    (slot : SlotDto) : Except Failure Bool := do
  let start ← polishLocalDateTimeToDate zone slot.date slot.startTime
  let stop ← polishLocalDateTimeToDate zone slot.date slot.endTime
  return busyByVehicle.any fun busy =>
    !busy.any fun b => decide (b.start < stop) && decide (b.stop > start)

def loadCourseVehicleSlotFilter (env : Env) (schoolId courseTypeId : Uuid)
    (dateFrom dateTo : Day) : Service (SlotDto → Except Failure Bool) := do
  refreshExpiredVehicleUnavailabilitiesForSchool env schoolId
  Prog.query fun db =>
    let vehicles := db.vehicles.findMany fun v =>
      decide (v.schoolId = schoolId ∧ v.isActive = true ∧ v.availabilityStatus = .active ∧
        courseTypeId ∈ v.supportedCourseTypes)
    if vehicles = [] then return fun _ => return false
    else do
      let rangeStart ← polishLocalDateTimeToDate env.zone dateFrom 0
      let rangeEnd ← polishLocalDateTimeToDate env.zone (dateTo + 1) 0
      return vehicleFitsSlot env.zone
        (vehicles.map fun v => busyOfVehicle db rangeStart rangeEnd v.id)

/-! ### The listing -/

/-- `localeCompare` of the runtime: a total preorder of texts. -/
structure Collation where
  localeCompare : String → String → Ordering
  localeCompare_trans : Std.TransCmp localeCompare

inductive SlotSort where
  | startTime | instructorName
  deriving DecidableEq

/-- The request schema bounds the duration to 15..240 and the limit to 1..500. -/
structure SchoolAvailabilitySlotsQuery where
  dateFrom : Day
  dateTo : Day
  instructorIds : List Uuid := []
  timeFrom : Option ℤ := none
  timeTo : Option ℤ := none
  weekdays : List ℤ := []
  slotDurationMinutes : Option ℤ := none
  courseId : Option Uuid := none
  sort : SlotSort := .startTime
  limit : Option ℕ := none
  offset : Option ℕ := none
  excludeMyLessons : Option Bool := none

structure SchoolSlotItemDto where
  instructorId : Uuid
  instructorFirstName : String
  instructorLastName : String
  date : Day
  startTime : ℤ
  endTime : ℤ
  deriving DecidableEq

structure ListSchoolSlotsResult where
  slots : List SchoolSlotItemDto
  total : ℕ
  deriving DecidableEq

/-- The ids are compared as the numbers they are; their texts have one length and one case. -/
def compareByStartTime : SchoolSlotItemDto → SchoolSlotItemDto → Ordering :=
  compareLex (compareOn (·.date)) <| compareLex (compareOn (·.startTime)) (compareOn (·.instructorId))

def compareByInstructorName (c : Collation) : SchoolSlotItemDto → SchoolSlotItemDto → Ordering :=
  compareLex (fun a b => c.localeCompare a.instructorLastName b.instructorLastName) <|
    compareLex (fun a b => c.localeCompare a.instructorFirstName b.instructorFirstName) <|
      compareLex (compareOn (·.date)) (compareOn (·.startTime))

def SlotSort.compare (c : Collation) : SlotSort → SchoolSlotItemDto → SchoolSlotItemDto → Ordering
  | .startTime => compareByStartTime
  | .instructorName => compareByInstructorName c

def effectiveDateFrom (env : Env) (actor : Actor) (query : SchoolAvailabilitySlotsQuery) : Day :=
  if actor.role = .student ∧ query.dateFrom < polishTodayYyyymmdd env then polishTodayYyyymmdd env
  else query.dateFrom

def effectiveDateTo (env : Env) (school : SchoolSlotAccess)
    (query : SchoolAvailabilitySlotsQuery) : Day :=
  let maxBookable := addDaysYyyymmdd (polishTodayYyyymmdd env) school.bookingMaxDaysAhead
  if query.dateTo > maxBookable then maxBookable else query.dateTo

/-- The filters of the loop, in its order. -/
def slotIsListed (query : SchoolAvailabilitySlotsQuery) (busyIntervals : List BusyInterval)
    (vehicleFits : SlotDto → Except Failure Bool) (slot : SlotDto) : Except Failure Bool :=
  let dow := dayOfWeekOf slot.date
  if query.weekdays ≠ [] ∧ dow ∉ query.weekdays then return false
  else if query.timeFrom.any fun timeFrom => decide (slot.startTime < timeFrom) then return false
  else if query.timeTo.any fun timeTo => decide (slot.endTime > timeTo) then return false
  else if busyIntervals.any fun busy => slotOverlapsLesson slot.date slot.startTime slot.endTime
      busy.date busy.startMin busy.endMin then return false
  else vehicleFits slot

/-- The listed slots among the slots of one instructor. -/
def listedSlots (query : SchoolAvailabilitySlotsQuery) (busyIntervals : List BusyInterval)
    (vehicleFits : SlotDto → Except Failure Bool) : List SlotDto → Except Failure (List SlotDto)
  | [] => return []
  | slot :: rest => do
    let listed ← slotIsListed query busyIntervals vehicleFits slot
    let others ← listedSlots query busyIntervals vehicleFits rest
    return if listed then slot :: others else others

def slotItem (instructorId : Uuid) (names : InstructorMeta) (slot : SlotDto) :
    SchoolSlotItemDto where
  instructorId
  instructorFirstName := names.firstName
  instructorLastName := names.lastName
  date := slot.date
  startTime := slot.startTime
  endTime := slot.endTime

/-- The slots of one instructor of the loop; one without names is skipped. -/
def instructorItems (zone : PolishZone) (db : Db) (query : SchoolAvailabilitySlotsQuery)
    (dateFrom dateTo : Day) (slotDurationMinutes : ℤ) (metaById : List (Uuid × InstructorMeta))
    (busyIntervals : List BusyInterval) (vehicleFits : SlotDto → Except Failure Bool)
    (instructorId : Uuid) : Except Failure (List SchoolSlotItemDto) := do
  let rawSlots ← generateSlotsInternal zone db instructorId dateFrom dateTo slotDurationMinutes
  match metaById.lookup instructorId with
  | none => return []
  | some names =>
    let listed ← listedSlots query busyIntervals vehicleFits rawSlots
    return listed.map (slotItem instructorId names)

/-- All slots, in the order of the request. -/
def allSchoolSlots (env : Env) (c : Collation) (actor : Actor) (schoolId : Uuid)
    (query : SchoolAvailabilitySlotsQuery) : Service (List SchoolSlotItemDto) := do
  let school ← Prog.query fun db => loadSchoolAndAssertSlotAccess db actor schoolId
  let dateFrom := effectiveDateFrom env actor query
  let dateTo := effectiveDateTo env school query
  if dateFrom > dateTo then return []
  else do
    let slotDurationMinutes := query.slotDurationMinutes.getD school.slotDurationMinutes
    let selection ← Prog.query fun db =>
      loadSchoolInstructorSelection db school.id query.instructorIds
    let course ← Prog.query fun db => loadSlotCourse db actor school.id query.courseId
    let instructorIds ← Prog.query fun db => .ok (course.elim selection.instructorIds fun course =>
      courseInstructorIds db actor course selection.instructorIds)
    let excludeMyLessons := query.excludeMyLessons.getD (decide (actor.role = .student))
    let busyIntervals ← Prog.query fun db =>
      loadStudentBusyIntervals env.zone db actor dateFrom dateTo excludeMyLessons
    let vehicleFits ← match course with
      | some course =>
        loadCourseVehicleSlotFilter env school.id course.courseTypeId dateFrom dateTo
      | none => pure fun _ => return true
    let all ← Prog.query fun db => instructorIds.mapM (instructorItems env.zone db query dateFrom
      dateTo slotDurationMinutes selection.metaById busyIntervals vehicleFits)
    return all.flatten.insertionSort fun a b => (query.sort.compare c a b).isLE = true

def listSchoolAvailabilitySlots (env : Env) (c : Collation) (actor : Actor) (schoolId : Uuid)
    (query : SchoolAvailabilitySlotsQuery) : Service ListSchoolSlotsResult := do
  let all ← allSchoolSlots env c actor schoolId query
  let limit := query.limit.getD 200
  let offset := query.offset.getD 0
  return { slots := (all.drop offset).take limit, total := all.length }

end SchoolAvailability

end OSK
