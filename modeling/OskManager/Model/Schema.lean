import Mathlib.Data.Int.Bitwise
import Mathlib.Data.Int.ConditionallyCompleteOrder
import Mathlib.Data.Rat.Defs
import Mathlib.Order.ConditionallyCompleteLattice.Basic
import OskManager.Lib.Table

/-! The database: one table for each Prisma model the scheduling and account services read or
write, with the columns they use. Instants are milliseconds since the epoch, `Date`
columns are days since 1970-01-01 and `Time` columns are milliseconds of a day. -/

namespace OSK

open Relational

abbrev Uuid := ℕ
abbrev Instant := ℤ
abbrev Day := ℤ

/-- Keys of two ids are compared id by id. -/
instance : LawfulBEq (Uuid × Uuid) := inferInstance

inductive Role where
  | student | instructor | manager | admin
  deriving DecidableEq, Repr

inductive LessonType where
  | theory | practice
  deriving DecidableEq, Repr

inductive LessonStatus where
  | scheduled | completed | cancelled
  deriving DecidableEq, Repr

inductive CourseKind where
  | theoryGroup | practical | extra
  deriving DecidableEq, Repr

inductive CourseParticipantStatus where
  | active | finished
  deriving DecidableEq, Repr

inductive VehicleAvailabilityStatus where
  | active | unavailable
  deriving DecidableEq, Repr

inductive EventType where
  | drive | theory
  deriving DecidableEq, Repr

inductive EventStatus where
  | planned | done | noShow | cancelled
  deriving DecidableEq, Repr

inductive InstructorTimeBlockType where
  | break | meeting | other
  deriving DecidableEq, Repr

inductive PaymentStatus where
  | pending | paid | failed
  deriving DecidableEq, Repr

/-- The texts that the services write into the column. -/
inductive AccountActionKind where
  | profileUpdate | block | unblock | archive | emailChange | passwordResetRequest
  deriving DecidableEq, Repr

inductive AccountActionStatus where
  | pending | authUpdated | repairRequired | requesting | completed | failed
  deriving DecidableEq, Repr

structure User where
  id : Uuid
  firstName : String := ""
  lastName : String := ""
  role : Role
  email : String := ""
  phone : Option String := none
  isActive : Bool := true
  deletedAt : Option Instant := none
  defaultOskId : Option Uuid := none

structure UserProfile where
  userId : Uuid
  avatarUrl : Option String := none

structure InstructorProfile where
  id : Uuid
  userId : Uuid
  qualifiedCourseTypes : List Uuid
  experienceYears : Option ℤ := none
  qualifications : Option String := none
  createdAt : Instant := 0

structure StudentProfile where
  id : Uuid
  userId : Uuid
  pkkNumber : Option String := none
  createdAt : Instant := 0

structure DrivingSchool where
  id : Uuid
  name : String := ""
  city : Option String := none
  address : Option String := none
  ownerId : Uuid
  createdAt : Instant := 0
  deletedAt : Option Instant := none
  defaultVehicleId : Option Uuid := none

/-- The two bounds on the short final lesson are a CHECK constraint of the table. -/
structure SchoolSettings where
  schoolId : Uuid
  workingDaysMask : ℤ := 62
  slotMustStartFullHour : Bool := true
  slotDurationMinutes : ℤ := 60
  practiceMinDurationMinutes : ℤ := 60
  practiceMaxDurationMinutes : ℤ := 120
  allowShortFinalPracticeLesson : Bool := true
  minFinalPracticeDurationMinutes : ℤ := 30
  theoryMinDurationMinutes : ℤ := 45
  theoryMaxDurationMinutes : ℤ := 90
  bookingMaxDaysAhead : ℤ := 30
  enabledCourseKinds : List CourseKind := []
  offeredCourseTypes : List Uuid := []
  min_final_pos : 0 < minFinalPracticeDurationMinutes := by decide
  min_final_le : minFinalPracticeDurationMinutes ≤ practiceMinDurationMinutes := by decide

structure InstructorSchool where
  instructorId : Uuid
  schoolId : Uuid

structure StudentSchool where
  studentId : Uuid
  schoolId : Uuid

structure Vehicle where
  id : Uuid
  schoolId : Uuid
  name : String := ""
  registrationNumber : String := ""
  inspectionDate : Option Instant := none
  insuranceDate : Option Instant := none
  brand : Option String := none
  model : Option String := none
  photoUrl : Option String := none
  modelYear : Option ℤ := none
  mileageKm : Option ℤ := none
  note : Option String := none
  supportedCourseTypes : List Uuid
  availabilityStatus : VehicleAvailabilityStatus := .active
  unavailableUntil : Option Day := none
  isActive : Bool := true
  createdAt : Instant := 0

structure CourseType where
  id : Uuid
  code : String
  name : String := ""

/-- Both request schemas that write `totalHours` want it positive. -/
structure Course where
  id : Uuid
  schoolId : Uuid
  name : String := ""
  category : String := ""
  courseTypeId : Uuid
  kind : CourseKind
  totalHours : ℤ
  capacity : Option ℤ := none
  theoryStartDate : Option Day := none
  theoryEndDate : Option Day := none
  instructorId : Option Uuid := none
  status : String := "active"
  createdAt : Instant := 0
  deletedAt : Option Instant := none
  total_hours_pos : 0 < totalHours := by decide

structure CourseParticipant where
  courseId : Uuid
  studentId : Uuid
  status : CourseParticipantStatus := .active

/-- The last two fields are CHECK constraints of the table, so no row breaks them. -/
structure Lesson where
  id : Uuid
  courseId : Uuid
  studentId : Uuid
  instructorId : Uuid
  vehicleId : Option Uuid
  lessonType : LessonType := .practice
  startTime : Instant
  endTime : Instant
  status : LessonStatus := .scheduled
  createdAt : Instant := 0
  deletedAt : Option Instant := none
  start_before_end : startTime < endTime := by decide
  practice_requires_vehicle : lessonType = .practice → vehicleId.isSome = true := by decide

structure InstructorWorkingHoursDefault where
  instructorId : Uuid
  dayOfWeek : ℤ
  startTime : ℤ
  endTime : ℤ

structure InstructorWorkingHours where
  instructorId : Uuid
  date : Day
  startTime : Option ℤ
  endTime : Option ℤ
  isDayOff : Bool := false

structure InstructorTimeBlock where
  id : Uuid
  instructorId : Uuid
  schoolId : Option Uuid := none
  startTime : Instant
  endTime : Instant
  type : InstructorTimeBlockType := .other

structure InstructorLeave where
  id : Uuid
  instructorId : Uuid
  startDate : Day
  endDate : Day

structure InstructorEvent where
  id : Uuid
  instructorId : Uuid
  schoolId : Uuid
  courseId : Option Uuid := none
  type : EventType
  startTime : Instant
  endTime : Instant
  vehicleId : Option Uuid := none
  capacity : Option ℤ := none
  isActive : Bool := true
  status : EventStatus := .planned
  createdAt : Instant := 0
  deriving DecidableEq

structure EventParticipant where
  id : Uuid := 0
  eventId : Uuid
  studentId : Uuid
  createdAt : Instant := 0

structure PaymentPlan where
  id : Uuid
  courseId : Uuid
  currency : String := "PLN"

structure Payment where
  id : Uuid
  paymentPlanId : Uuid
  amount : ℚ
  dueDate : Option Day := none
  paidAt : Option Instant := none
  status : PaymentStatus := .pending
  method : Option String := none
  createdAt : Instant := 0

structure LessonRating where
  id : Uuid
  lessonId : Uuid
  studentId : Uuid
  instructorId : Uuid
  rating : ℤ
  comment : Option String := none
  createdAt : Instant := 0

structure AccountSession where
  sessionId : Uuid
  userId : Uuid
  createdAt : Instant := 0
  revokedAt : Option Instant := none

structure AccountAction where
  id : Uuid
  actorId : Uuid
  targetId : Uuid
  schoolId : Uuid
  action : AccountActionKind
  status : AccountActionStatus
  oldValue : Option String := none
  newValue : Option String := none
  createdAt : Instant := 0

/-- Each table is keyed by its primary key or by the unique index its lookups use. -/
structure Db where
  users : Table User.id := .empty
  userProfiles : Table UserProfile.userId := .empty
  instructorProfiles : Table InstructorProfile.id := .empty
  studentProfiles : Table StudentProfile.id := .empty
  drivingSchools : Table DrivingSchool.id := .empty
  schoolSettings : Table SchoolSettings.schoolId := .empty
  instructorSchools : Table InstructorSchool.instructorId := .empty
  studentSchools : Table StudentSchool.studentId := .empty
  vehicles : Table Vehicle.id := .empty
  courseTypes : Table CourseType.id := .empty
  courses : Table Course.id := .empty
  courseParticipants : Table (fun p : CourseParticipant => (p.courseId, p.studentId)) := .empty
  lessons : Table Lesson.id := .empty
  workingHoursDefault :
    Table (fun h : InstructorWorkingHoursDefault => (h.instructorId, h.dayOfWeek)) := .empty
  workingHours : Table (fun h : InstructorWorkingHours => (h.instructorId, h.date)) := .empty
  timeBlocks : Table InstructorTimeBlock.id := .empty
  leaves : Table InstructorLeave.id := .empty
  instructorEvents : Table InstructorEvent.id := .empty
  eventParticipants : Table (fun p : EventParticipant => (p.eventId, p.studentId)) := .empty
  paymentPlans : Table PaymentPlan.id := .empty
  payments : Table Payment.id := .empty
  lessonRatings : Table LessonRating.id := .empty
  accountSessions : Table AccountSession.sessionId := .empty
  accountActions : Table AccountAction.id := .empty

structure Actor where
  id : Uuid
  role : Role

/-- What Prisma's `startTime: { lt: end }, endTime: { gt: start }` selects. -/
def crosses (startTime endTime start stop : Instant) : Bool :=
  decide (startTime < stop) && decide (start < endTime)

@[simp] theorem crosses_eq_true (startTime endTime start stop : Instant) :
    crosses startTime endTime start stop = true ↔ startTime < stop ∧ start < endTime := by
  simp [crosses]

def Lesson.occupies (l : Lesson) : Bool := decide (l.status ≠ .cancelled)

def InstructorEvent.occupies (e : InstructorEvent) : Bool :=
  e.isActive && decide (e.status ≠ .cancelled)

/-- A scheduled lesson that lies ahead or is going on. -/
def Lesson.isPending (now : Instant) (l : Lesson) : Bool :=
  decide (l.deletedAt = none ∧ l.status = .scheduled ∧ now < l.endTime)

/-- A planned event that lies ahead or is going on. -/
def InstructorEvent.isPending (now : Instant) (e : InstructorEvent) : Bool :=
  decide (e.isActive = true ∧ e.status = .planned ∧ now < e.endTime)

@[simp] theorem Lesson.occupies_eq_true (l : Lesson) :
    l.occupies = true ↔ l.status ≠ .cancelled := by
  simp [Lesson.occupies]

@[simp] theorem InstructorEvent.occupies_eq_true (e : InstructorEvent) :
    e.occupies = true ↔ e.isActive = true ∧ e.status ≠ .cancelled := by
  simp [InstructorEvent.occupies]

end OSK
