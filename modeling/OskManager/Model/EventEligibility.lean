import OskManager.Model.Participants

/-! The students of the course of a theory event, with whether they can be assigned to it:
`event/eligibility.ts`. -/

namespace OSK

open Relational

structure TheoryEventEligibleCapacityDto where
  limit : Option ℤ
  used : ℕ
  remaining : Option ℤ

structure TheoryEventEligibleStudentRowDto where
  id : Uuid
  userId : Uuid
  firstName : String
  lastName : String
  email : String
  phone : Option String
  avatarUrl : Option String
  pkkNumber : Option String
  isActive : Bool
  createdAt : Instant
  isAssignedToEvent : Bool
  hasScheduleConflict : Bool
  canAssign : Bool

structure ListTheoryEventEligibleStudentsResult where
  courseId : Uuid
  capacity : TheoryEventEligibleCapacityDto
  students : List TheoryEventEligibleStudentRowDto

/-- By last name and then by first name, as the database compares texts. -/
def TheoryEventEligibleStudentRowDto.before (textLE : String → String → Bool)
    (a b : TheoryEventEligibleStudentRowDto) : Bool :=
  textLE a.lastName b.lastName && (!textLE b.lastName a.lastName || textLE a.firstName b.firstName)

def remainingSeats (limit : Option ℤ) (used : ℕ) : Option ℤ := limit.map fun n => max 0 (n - used)

/-- The row of an active participant of the course. -/
def eligibleStudentRow (db : Db) (assignedStudentIds conflictingIds : List Uuid)
    (remaining : Option ℤ) (courseParticipant : CourseParticipant) :
    Except Failure TheoryEventEligibleStudentRowDto := do
  let student ← orThrow (db.studentProfiles.findUnique courseParticipant.studentId)
    (.other "Inconsistent query result: Field student is required")
  let user ← orThrow (db.users.findUnique student.userId)
    (.other "Inconsistent query result: Field user is required")
  let isAssignedToEvent := decide (student.id ∈ assignedStudentIds)
  let hasScheduleConflict := decide (student.id ∈ conflictingIds)
  return {
    id := student.id
    userId := student.userId
    firstName := user.firstName
    lastName := user.lastName
    email := user.email
    phone := user.phone
    avatarUrl := (db.userProfiles.findUnique user.id).bind UserProfile.avatarUrl
    pkkNumber := student.pkkNumber
    isActive := user.isActive
    createdAt := student.createdAt
    isAssignedToEvent
    hasScheduleConflict
    canAssign := !isAssignedToEvent && !hasScheduleConflict &&
      remaining.all fun n => decide (0 < n) }

def listTheoryEventEligibleStudents (textLE : String → String → Bool) (db : Db) (actor : Actor)
    (eventId : Uuid) (overrideStart overrideEnd : Option Instant := none) :
    Except Failure ListTheoryEventEligibleStudentsResult := do
  let row ← orThrow (db.instructorEvents.findUnique eventId) (.notFound "Event not found")
  throwIf (row.isActive = false) (.notFound "Event not found")
  throwIf (row.type ≠ .theory) (.unprocessableEntity "Event is not a THEORY event")
  let courseId ← orThrow row.courseId (.unprocessableEntity "THEORY event has no linked course")
  assertActorCanManageAvailability db actor row.instructorId
  let start := overrideStart.getD row.startTime
  let stop := overrideEnd.getD row.endTime
  let assignedStudentIds := eventStudentIds db row.id
  let courseParticipants := db.courseParticipants.findMany fun p =>
    decide (p.courseId = courseId ∧ p.status = .active)
  let used := assignedStudentIds.length
  let remaining := remainingSeats row.capacity used
  let conflictingIds := findStudentProfileIdsWithScheduleConflictsForEventWindow db row.id start stop
    (courseParticipants.map CourseParticipant.studentId)
  let students ← courseParticipants.mapM
    (eligibleStudentRow db assignedStudentIds conflictingIds remaining)
  return {
    courseId
    capacity := { limit := row.capacity, used, remaining }
    students := students.insertionSort fun a b => a.before textLE b = true }

end OSK
