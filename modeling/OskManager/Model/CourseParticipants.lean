import OskManager.Model.Vehicles

/-! Enrolling a student in a course and ending an enrolment: `students/courseParticipants.ts` with
`students/access.ts` and `students/activeStudent.ts`. -/

namespace OSK

open Relational

def loadActiveStudentProfileId (db : Db) (studentUserId : Uuid) : Except Failure Uuid := do
  let studentUser ← orThrow (db.users.findUnique studentUserId) (.notFound "User not found")
  throwIf (studentUser.deletedAt ≠ none) (.notFound "User not found")
  throwIf (studentUser.isActive = false) (.forbidden "Account is disabled")
  throwIf (studentUser.role ≠ .student) (.badRequest "User is not a student")
  let profile ← orThrow (db.studentProfiles.findFirst fun p => decide (p.userId = studentUserId))
    (.badRequest "User is not a student")
  return profile.id

def loadCourseSchoolId (db : Db) (courseId : Uuid) : Except Failure Uuid := do
  let course ← orThrow
    (db.courses.findFirst fun c => decide (c.id = courseId ∧ c.deletedAt = none))
    (.notFound "Course not found")
  return course.schoolId

def assertStudentBelongsToCourseSchool (db : Db) (studentUserId schoolId : Uuid) :
    Except Failure Unit :=
  let studentInSchool := db.studentSchools.findFirst fun l =>
    decide (l.schoolId = schoolId) &&
      (db.studentProfiles.findUnique l.studentId).any (fun p => decide (p.userId = studentUserId)) &&
      (db.drivingSchools.findUnique l.schoolId).any fun s => decide (s.deletedAt = none)
  throwIf (studentInSchool.isNone = true) (.forbidden "Forbidden")

def assertActorCanListStudentsForSchool (db : Db) (actor : Actor) (schoolId : Uuid) :
    Except Failure Unit :=
  match actor.role with
  | .admin => return ()
  | .manager =>
    let ownsSchool := db.drivingSchools.findFirst fun s =>
      decide (s.id = schoolId ∧ s.ownerId = actor.id ∧ s.deletedAt = none)
    throwIf (ownsSchool.isNone = true) (.forbidden "Forbidden")
  | .instructor =>
    let instructorInSchool := db.instructorSchools.findFirst fun l =>
      decide (l.schoolId = schoolId) &&
        (db.instructorProfiles.findUnique l.instructorId).any (fun p =>
          decide (p.userId = actor.id)) &&
        (db.drivingSchools.findUnique l.schoolId).any fun s => decide (s.deletedAt = none)
    throwIf (instructorInSchool.isNone = true) (.forbidden "Forbidden")
  | .student => throw (.forbidden "Forbidden")

def assertActorCanManageCourseParticipants (db : Db) (actor : Actor) (schoolId : Uuid) :
    Except Failure Unit :=
  if actor.role = .manager ∨ actor.role = .instructor then
    assertActorCanListStudentsForSchool db actor schoolId
  else throw (.forbidden "Forbidden")

def CourseParticipant.withStatus (status : CourseParticipantStatus) (p : CourseParticipant) :
    CourseParticipant :=
  { p with status }

def Db.setParticipantStatus (db : Db) (courseId studentId : Uuid)
    (status : CourseParticipantStatus) : Db :=
  { db with
    courseParticipants := db.courseParticipants.update (courseId, studentId)
      (CourseParticipant.withStatus status) fun _ => rfl }

/-- The row to change: unlike an enrolment, this does not ask whether the account is usable. -/
def prepareParticipantStatus (db : Db) (actor : Actor) (studentUserId courseId : Uuid) :
    Except Failure CourseParticipant := do
  throwIf (actor.role = .admin) (.forbidden "Forbidden")
  let studentUser ← orThrow (db.users.findUnique studentUserId) (.notFound "User not found")
  throwIf (studentUser.role ≠ .student) (.badRequest "User is not a student")
  let profile ← orThrow (db.studentProfiles.findFirst fun p => decide (p.userId = studentUserId))
    (.badRequest "User is not a student")
  let schoolId ← loadCourseSchoolId db courseId
  assertActorCanManageCourseParticipants db actor schoolId
  orThrow (db.courseParticipants.findUnique (courseId, profile.id))
    (.notFound "Student is not enrolled in this course")

def patchCourseParticipantStatusForStaff (actor : Actor) (studentUserId courseId : Uuid)
    (status : CourseParticipantStatus) : Service CourseParticipant := do
  let existing ← Prog.query fun db => prepareParticipantStatus db actor studentUserId courseId
  Prog.write fun db => db.setParticipantStatus courseId existing.studentId status
  return existing.withStatus status

def prepareEnrolment (db : Db) (actor : Actor) (studentUserId courseId : Uuid) :
    Except Failure CourseParticipant := do
  throwIf (actor.role = .admin) (.forbidden "Forbidden")
  let studentProfileId ← loadActiveStudentProfileId db studentUserId
  let schoolId ← loadCourseSchoolId db courseId
  assertStudentBelongsToCourseSchool db studentUserId schoolId
  assertActorCanManageCourseParticipants db actor schoolId
  return { courseId, studentId := studentProfileId }

/-- The unique index refuses a second row, as the lookup before does. -/
def createCourseParticipant (p : CourseParticipant) : Service CourseParticipant := fun db =>
  if h : (p.courseId, p.studentId) ∈ db.courseParticipants.keys then
    (.error (.conflict "Student is already enrolled in this course"), db)
  else (.ok p, { db with courseParticipants := db.courseParticipants.insert p h })

def assignStudentToCourseForStaff (actor : Actor) (studentUserId courseId : Uuid) :
    Service CourseParticipant := do
  let p ← Prog.query fun db => prepareEnrolment db actor studentUserId courseId
  createCourseParticipant p

end OSK
