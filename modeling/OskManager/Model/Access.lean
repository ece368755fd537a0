import OskManager.Model.PolishTime

/-! Who may act on what, and what a course, student or instructor must satisfy:
`lesson/bookingAccess.ts`, `instructor-availability/access.ts`, `course/access.ts`,
`lib/instructorCourseQualification.ts` and `event/courseEligibility.ts`. -/

namespace OSK

open Relational

def getSchoolOwnedByUser (db : Db) (userId schoolId : Uuid) : Option DrivingSchool :=
  (db.drivingSchools.findUnique schoolId).filter fun s =>
    decide (s.deletedAt = none ∧ s.ownerId = userId)

structure CourseForBooking where
  id : Uuid
  schoolId : Uuid
  instructorId : Option Uuid
  courseTypeId : Uuid
  kind : CourseKind
  totalHours : ℤ

def Course.forBooking (c : Course) : CourseForBooking where
  id := c.id
  schoolId := c.schoolId
  instructorId := c.instructorId
  courseTypeId := c.courseTypeId
  kind := c.kind
  totalHours := c.totalHours

def assertActorCanBookLessonForCourse (db : Db) (actor : Actor) (schoolId : Uuid) :
    Except Failure Unit :=
  match actor.role with
  | .admin => return ()
  | .manager =>
    let school := db.drivingSchools.findFirst fun s =>
      decide (s.id = schoolId ∧ s.ownerId = actor.id ∧ s.deletedAt = none)
    throwIf (school.isNone = true) (.forbidden "Forbidden")
  | _ => throw (.forbidden "Forbidden")

def assertCourseCanBeSelfBooked (course : CourseForBooking) : Except Failure Unit :=
  throwIf (course.kind = .theoryGroup) (.badRequest "Course does not allow practice lessons")

def loadCourseForBooking (db : Db) (courseId : Uuid) : Except Failure CourseForBooking := do
  let course ← orThrow
    (db.courses.findFirst fun c =>
      decide (c.id = courseId ∧ c.deletedAt = none ∧ c.status = "active"))
    (.notFound "Course not found")
  return course.forBooking

def loadStudentProfileIdForUser (db : Db) (userId : Uuid) : Except Failure Uuid := do
  let studentUser ← orThrow (db.users.findUnique userId) (.notFound "User not found")
  throwIf (studentUser.deletedAt ≠ none) (.notFound "User not found")
  throwIf (studentUser.isActive = false) (.forbidden "Account is disabled")
  throwIf (studentUser.role ≠ .student) (.badRequest "studentId must be a student user")
  let profile ← orThrow (db.studentProfiles.findFirst fun p => decide (p.userId = userId))
    (.badRequest "studentId must be a student user")
  return profile.id

/-- `user: { role: INSTRUCTOR, deletedAt: null, isActive: true }` of an instructor profile. -/
def InstructorProfile.hasActiveUser (db : Db) (p : InstructorProfile) : Bool :=
  (db.users.findUnique p.userId).any fun u =>
    decide (u.role = .instructor ∧ u.deletedAt = none ∧ u.isActive = true)

def assertInstructorQualifiedForCourseType (db : Db) (instructorId courseTypeId : Uuid) :
    Except Failure Unit :=
  let profile := db.instructorProfiles.findFirst fun p =>
    decide (p.id = instructorId ∧ p.hasActiveUser db = true ∧
      courseTypeId ∈ p.qualifiedCourseTypes)
  throwIf (profile.isNone = true)
    (.badRequest "Instructor is not qualified for this course category")

/-- `instructorSchool.findFirst({ where: { instructorId, schoolId } })`. -/
def instructorLink (db : Db) (instructorId schoolId : Uuid) : Option InstructorSchool :=
  db.instructorSchools.findFirst fun l =>
    decide (l.instructorId = instructorId ∧ l.schoolId = schoolId)

def assertInstructorCanBookCourse (db : Db) (instructorId : Uuid) (course : CourseForBooking)
    (allowSubstitute : Bool := false) : Except Failure Unit := do
  throwIf ((instructorLink db instructorId course.schoolId).isNone = true)
    (.badRequest "instructor does not belong to this driving school")
  throwIf (allowSubstitute = false ∧ course.instructorId ≠ none ∧
      course.instructorId ≠ some instructorId)
    (.badRequest "instructor does not match course assigned instructor")
  assertInstructorQualifiedForCourseType db instructorId course.courseTypeId

def assertStudentParticipatesInCourse (db : Db) (courseId studentProfileId : Uuid)
    (requireActive : Bool := false) : Except Failure Unit :=
  let participant := db.courseParticipants.findFirst fun p =>
    decide (p.courseId = courseId ∧ p.studentId = studentProfileId ∧
      (requireActive = true → p.status = .active))
  throwIf (participant.isNone = true)
    (if requireActive then .forbidden "Forbidden"
      else .notFound "Student is not enrolled in this course")

/-- The instructor's school link, if the school is not deleted and satisfies `p`. -/
def activeSchoolLink (db : Db) (instructorId : Uuid) (p : DrivingSchool → Bool) :
    Option InstructorSchool :=
  db.instructorSchools.findFirst fun l =>
    decide (l.instructorId = instructorId) &&
      (db.drivingSchools.findUnique l.schoolId).any fun s => decide (s.deletedAt = none) && p s

def assertActorCanManageAvailability (db : Db) (actor : Actor) (instructorId : Uuid) :
    Except Failure Unit :=
  match actor.role with
  | .admin => return ()
  | .manager =>
    let link := activeSchoolLink db instructorId fun s => decide (s.ownerId = actor.id)
    throwIf (link.isNone = true) (.forbidden "Forbidden")
  | _ => throw (.forbidden "Forbidden")

def resolveActiveInstructorProfile (db : Db) (instructorId : Uuid) : Except Failure Unit :=
  let profile := db.instructorProfiles.findFirst fun p =>
    decide (p.id = instructorId ∧ p.hasActiveUser db = true)
  throwIf (profile.isNone = true) (.notFound "Instructor not found")

def assertCourseEligibleForInstructorEvent (db : Db) (instructorId courseId : Uuid) :
    Except Failure Unit := do
  let course ← orThrow
    (db.courses.findFirst fun c => decide (c.id = courseId ∧ c.deletedAt = none))
    (.notFound "Course not found")
  throwIf ((instructorLink db instructorId course.schoolId).isNone = true)
    (.unprocessableEntity "Instructor is not linked to the driving school of this course")
  assertInstructorQualifiedForCourseType db instructorId course.courseTypeId

end OSK
