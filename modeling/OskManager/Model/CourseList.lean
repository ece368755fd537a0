import Mathlib.Logic.Function.Basic
import OskManager.Model.LessonRules

/-! The courses of the logged-in student: `listCoursesForCurrentUser` of `course/queries.ts` and the
sums of `course/progress.ts`. -/

namespace OSK

open Relational

/-- The enrolment and its course. -/
structure CurrentUserCourseRow where
  studentId : Uuid
  status : CourseParticipantStatus
  course : Course

/-- Enrolments are stored in the order of their creation, which is the order of the list. -/
def currentUserCourseRows (db : Db) (userId : Uuid) : List CurrentUserCourseRow :=
  db.courseParticipants.rows.filterMap fun p =>
    match db.studentProfiles.findUnique p.studentId, db.courses.findUnique p.courseId with
    | some student, some course =>
      if student.userId = userId ∧ course.deletedAt = none then
        some { studentId := p.studentId, status := p.status, course }
      else none
    | _, _ => none

/-- `Map<string, number>`, keyed by course. -/
abbrev MinutesByCourse := Uuid → Option ℤ

/-- One round of the loop; a lesson that rounds to nothing is skipped. -/
def addMinutes (minutesByCourse : MinutesByCourse) (row : Lesson) : MinutesByCourse :=
  if row.minutes ≤ 0 then minutesByCourse
  else Function.update minutesByCourse row.courseId
    (some ((minutesByCourse row.courseId).getD 0 + row.minutes))

def groupCompletedMinutesByCourse (rows : List Lesson) : MinutesByCourse :=
  rows.foldl addMinutes fun _ => none

structure PackageMinutesByCourse where
  completed : MinutesByCourse
  booked : MinutesByCourse

def getCompletedDrivingMinutesByCourse (db : Db) (rows : List CurrentUserCourseRow) :
    PackageMinutesByCourse :=
  let practicalCourseIds := (rows.filter fun row =>
    decide (row.course.kind = .practical ∨ row.course.kind = .extra)).map fun row => row.course.id
  if practicalCourseIds = [] then { completed := fun _ => none, booked := fun _ => none }
  else
    let studentIds := rows.map CurrentUserCourseRow.studentId
    let lessons := db.lessons.findMany fun l =>
      decide (l.courseId ∈ practicalCourseIds ∧ l.studentId ∈ studentIds ∧ l.status ≠ .cancelled ∧
        l.lessonType = .practice ∧ l.deletedAt = none)
    { completed := groupCompletedMinutesByCourse
        (lessons.filter fun l => decide (l.status = .completed))
      booked := groupCompletedMinutesByCourse lessons }

structure CurrentUserCourse where
  id : Uuid
  schoolId : Uuid
  name : String
  status : CourseParticipantStatus
  type : CourseKind
  totalHours : ℤ
  completedMinutes : ℤ
  bookedMinutes : ℤ
  remainingBookableMinutes : ℤ

def currentUserCourse (minutes : PackageMinutesByCourse) (row : CurrentUserCourseRow) :
    CurrentUserCourse where
  id := row.course.id
  schoolId := row.course.schoolId
  name := row.course.name
  status := row.status
  type := row.course.kind
  totalHours := row.course.totalHours
  completedMinutes := (minutes.completed row.course.id).getD 0
  bookedMinutes := (minutes.booked row.course.id).getD 0
  remainingBookableMinutes :=
    if row.course.kind = .practical ∨ row.course.kind = .extra then
      max 0 (row.course.totalHours * 60 - (minutes.booked row.course.id).getD 0)
    else 0

def listCoursesForCurrentUser (db : Db) (userId : Uuid) (role : Role) : List CurrentUserCourse :=
  if role ≠ .student then []
  else
    let rows := currentUserCourseRows db userId
    let packageMinutesByCourse := getCompletedDrivingMinutesByCourse db rows
    rows.map (currentUserCourse packageMinutesByCourse)

end OSK
