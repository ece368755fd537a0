import OskManager.Model.LessonRatings
import OskManager.Model.Lessons

/-! How a student rates a lesson: `lesson-rating/studentRatings.ts` with the body of
`lesson.schemas.ts`. A rating is made once for a lesson and is never changed. -/

namespace OSK

open Relational

structure CreateLessonRatingBody where
  rating : ℤ
  comment : Option String := none
  rating_inRange : 1 ≤ rating ∧ rating ≤ 5

structure LessonRatingDto where
  id : Uuid
  lessonId : Uuid
  instructorId : Uuid
  rating : ℤ
  comment : Option String
  createdAt : Instant
  deriving DecidableEq

def mapLessonRatingToDto (row : LessonRating) : LessonRatingDto where
  id := row.id
  lessonId := row.lessonId
  instructorId := row.instructorId
  rating := row.rating
  comment := row.comment
  createdAt := row.createdAt

/-- What both functions ask of the lesson. -/
def ownPracticeLesson (db : Db) (actor : Actor) (lessonId : Uuid) : Except Failure Lesson := do
  throwIf (actor.role ≠ .student) (.forbidden "Forbidden")
  let lesson ← orThrow (findLesson db lessonId) (.notFound "Lesson not found")
  throwIf ((db.studentProfiles.findUnique lesson.studentId).map StudentProfile.userId ≠
    some actor.id) (.forbidden "Forbidden")
  throwIf (lesson.lessonType ≠ .practice) (.badRequest "Only practice lessons can be rated")
  return lesson

/-- The relation `lessonRating` of a lesson. -/
def ratingOfLesson (db : Db) (lessonId : Uuid) : Option LessonRating :=
  db.lessonRatings.findFirst fun r => decide (r.lessonId = lessonId)

def prepareLessonRating (db : Db) (actor : Actor) (lessonId : Uuid) : Except Failure Lesson := do
  let lesson ← ownPracticeLesson db actor lessonId
  throwIf (lesson.status ≠ .completed) (.badRequest "Only completed lessons can be rated")
  throwIf ((ratingOfLesson db lesson.id).isSome = true) (.conflict "Lesson rating already exists")
  return lesson

def CreateLessonRatingBody.row (body : CreateLessonRatingBody) (env : Env) (lesson : Lesson)
    (id : Uuid) : LessonRating where
  id
  lessonId := lesson.id
  studentId := lesson.studentId
  instructorId := lesson.instructorId
  rating := body.rating
  comment := body.comment
  createdAt := env.now

/-- `lessonRating.create` under the unique index on the lesson. -/
def writeLessonRating (env : Env) (lesson : Lesson) (body : CreateLessonRatingBody) :
    Service LessonRatingDto := fun db =>
  if (ratingOfLesson db lesson.id).isSome then
    (.error (.conflict "Lesson rating already exists"), db)
  else
    let row := body.row env lesson (env.uuid db.lessonRatings.keys)
    (.ok (mapLessonRatingToDto row),
      { db with lessonRatings := db.lessonRatings.insert row (env.uuid_fresh _) })

def createLessonRating (env : Env) (actor : Actor) (lessonId : Uuid)
    (body : CreateLessonRatingBody) : Service LessonRatingDto := do
  let lesson ← Prog.query fun db => prepareLessonRating db actor lessonId
  writeLessonRating env lesson body

def getLessonRatingForStudent (db : Db) (actor : Actor) (lessonId : Uuid) :
    Except Failure (Option LessonRatingDto) := do
  let lesson ← ownPracticeLesson db actor lessonId
  return (ratingOfLesson db lesson.id).map mapLessonRatingToDto

end OSK
