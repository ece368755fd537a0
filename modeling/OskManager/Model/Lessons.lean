import OskManager.Model.RequestIds
import OskManager.Model.Vehicles

/-! Writes of lessons: `lesson/bookingRules.ts`, `lesson/writeModel.ts` and
`lesson/cancelLessons.ts`. -/

namespace OSK

open Relational

structure LessonDto where
  id : Uuid
  courseId : Uuid
  studentId : Uuid
  instructorId : Uuid
  vehicleId : Option Uuid
  lessonType : LessonType
  startTime : Instant
  endTime : Instant
  status : LessonStatus
  createdAt : Instant
  deriving DecidableEq

def mapLessonRowToDto (row : Lesson) : LessonDto where
  id := row.id
  courseId := row.courseId
  studentId := row.studentId
  instructorId := row.instructorId
  vehicleId := row.vehicleId
  lessonType := row.lessonType
  startTime := row.startTime
  endTime := row.endTime
  status := row.status
  createdAt := row.createdAt

/-! ### Booking -/

structure NewLesson where
  courseId : Uuid
  studentId : Uuid
  instructorId : Uuid
  vehicleId : Uuid
  startTime : Instant
  endTime : Instant

/-- The row of a new practice lesson, with the defaults of the table. -/
def NewLesson.row (data : NewLesson) (id : Uuid) (createdAt : Instant)
    (h : data.startTime < data.endTime) : Lesson where
  id
  courseId := data.courseId
  studentId := data.studentId
  instructorId := data.instructorId
  vehicleId := some data.vehicleId
  startTime := data.startTime
  endTime := data.endTime
  createdAt
  start_before_end := h
  practice_requires_vehicle := fun _ => rfl

def Db.insertLesson (db : Db) (env : Env) (data : NewLesson)
    (h : data.startTime < data.endTime) : Db :=
  { db with lessons :=
      db.lessons.insert (data.row (env.uuid db.lessons.keys) env.now h) (env.uuid_fresh _) }

/-- `tx.lesson.create`; the CHECK constraint refuses an empty interval. -/
def createLesson (env : Env) (data : NewLesson) : Service Lesson := fun db =>
  if h : data.startTime < data.endTime then
    (.ok (data.row (env.uuid db.lessons.keys) env.now h), db.insertLesson env data h)
  else (.error (.other "lessons_start_before_end"), db)

structure PracticeLessonInput where
  course : CourseForBooking
  studentProfileId : Uuid
  instructorId : Uuid
  start : Instant
  stop : Instant
  bookingMode : Option BookingMode := none

def PracticeLessonInput.newLesson (input : PracticeLessonInput) (course : CourseForBooking)
    (vehicleId : Uuid) : NewLesson where
  courseId := course.id
  studentId := input.studentProfileId
  instructorId := input.instructorId
  vehicleId
  startTime := input.start
  endTime := input.stop

/-- `if (bookingMode) … else …` of the duration rules. -/
def assertBookingDurationAllowed (db : Db) (course : CourseForBooking)
    (input : PracticeLessonInput) : Except Failure Unit :=
  if input.bookingMode.isSome then
    assertStudentSelfBookingDurationAllowed db
      (course.duration input.studentProfileId input.start input.stop input.bookingMode)
  else do
    let _ ← assertScheduleDurationAllowed db course.schoolId .practice input.start input.stop
    return ()

def createPracticeLessonForStudent (env : Env) (input : PracticeLessonInput)
    (resolveVehicleId : CourseForBooking → Service Uuid) : Service LessonDto := do
  let row ← Prog.transaction do
    let course ← Prog.query fun db => loadCourseForBooking db input.course.id
    throwIf (course.courseTypeId ≠ input.course.courseTypeId ∨ course.kind ≠ input.course.kind ∨
        course.instructorId ≠ input.course.instructorId)
      (Failure.conflict
        "Kurs zmienił się podczas rezerwacji. Odśwież dane i wybierz termin ponownie.")
    Prog.query fun db => assertBookingDurationAllowed db course input
    Prog.query fun db => assertLessonSchedulingWindowAvailable env.zone db
      (course.window input.studentProfileId input.instructorId input.start input.stop)
    let vehicleId ← resolveVehicleId course
    createLesson env (input.newLesson course vehicleId)
  return mapLessonRowToDto row

structure BookLessonBody where
  courseId : Uuid
  studentId : Uuid
  instructorId : Uuid
  startTime : Instant
  endTime : Instant
  vehicleId : Uuid

def bookLesson (env : Env) (actor : Actor) (body : BookLessonBody) : Service LessonDto := do
  let course ← Prog.query fun db => loadCourseForBooking db body.courseId
  Prog.query fun db => assertLessonTimeIsBookable env db body.startTime course.schoolId
  Prog.query fun db => assertActorCanBookLessonForCourse db actor course.schoolId
  let studentProfileId ← Prog.query fun db => loadStudentProfileIdForUser db body.studentId
  Prog.query fun db => assertStudentParticipatesInCourse db course.id studentProfileId true
  Prog.query fun db => assertInstructorCanBookCourse db body.instructorId course true
  createPracticeLessonForStudent env
    { course, studentProfileId, instructorId := body.instructorId
      start := body.startTime, stop := body.endTime }
    fun currentCourse => do
      assertVehicleAvailableForBooking env body.instructorId body.vehicleId currentCourse.schoolId
        body.startTime body.endTime currentCourse.courseTypeId
      return body.vehicleId

structure BookOwnLessonBody where
  courseId : Uuid
  instructorId : Uuid
  startTime : Instant
  endTime : Instant
  bookingMode : Option BookingMode := none

def bookOwnLesson (env : Env) (actor : Actor) (body : BookOwnLessonBody) : Service LessonDto := do
  throwIf (actor.role ≠ .student) (Failure.forbidden "Forbidden")
  let course ← Prog.query fun db => loadCourseForBooking db body.courseId
  assertCourseCanBeSelfBooked course
  Prog.query fun db => assertLessonTimeIsBookable env db body.startTime course.schoolId
  let studentProfileId ← Prog.query fun db => loadStudentProfileIdForUser db actor.id
  Prog.query fun db => assertStudentParticipatesInCourse db course.id studentProfileId true
  Prog.query fun db => assertInstructorCanBookCourse db body.instructorId course
  createPracticeLessonForStudent env
    { course, studentProfileId, instructorId := body.instructorId
      start := body.startTime, stop := body.endTime, bookingMode := body.bookingMode }
    fun currentCourse =>
      findAvailableVehicleIdForStudentBooking env body.instructorId currentCourse.schoolId
        body.startTime body.endTime currentCourse.courseTypeId

/-! ### Editing -/

structure ExpectedLessonState where
  instructorId : UuidText
  startTime : Instant
  endTime : Instant
  vehicleId : Option UuidText

structure UpdateLessonBody where
  startTime : Option Instant := none
  endTime : Option Instant := none
  instructorId : Option UuidText := none
  vehicleId : Option UuidText := none
  expectedLessonState : Option ExpectedLessonState := none

/-- The stored row is the one the editor saw. -/
def ExpectedLessonState.matches (expected : ExpectedLessonState) (existing : Lesson) : Bool :=
  decide (expected.instructorId = .ofUuid existing.instructorId ∧
    expected.startTime = existing.startTime ∧ expected.endTime = existing.endTime ∧
    expected.vehicleId = existing.vehicleId.map .ofUuid)

def findLesson (db : Db) (lessonId : Uuid) : Option Lesson :=
  db.lessons.findFirst fun l => decide (l.id = lessonId ∧ l.deletedAt = none)

/-- `course: { select: … }` of a lesson; the foreign key keeps the row there. -/
def lessonCourse (db : Db) (l : Lesson) : Except Failure CourseForBooking := do
  let course ← orThrow (db.courses.findUnique l.courseId)
    (.other "Inconsistent query result: Field course is required")
  return course.forBooking

/-- What an edit writes. -/
structure LessonSlot where
  instructorId : UuidText
  vehicleId : UuidText
  start : Instant
  stop : Instant

def UpdateLessonBody.slot (body : UpdateLessonBody) (existing : Lesson) (vehicleId : UuidText) :
    LessonSlot where
  instructorId := body.instructorId.getD (.ofUuid existing.instructorId)
  vehicleId
  start := body.startTime.getD existing.startTime
  stop := body.endTime.getD existing.endTime

def Lesson.moved (slot : LessonSlot) (h : slot.start < slot.stop) (l : Lesson) : Lesson :=
  { l with
    instructorId := slot.instructorId.uuid
    vehicleId := some slot.vehicleId.uuid
    startTime := slot.start
    endTime := slot.stop
    start_before_end := h
    practice_requires_vehicle := fun _ => rfl }

@[simp] theorem Lesson.id_moved (slot : LessonSlot) (h : slot.start < slot.stop) (l : Lesson) :
    (l.moved slot h).id = l.id := rfl

def Db.moveLesson (db : Db) (lessonId : Uuid) (slot : LessonSlot)
    (h : slot.start < slot.stop) : Db :=
  { db with lessons := db.lessons.update lessonId (Lesson.moved slot h) (Lesson.id_moved slot h) }

/-- `tx.lesson.update` on a row that was read before. -/
def writeLessonSlot (existing : Lesson) (slot : LessonSlot) : Service Lesson := fun db =>
  if h : slot.start < slot.stop then
    (.ok (existing.moved slot h), db.moveLesson existing.id slot h)
  else (.error (.other "lessons_start_before_end"), db)

def Lesson.timeChanged (existing : Lesson) (slot : LessonSlot) : Bool :=
  decide (slot.start ≠ existing.startTime ∨ slot.stop ≠ existing.endTime)

def Lesson.vehicleChanged (existing : Lesson) (slot : LessonSlot) : Bool :=
  decide (some slot.vehicleId ≠ existing.vehicleId.map .ofUuid)

def Lesson.instructorChanged (existing : Lesson) (slot : LessonSlot) : Bool :=
  decide (slot.instructorId ≠ .ofUuid existing.instructorId)

/-- The rules of an edit that changes something, up to the write. -/
def assertLessonSlotAllowed (env : Env) (existing : Lesson) (course : CourseForBooking)
    (slot : LessonSlot) : Service Unit := do
  let timeChanged := existing.timeChanged slot
  let instructorChanged := existing.instructorChanged slot
  Prog.query fun db =>
    throwIf ((instructorLink db slot.instructorId.uuid course.schoolId).isNone = true)
      (.badRequest "instructor does not belong to this driving school")
  Prog.when instructorChanged (Prog.query fun db =>
    assertInstructorQualifiedForCourseType db slot.instructorId.uuid course.courseTypeId)
  Prog.when timeChanged (Prog.query fun db => do
    assertLessonTimeIsBookable env db slot.start course.schoolId
    let _ ← assertScheduleDurationAllowed db course.schoolId .practice slot.start slot.stop
    return ())
  Prog.when (timeChanged || instructorChanged) (Prog.query fun db =>
    assertLessonSchedulingWindowAvailable env.zone db
      (course.window existing.studentId slot.instructorId.uuid slot.start slot.stop existing.id))
  Prog.query fun db =>
    let vehicleInSchool := db.vehicles.findFirst fun v =>
      decide (v.id = slot.vehicleId.uuid ∧ v.schoolId = course.schoolId ∧ v.isActive = true)
    throwIf (vehicleInSchool.isNone = true)
      (.badRequest "Vehicle is not for this driving school")
  Prog.query fun db => assertVehicleSupportsCourseType db slot.vehicleId.uuid course.courseTypeId
  validateVehicleForInstructor env slot.instructorId.uuid slot.vehicleId.uuid
    (timeChanged || existing.vehicleChanged slot || instructorChanged)
  Prog.query fun db =>
    throwIf (vehicleHasBookingConflict db slot.vehicleId.uuid slot.start slot.stop
        (some existing.id) = true)
      (.conflict "Vehicle is already in use")
  Prog.when (timeChanged || instructorChanged)
    (Prog.query fun _ => assertLessonHasNotStarted env existing.status existing.startTime)

def updateLesson (env : Env) (actor : Actor) (lessonId : Uuid) (body : UpdateLessonBody) :
    Service LessonDto := Prog.transaction do
  let existing ← Prog.query fun db => orThrow (findLesson db lessonId)
    (.notFound "Lesson not found")
  let course ← Prog.query fun db => lessonCourse db existing
  Prog.query fun db => assertActorCanBookLessonForCourse db actor course.schoolId
  assertLessonIsEditable env existing.status existing.endTime
  let vehicleId ← orThrow (body.vehicleId.or (existing.vehicleId.map .ofUuid))
    (Failure.badRequest "Lesson has no vehicle")
  let slot := body.slot existing vehicleId
  throwIf (existing.instructorChanged slot = true ∧ existing.lessonType ≠ .practice)
    (Failure.badRequest "Only practice lessons can change instructor")
  throwIf (body.instructorId ≠ none ∧ body.expectedLessonState.isNone = true)
    (Failure.conflict "Refresh the lesson before changing its instructor")
  throwIf (body.expectedLessonState.any (fun expected => !expected.matches existing) = true)
    (Failure.conflict "Lesson changed while editing. Refresh and try again")
  Prog.when (existing.timeChanged slot || existing.instructorChanged slot) (Prog.query fun _ => do
    assertLessonHasNotStarted env existing.status existing.startTime
    assertLessonHasNotStarted env existing.status slot.start)
  if !(existing.timeChanged slot) && !(existing.vehicleChanged slot) &&
      !(existing.instructorChanged slot) then
    return mapLessonRowToDto existing
  assertLessonSlotAllowed env existing course slot
  let row ← writeLessonSlot existing slot
  return mapLessonRowToDto row

/-! ### Cancelling -/

def Lesson.cancelled (l : Lesson) : Lesson := { l with status := .cancelled }

@[simp] theorem Lesson.id_cancelled (l : Lesson) : l.cancelled.id = l.id := rfl

/-- The rules on the row that was read, before the conditional update. -/
def assertLessonCancellable (env : Env) (status : LessonStatus) (startTime : Instant) :
    Except Failure Unit := do
  throwIf (status = .completed) (.badRequest "Cannot cancel a completed lesson")
  throwIf (status = .cancelled) (.badRequest "Lesson is already cancelled")
  throwIf (status ≠ .scheduled) (.badRequest "Only scheduled lessons can be cancelled")
  throwIf (startTime ≤ env.now) (.badRequest "Cannot cancel a lesson that has already started")

/-- The `where` of the conditional update; `owner` is set when a student cancels. -/
def Lesson.stillCancellable (env : Env) (lessonId : Uuid) (owner : Option Uuid)
    (l : Lesson) : Bool :=
  decide (l.id = lessonId ∧ l.status = .scheduled ∧ env.now < l.startTime ∧ l.deletedAt = none) &&
    owner.all fun studentProfileId =>
      decide (l.studentId = studentProfileId ∧ l.lessonType = .practice)

def Db.cancelLessons (db : Db) (p : Lesson → Bool) : Db :=
  { db with lessons := db.lessons.updateMany p Lesson.cancelled Lesson.id_cancelled }

/-- `updateManyAndReturn`, then the first returned row. -/
def cancelStillCancellable (env : Env) (lessonId : Uuid) (owner : Option Uuid)
    (gone : Failure) : Service LessonDto := fun db =>
  let p := Lesson.stillCancellable env lessonId owner
  (match (db.lessons.findMany p).head? with
    | some row => .ok (mapLessonRowToDto row.cancelled)
    | none => .error gone,
   db.cancelLessons p)

def prepareCancelLesson (env : Env) (actor : Actor) (lessonId : Uuid) (db : Db) :
    Except Failure Unit := do
  let existing ← orThrow (findLesson db lessonId) (.notFound "Lesson not found")
  let course ← lessonCourse db existing
  assertActorCanBookLessonForCourse db actor course.schoolId
  assertLessonCancellable env existing.status existing.startTime

def cancelLesson (env : Env) (actor : Actor) (lessonId : Uuid) : Service LessonDto := do
  Prog.query (prepareCancelLesson env actor lessonId)
  cancelStillCancellable env lessonId none (.conflict "Lesson is no longer cancellable")

def prepareCancelOwnLesson (env : Env) (actor : Actor) (lessonId : Uuid) (db : Db) :
    Except Failure Uuid := do
  throwIf (actor.role ≠ .student) (.forbidden "Forbidden")
  let studentProfileId ← loadStudentProfileIdForUser db actor.id
  let existing ← orThrow (findLesson db lessonId) (.notFound "Lesson not found")
  throwIf (existing.studentId ≠ studentProfileId) (.forbidden "Forbidden")
  throwIf (existing.lessonType ≠ .practice)
    (.badRequest "Only practice lessons can be cancelled")
  assertLessonCancellable env existing.status existing.startTime
  return studentProfileId

def cancelOwnLesson (env : Env) (actor : Actor) (lessonId : Uuid) : Service LessonDto := do
  let studentProfileId ← Prog.query (prepareCancelOwnLesson env actor lessonId)
  cancelStillCancellable env lessonId (some studentProfileId)
    (.badRequest "Lesson is no longer cancellable")

end OSK
