import OskManager.Model.Lessons
import OskManager.Schedule.VehicleRefresh

/-! What the writes of lessons do: which rules a successful one has passed and which rows it
has changed. Every later argument about lessons starts from these lemmas. -/

namespace OSK

open Relational

/-! ### Lookups -/

theorem loadCourseForBooking_eq_ok (db : Db) (courseId : Uuid) (course : CourseForBooking) :
    loadCourseForBooking db courseId = .ok course ↔
      ∃ c, db.courses.findFirst
          (fun c => decide (c.id = courseId ∧ c.deletedAt = none ∧ c.status = "active")) = some c ∧
        c.forBooking = course := by
  simp only [loadCourseForBooking, except_bind_eq_ok, orThrow_eq_ok, pure, Except.pure,
    Except.ok.injEq]

/-- A loaded course is found again under its own id. -/
theorem loadCourseForBooking_self {db : Db} {courseId : Uuid} {course : CourseForBooking}
    (h : loadCourseForBooking db courseId = .ok course) :
    loadCourseForBooking db course.id = .ok course := by
  obtain ⟨c, hc, rfl⟩ := (loadCourseForBooking_eq_ok db courseId course).mp h
  have hid : c.id = courseId := (of_decide_eq_true (Table.mem_of_findFirst hc).2).1
  rw [← hid] at h
  exact h

theorem findLesson_eq_some {db : Db} {lessonId : Uuid} {l : Lesson}
    (h : findLesson db lessonId = some l) :
    l ∈ db.lessons.rows ∧ l.id = lessonId ∧ l.deletedAt = none := by
  obtain ⟨hm, hp⟩ := Table.mem_of_findFirst h
  exact ⟨hm, of_decide_eq_true hp⟩

theorem lessonCourse_eq_ok {db : Db} {l : Lesson} {course : CourseForBooking} :
    lessonCourse db l = .ok course ↔
      ∃ c, db.courses.findUnique l.courseId = some c ∧ c.forBooking = course := by
  simp only [lessonCourse, except_bind_eq_ok, orThrow_eq_ok, pure, Except.pure, Except.ok.injEq]

/-- The last rule of the window wants a start before the end. -/
theorem window_start_before_end {zone : PolishZone} {db : Db} {params : LessonWindowParams}
    (h : assertLessonSchedulingWindowAvailable zone db params = .ok ()) :
    params.start < params.stop := by
  simp only [assertLessonSchedulingWindowAvailable, assertInstructorTimeWindowAvailable,
    except_bind_eq_ok, throwIf_eq_ok] at h
  obtain ⟨_, _, _, _, _, _, _, _, _, h, _⟩ := h
  exact not_le.mp h

theorem lessonIsEditable_eq_ok {env : Env} {status : LessonStatus} {endTime : Instant} :
    assertLessonIsEditable env status endTime = .ok () ↔ status = .scheduled ∧ env.now < endTime := by
  simp only [assertLessonIsEditable, except_bind_eq_ok, throwIf_eq_ok, ne_eq, not_not, not_le,
    exists_and_left, exists_const]

/-! ### Booking -/

theorem createLesson_eq_ok (env : Env) (data : NewLesson) (db db' : Db) (row : Lesson) :
    createLesson env data db = (.ok row, db') ↔
      ∃ h : data.startTime < data.endTime,
        row = data.row (env.uuid db.lessons.keys) env.now h ∧ db' = db.insertLesson env data h := by
  unfold createLesson
  split
  · next h => simp [h, eq_comm]
  · next h => simp [h]

theorem mem_insertLesson {env : Env} {data : NewLesson} {db : Db} {l : Lesson}
    (h : data.startTime < data.endTime) :
    l ∈ (db.insertLesson env data h).lessons.rows ↔
      l ∈ db.lessons.rows ∨ l = data.row (env.uuid db.lessons.keys) env.now h :=
  Table.mem_insert db.lessons _ (env.uuid_fresh _) l

section Booking

variable {env : Env} {input : PracticeLessonInput} {resolve : CourseForBooking → Service Uuid}
  {db : Db}

/-- A booking of a course that is still the one loaded inserts one row, after the vehicle
rules have run. -/
theorem createPracticeLesson_eq_ok (hkeep : ∀ c, Prog.Keeps Refreshed (resolve c))
    (hcourse : loadCourseForBooking db input.course.id = .ok input.course) (dto : LessonDto)
    (db' : Db) :
    createPracticeLessonForStudent env input resolve db = (.ok dto, db') ↔
      assertBookingDurationAllowed db input.course input = .ok () ∧
      assertLessonSchedulingWindowAvailable env.zone db
        (input.course.window input.studentProfileId input.instructorId input.start input.stop) =
          .ok () ∧
      ∃ vehicleId p, resolve input.course db = (.ok vehicleId, db.refreshed p) ∧
        ∃ h : input.start < input.stop,
          db' = (db.refreshed p).insertLesson env (input.newLesson input.course vehicleId) h ∧
          dto = mapLessonRowToDto
            ((input.newLesson input.course vehicleId).row (env.uuid db.lessons.keys) env.now h) := by
  simp only [createPracticeLessonForStudent, Prog.bind_eq_ok, Prog.transaction_eq_ok,
    Prog.query_eq_ok, Prog.lift_eq_ok, Prog.pure_eq_ok, throwIf_eq_ok, createLesson_eq_ok]
  refine ⟨?_, ?_⟩
  · rintro ⟨row, s', ⟨course, _, ⟨hc, rfl⟩, _, _, ⟨_, rfl⟩, _, _, ⟨hd, rfl⟩, _, _, ⟨hw, rfl⟩,
      vehicleId, s1, hv, h, rfl, rfl⟩, rfl, rfl⟩
    rw [hcourse] at hc
    cases hc
    obtain ⟨p, rfl⟩ := (hkeep input.course).run hv
    exact ⟨hd, hw, vehicleId, p, hv, h, rfl, rfl⟩
  · intro h
    obtain ⟨hd, hw, vehicleId, p, hv, h, rfl, rfl⟩ := h
    exact ⟨_, _, ⟨input.course, db, ⟨hcourse, rfl⟩, (), db, ⟨by simp, rfl⟩, (), db, ⟨hd, rfl⟩, (),
      db, ⟨hw, rfl⟩, vehicleId, _, hv, h, rfl, rfl⟩, rfl, rfl⟩

/-- A booking, whatever has become of the course in the meantime. -/
theorem createPracticeLesson_ok (hkeep : ∀ c, Prog.Keeps Refreshed (resolve c)) {dto : LessonDto}
    {db' : Db} (h : createPracticeLessonForStudent env input resolve db = (.ok dto, db')) :
    ∃ course vehicleId p, loadCourseForBooking db input.course.id = .ok course ∧
      resolve course db = (.ok vehicleId, db.refreshed p) ∧
      ∃ hlt : input.start < input.stop,
        db' = (db.refreshed p).insertLesson env (input.newLesson course vehicleId) hlt := by
  simp only [createPracticeLessonForStudent, Prog.bind_eq_ok, Prog.transaction_eq_ok,
    Prog.query_eq_ok, Prog.lift_eq_ok, Prog.pure_eq_ok, createLesson_eq_ok] at h
  obtain ⟨_, _, ⟨course, _, ⟨hcourse, rfl⟩, _, _, ⟨_, rfl⟩, _, _, ⟨_, rfl⟩, _, _, ⟨_, rfl⟩, v, t,
    hv, hlt, _, rfl⟩, _, rfl⟩ := h
  obtain ⟨p, rfl⟩ := (hkeep course).run hv
  exact ⟨course, v, p, hcourse, hv, hlt, rfl⟩

theorem createPracticeLesson_succeeds (hkeep : ∀ c, Prog.Keeps Refreshed (resolve c))
    (hcourse : loadCourseForBooking db input.course.id = .ok input.course) :
    Prog.Succeeds (createPracticeLessonForStudent env input resolve) db ↔
      assertBookingDurationAllowed db input.course input = .ok () ∧
      assertLessonSchedulingWindowAvailable env.zone db
        (input.course.window input.studentProfileId input.instructorId input.start input.stop) =
          .ok () ∧
      Prog.Succeeds (resolve input.course) db := by
  refine ⟨?_, ?_⟩
  · intro h
    obtain ⟨dto, db', h⟩ := h
    obtain ⟨hd, hw, vehicleId, p, hv, _⟩ := (createPracticeLesson_eq_ok hkeep hcourse _ _).mp h
    exact ⟨hd, hw, vehicleId, _, hv⟩
  · intro h
    obtain ⟨hd, hw, vehicleId, db1, hv⟩ := h
    obtain ⟨p, rfl⟩ := (hkeep input.course).run hv
    exact ⟨_, _, (createPracticeLesson_eq_ok hkeep hcourse _ _).mpr
      ⟨hd, hw, vehicleId, p, hv, window_start_before_end hw, rfl, rfl⟩⟩

end Booking

/-- The vehicle of a booking by the school is the one asked for, once it passed. -/
def bookedVehicle (env : Env) (body : BookLessonBody) (course : CourseForBooking) : Service Uuid := do
  assertVehicleAvailableForBooking env body.instructorId body.vehicleId course.schoolId
    body.startTime body.endTime course.courseTypeId
  return body.vehicleId

theorem bookedVehicle_keeps (env : Env) (body : BookLessonBody) (course : CourseForBooking) :
    Prog.Keeps Refreshed (bookedVehicle env body course) :=
  keeps_bind (assertVehicleAvailableForBooking_keeps env _ _ _ _ _ _ _) fun _ => keeps_pure _

def BookLessonBody.input (body : BookLessonBody) (course : CourseForBooking)
    (studentProfileId : Uuid) : PracticeLessonInput where
  course
  studentProfileId
  instructorId := body.instructorId
  start := body.startTime
  stop := body.endTime

/-- The rules of a booking by the school that come before its transaction. -/
structure BookLessonRules (env : Env) (actor : Actor) (body : BookLessonBody) (db : Db)
    (course : CourseForBooking) (studentProfileId : Uuid) : Prop where
  course_loaded : loadCourseForBooking db body.courseId = .ok course
  time : assertLessonTimeIsBookable env db body.startTime course.schoolId = .ok ()
  actor_allowed : assertActorCanBookLessonForCourse db actor course.schoolId = .ok ()
  student_loaded : loadStudentProfileIdForUser db body.studentId = .ok studentProfileId
  participates : assertStudentParticipatesInCourse db course.id studentProfileId true = .ok ()
  instructor : assertInstructorCanBookCourse db body.instructorId course true = .ok ()

theorem bookLesson_eq_ok (env : Env) (actor : Actor) (body : BookLessonBody) (db db' : Db)
    (dto : LessonDto) :
    bookLesson env actor body db = (.ok dto, db') ↔
      ∃ course studentProfileId, BookLessonRules env actor body db course studentProfileId ∧
        createPracticeLessonForStudent env (body.input course studentProfileId)
          (bookedVehicle env body) db = (.ok dto, db') := by
  simp only [bookLesson, Prog.query_bind_eq_ok]
  refine ⟨?_, ?_⟩
  · intro h
    obtain ⟨course, hc, _, ht, _, ha, student, hs, _, hp, _, hi, h⟩ := h
    exact ⟨course, student, ⟨hc, ht, ha, hs, hp, hi⟩, h⟩
  · intro h
    obtain ⟨course, student, ⟨hc, ht, ha, hs, hp, hi⟩, h⟩ := h
    exact ⟨course, hc, (), ht, (), ha, student, hs, (), hp, (), hi, h⟩

def BookOwnLessonBody.input (body : BookOwnLessonBody) (course : CourseForBooking)
    (studentProfileId : Uuid) : PracticeLessonInput where
  course
  studentProfileId
  instructorId := body.instructorId
  start := body.startTime
  stop := body.endTime
  bookingMode := body.bookingMode

/-- The rules of a booking by the student that come before its transaction. -/
structure BookOwnLessonRules (env : Env) (actor : Actor) (body : BookOwnLessonBody) (db : Db)
    (course : CourseForBooking) (studentProfileId : Uuid) : Prop where
  actor_student : actor.role = .student
  course_loaded : loadCourseForBooking db body.courseId = .ok course
  self_booked : assertCourseCanBeSelfBooked course = .ok ()
  time : assertLessonTimeIsBookable env db body.startTime course.schoolId = .ok ()
  student_loaded : loadStudentProfileIdForUser db actor.id = .ok studentProfileId
  participates : assertStudentParticipatesInCourse db course.id studentProfileId true = .ok ()
  instructor : assertInstructorCanBookCourse db body.instructorId course = .ok ()

theorem bookOwnLesson_eq_ok (env : Env) (actor : Actor) (body : BookOwnLessonBody) (db db' : Db)
    (dto : LessonDto) :
    bookOwnLesson env actor body db = (.ok dto, db') ↔
      ∃ course studentProfileId, BookOwnLessonRules env actor body db course studentProfileId ∧
        createPracticeLessonForStudent env (body.input course studentProfileId)
          (fun c => findAvailableVehicleIdForStudentBooking env body.instructorId c.schoolId
            body.startTime body.endTime c.courseTypeId) db = (.ok dto, db') := by
  simp only [bookOwnLesson, Prog.query_bind_eq_ok, Prog.lift_bind_eq_ok, throwIf_eq_ok, not_not]
  refine ⟨?_, ?_⟩
  · intro h
    obtain ⟨_, hr, course, hc, _, hb, _, ht, student, hs, _, hp, _, hi, h⟩ := h
    exact ⟨course, student, ⟨hr, hc, hb, ht, hs, hp, hi⟩, h⟩
  · intro h
    obtain ⟨course, student, ⟨hr, hc, hb, ht, hs, hp, hi⟩, h⟩ := h
    exact ⟨(), hr, course, hc, (), hb, (), ht, student, hs, (), hp, (), hi, h⟩

theorem createPracticeLesson_fails (env : Env) (input : PracticeLessonInput)
    (resolve : CourseForBooking → Service Uuid) :
    Prog.FailsWithin Refreshed (createPracticeLessonForStudent env input resolve) :=
  Prog.FailsWithin.map (Prog.FailsWithin.transaction Refreshed.refl _) _

theorem bookLesson_fails (env : Env) (actor : Actor) (body : BookLessonBody) :
    Prog.FailsWithin Refreshed (bookLesson env actor body) := by
  refine fails_bind (keeps_query _) fun _ => fails_bind (keeps_query _) fun _ => ?_
  refine fails_bind (keeps_query _) fun _ => fails_bind (keeps_query _) fun _ => ?_
  refine fails_bind (keeps_query _) fun _ => fails_bind (keeps_query _) fun _ => ?_
  exact createPracticeLesson_fails env _ _

theorem bookOwnLesson_fails (env : Env) (actor : Actor) (body : BookOwnLessonBody) :
    Prog.FailsWithin Refreshed (bookOwnLesson env actor body) := by
  refine fails_bind (keeps_lift _) fun _ => fails_bind (keeps_query _) fun _ => ?_
  refine fails_bind (keeps_lift _) fun _ => fails_bind (keeps_query _) fun _ => ?_
  refine fails_bind (keeps_query _) fun _ => fails_bind (keeps_query _) fun _ => ?_
  exact fails_bind (keeps_query _) fun _ => createPracticeLesson_fails env _ _

/-! ### Editing -/

def Lesson.slotChanged (existing : Lesson) (slot : LessonSlot) : Bool :=
  existing.timeChanged slot || existing.vehicleChanged slot || existing.instructorChanged slot

theorem lesson_slot_kept {existing : Lesson} {slot : LessonSlot}
    (h : ¬(existing.timeChanged slot || existing.instructorChanged slot) = true) :
    slot.start = existing.startTime ∧ slot.stop = existing.endTime ∧
      slot.instructorId = .ofUuid existing.instructorId := by
  simpa [Lesson.timeChanged, Lesson.instructorChanged, and_assoc] using h

/-- The rules of an edit that come before the ones on what it changes. -/
structure UpdateLessonRules (env : Env) (actor : Actor) (lessonId : Uuid) (body : UpdateLessonBody)
    (db : Db) (existing : Lesson) (course : CourseForBooking) (vehicleId : UuidText) : Prop where
  found : findLesson db lessonId = some existing
  course_found : lessonCourse db existing = .ok course
  actor_allowed : assertActorCanBookLessonForCourse db actor course.schoolId = .ok ()
  editable : assertLessonIsEditable env existing.status existing.endTime = .ok ()
  vehicle : body.vehicleId.or (existing.vehicleId.map .ofUuid) = some vehicleId
  lesson_type : existing.instructorChanged (body.slot existing vehicleId) = true →
    existing.lessonType = .practice
  state_sent : body.instructorId ≠ none → body.expectedLessonState.isSome = true
  state_seen : ∀ expected, body.expectedLessonState = some expected →
    expected.matches existing = true
  not_started : (existing.timeChanged (body.slot existing vehicleId) ||
      existing.instructorChanged (body.slot existing vehicleId)) = true →
    assertLessonHasNotStarted env existing.status existing.startTime = .ok () ∧
    assertLessonHasNotStarted env existing.status (body.slot existing vehicleId).start = .ok ()

/-- The rules on what an edit changes; the vehicle's availability comes on top. -/
structure LessonSlotRules (env : Env) (db : Db) (existing : Lesson) (course : CourseForBooking)
    (slot : LessonSlot) : Prop where
  linked : (instructorLink db slot.instructorId.uuid course.schoolId).isSome = true
  qualified : existing.instructorChanged slot = true →
    assertInstructorQualifiedForCourseType db slot.instructorId.uuid course.courseTypeId = .ok ()
  bookable : existing.timeChanged slot = true →
    assertLessonTimeIsBookable env db slot.start course.schoolId = .ok ()
  duration : existing.timeChanged slot = true →
    ∃ policy, assertScheduleDurationAllowed db course.schoolId .practice slot.start slot.stop =
      .ok policy
  window : (existing.timeChanged slot || existing.instructorChanged slot) = true →
    assertLessonSchedulingWindowAvailable env.zone db
      (course.window existing.studentId slot.instructorId.uuid slot.start slot.stop existing.id) =
        .ok ()
  vehicle_in_school : (db.vehicles.findFirst fun v => decide (v.id = slot.vehicleId.uuid ∧
    v.schoolId = course.schoolId ∧ v.isActive = true)).isSome = true
  vehicle_supports :
    assertVehicleSupportsCourseType db slot.vehicleId.uuid course.courseTypeId = .ok ()
  vehicle_free : vehicleHasBookingConflict db slot.vehicleId.uuid slot.start slot.stop
    (some existing.id) = false
  not_started : (existing.timeChanged slot || existing.instructorChanged slot) = true →
    assertLessonHasNotStarted env existing.status existing.startTime = .ok ()

section Editing

variable {env : Env} {db : Db}

theorem lessonSlotAllowed_eq_ok (existing : Lesson) (course : CourseForBooking)
    (slot : LessonSlot) (t : Db) :
    assertLessonSlotAllowed env existing course slot db = (.ok (), t) ↔
      LessonSlotRules env db existing course slot ∧
      validateVehicleForInstructor env slot.instructorId.uuid slot.vehicleId.uuid
        (existing.slotChanged slot) db = (.ok (), t) := by
  simp only [assertLessonSlotAllowed, Prog.query_bind_eq_ok, Prog.when_query_bind_eq_ok]
  simp only [Prog.bind_eq_ok, Prog.query_eq_ok, Prog.when_query_eq_ok, throwIf_eq_ok,
    except_bind_eq_ok, Option.isNone_eq_false_iff, Bool.not_eq_true]
  refine ⟨?_, ?_⟩
  · intro h
    obtain ⟨_, hl, hq, ht, hw, _, hv, _, hs, _, s1, hval, _, s2, ⟨hf, rfl⟩, hn, rfl⟩ := h
    obtain ⟨p, rfl⟩ := (validateVehicleForInstructor_keeps env _ _ _).run hval
    refine ⟨⟨hl, hq, fun h => ?_, fun h => ?_, hw, hv, hs, hf, hn⟩, hval⟩
    · obtain ⟨_, h1, _⟩ := ht h
      exact h1
    · obtain ⟨_, _, policy, h2, _⟩ := ht h
      exact ⟨policy, h2⟩
  · intro h
    obtain ⟨⟨hl, hq, hb, hd, hw, hv, hs, hf, hn⟩, hval⟩ := h
    obtain ⟨p, rfl⟩ := (validateVehicleForInstructor_keeps env _ _ _).run hval
    refine ⟨(), hl, hq, fun h => ?_, hw, (), hv, (), hs, (), _, hval, (), _, ⟨hf, rfl⟩, hn, rfl⟩
    obtain ⟨policy, hp⟩ := hd h
    exact ⟨(), hb h, policy, hp, rfl⟩

theorem writeLessonSlot_eq_ok (existing : Lesson) (slot : LessonSlot) (row : Lesson) (db' : Db) :
    writeLessonSlot existing slot db = (.ok row, db') ↔
      ∃ h : slot.start < slot.stop,
        row = existing.moved slot h ∧ db' = db.moveLesson existing.id slot h := by
  unfold writeLessonSlot
  split
  · next h => simp [h, eq_comm]
  · next h => simp [h]

/-- What the rules admit is written; an edit that changes nothing is not checked further. -/
theorem applySlot_eq_ok (existing : Lesson) (course : CourseForBooking) (slot : LessonSlot)
    (dto : LessonDto) (db' : Db) :
    (if (!(existing.timeChanged slot) && !(existing.vehicleChanged slot) &&
          !(existing.instructorChanged slot)) = true then
        (pure (mapLessonRowToDto existing) : Service LessonDto)
      else do
        assertLessonSlotAllowed env existing course slot
        let row ← writeLessonSlot existing slot
        return mapLessonRowToDto row) db = (.ok dto, db') ↔
      (existing.slotChanged slot = false ∧ dto = mapLessonRowToDto existing ∧ db' = db) ∨
      (existing.slotChanged slot = true ∧
        ∃ p, assertLessonSlotAllowed env existing course slot db = (.ok (), db.refreshed p) ∧
          ∃ h : slot.start < slot.stop, dto = mapLessonRowToDto (existing.moved slot h) ∧
            db' = (db.refreshed p).moveLesson existing.id slot h) := by
  have hflag : (!(existing.timeChanged slot) && !(existing.vehicleChanged slot) &&
      !(existing.instructorChanged slot)) = !(existing.slotChanged slot) := by
    simp only [Lesson.slotChanged, Bool.not_or]
  rw [hflag]
  cases existing.slotChanged slot with
  | false =>
    simp only [Bool.not_false, if_true, Prog.pure_eq_ok, true_and, reduceCtorEq, false_and,
      or_false]
    exact ⟨fun ⟨h1, h2⟩ => ⟨h1.symm, h2.symm⟩, fun ⟨h1, h2⟩ => ⟨h1.symm, h2.symm⟩⟩
  | true =>
    simp only [Bool.not_true, Bool.false_eq_true, if_false, Prog.bind_eq_ok, Prog.pure_eq_ok,
      writeLessonSlot_eq_ok, reduceCtorEq, false_and, false_or, true_and]
    refine ⟨?_, ?_⟩
    · intro h
      obtain ⟨_, s1, hs, _, _, ⟨h, rfl, rfl⟩, rfl, rfl⟩ := h
      obtain ⟨_, hval⟩ := (lessonSlotAllowed_eq_ok existing course slot s1).mp hs
      obtain ⟨p, rfl⟩ := (validateVehicleForInstructor_keeps env _ _ _).run hval
      exact ⟨p, hs, h, rfl, rfl⟩
    · intro h
      obtain ⟨p, hs, h, rfl, rfl⟩ := h
      exact ⟨(), _, hs, _, _, ⟨h, rfl, rfl⟩, rfl, rfl⟩

theorem updateLesson_eq_ok (actor : Actor) (lessonId : Uuid) (body : UpdateLessonBody)
    (dto : LessonDto) (db' : Db) :
    updateLesson env actor lessonId body db = (.ok dto, db') ↔
      ∃ existing course vehicleId,
        UpdateLessonRules env actor lessonId body db existing course vehicleId ∧
        ((existing.slotChanged (body.slot existing vehicleId) = false ∧
            dto = mapLessonRowToDto existing ∧ db' = db) ∨
          (existing.slotChanged (body.slot existing vehicleId) = true ∧
            ∃ p, assertLessonSlotAllowed env existing course (body.slot existing vehicleId) db =
                (.ok (), db.refreshed p) ∧
              ∃ h : (body.slot existing vehicleId).start < (body.slot existing vehicleId).stop,
                dto = mapLessonRowToDto (existing.moved (body.slot existing vehicleId) h) ∧
                db' = (db.refreshed p).moveLesson existing.id (body.slot existing vehicleId) h)) := by
  simp only [updateLesson, Prog.transaction_eq_ok, Prog.query_bind_eq_ok, Prog.lift_bind_eq_ok,
    Prog.when_query_bind_eq_ok, throwIf_eq_ok, orThrow_eq_ok, except_bind_eq_ok, applySlot_eq_ok]
  refine ⟨?_, ?_⟩
  · intro h
    obtain ⟨existing, hf, course, hc, _, ha, _, he, vehicleId, hv, _, ht, _, hs, _, hm, hn, h⟩ := h
    refine ⟨existing, course, vehicleId, ⟨hf, hc, ha, he, hv, ?_, ?_, ?_, fun hch => ?_⟩, h⟩
    · intro hch
      by_contra hne
      exact ht ⟨hch, hne⟩
    · intro hb
      by_contra hne
      exact hs ⟨hb, by simpa using hne⟩
    · intro expected hexp
      simpa [hexp] using hm
    · obtain ⟨_, h1, h2⟩ := hn hch
      exact ⟨h1, h2⟩
  · intro h
    obtain ⟨existing, course, vehicleId, ⟨hf, hc, ha, he, hv, ht, hs, hm, hn⟩, h⟩ := h
    refine ⟨existing, hf, course, hc, (), ha, (), he, vehicleId, hv, (), ?_, (), ?_, (), ?_,
      fun hch => ⟨(), hn hch⟩, h⟩
    · rintro ⟨hch, hne⟩
      exact hne (ht hch)
    · intro h
      obtain ⟨hb, hnone⟩ := h
      have hsome := hs hb
      rw [← Option.not_isNone, hnone] at hsome
      cases hsome
    · cases hexp : body.expectedLessonState with
      | none => simp
      | some expected => simp [hm expected hexp]

end Editing

/-! ### Cancelling -/

section Cancelling

variable (env : Env) (actor : Actor) (lessonId : Uuid) (db : Db)

theorem cancelLesson_store :
    (cancelLesson env actor lessonId db).2 = db ∨
      (cancelLesson env actor lessonId db).2 =
        db.cancelLessons (Lesson.stillCancellable env lessonId none) := by
  unfold cancelLesson
  rw [Prog.bind_run]
  split
  · next a t h =>
    rw [Prog.query_eq_ok] at h
    obtain ⟨_, rfl⟩ := h
    exact Or.inr rfl
  · next e t h =>
    simp only [Prog.query, Prod.mk.injEq] at h
    exact Or.inl h.2.symm

theorem cancelOwnLesson_store :
    (cancelOwnLesson env actor lessonId db).2 = db ∨
      ∃ owner, (cancelOwnLesson env actor lessonId db).2 =
        db.cancelLessons (Lesson.stillCancellable env lessonId (some owner)) := by
  unfold cancelOwnLesson
  rw [Prog.bind_run]
  split
  · next owner t h =>
    rw [Prog.query_eq_ok] at h
    obtain ⟨_, rfl⟩ := h
    exact Or.inr ⟨owner, rfl⟩
  · next e t h =>
    simp only [Prog.query, Prod.mk.injEq] at h
    exact Or.inl h.2.symm

end Cancelling

end OSK
