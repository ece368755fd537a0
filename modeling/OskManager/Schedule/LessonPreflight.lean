import OskManager.Sample.SmallSchool
import OskManager.Schedule.CheckRules

/-! The manager's checks of lessons. A check of a booking and a check of an edit follow the rules
of the write they announce, but for three rules that only the write has. Each check answers
what the write would say exactly when none of these rules is the only one to refuse. -/

namespace OSK

open Relational

section

variable {env : Env} {db db' : Db}

/-! ### Booking -/

theorem bookLesson_succeeds {actor : Actor} {body : BookLessonBody} {course : CourseForBooking}
    {student : Uuid} (hrules : BookLessonRules env actor body db course student) :
    Prog.Succeeds (bookLesson env actor body) db ↔
      durationIssues (body.endTime - body.startTime)
        (resolveScheduleDurationPolicy db course.schoolId .practice) = [] ∧
      assertLessonSchedulingWindowAvailable env.zone db
        (course.window student body.instructorId body.startTime body.endTime) = .ok () ∧
      Prog.Succeeds (bookedVehicle env body course) db := by
  have hcourse := loadCourseForBooking_self hrules.course_loaded
  have hcreate : Prog.Succeeds (bookLesson env actor body) db ↔
      Prog.Succeeds (createPracticeLessonForStudent env (body.input course student)
        (bookedVehicle env body)) db := by
    refine ⟨?_, ?_⟩
    · intro h
      obtain ⟨dto, t, hok⟩ := h
      obtain ⟨course', student', hrules', hok⟩ := (bookLesson_eq_ok ..).mp hok
      cases hrules.course_loaded.symm.trans hrules'.course_loaded
      cases hrules.student_loaded.symm.trans hrules'.student_loaded
      exact ⟨dto, t, hok⟩
    · intro h
      obtain ⟨dto, t, hok⟩ := h
      exact ⟨dto, t, (bookLesson_eq_ok ..).mpr ⟨course, student, hrules, hok⟩⟩
  rw [hcreate, createPracticeLesson_succeeds (bookedVehicle_keeps env body) hcourse]
  apply and_congr_left
  intro hrest
  exact bookingDuration_without_mode rfl (window_start_before_end hrest.1)

/-- The booking that a check of the window announces. -/
def LessonCreateCheckBody.booking (body : LessonCreateCheckBody) (window : ScheduleWindow) :
    BookLessonBody where
  courseId := body.courseId
  studentId := body.studentId
  instructorId := body.instructorId
  startTime := window.start
  endTime := window.stop
  vehicleId := body.vehicleId

/-- The rules that the check and the booking of a student of the course have in common. -/
structure LessonCreateRules (env : Env) (body : LessonCreateCheckBody) (db : Db)
    (course : CourseForBooking) (student : Uuid) (window : ScheduleWindow) : Prop where
  duration : durationIssues (window.stop - window.start)
    (resolveScheduleDurationPolicy db course.schoolId .practice) = []
  time : assertLessonTimeIsBookable env db window.start course.schoolId = .ok ()
  instructor : assertInstructorCanBookCourse db body.instructorId course true = .ok ()
  schedule : assertLessonSchedulingWindowAvailable env.zone db
    (course.window student body.instructorId window.start window.stop) = .ok ()
  vehicle : Prog.Succeeds (bookedVehicle env (body.booking window) course) db

theorem bookedVehicle_issues {body : LessonCreateCheckBody} {course : CourseForBooking}
    {window : ScheduleWindow} {l : List ScheduleAvailabilityIssue}
    {h : Failure → Except Failure ScheduleAvailabilityIssue}
    (hl : Prog.issues (assertVehicleAvailableForBooking env body.instructorId body.vehicleId
      course.schoolId window.start window.stop course.courseTypeId) h db = (.ok l, db')) :
    l = [] ↔ Prog.Succeeds (bookedVehicle env (body.booking window) course) db := by
  rw [Prog.issues_nil_iff_succeeds hl]
  exact Prog.succeeds_map.symm

theorem checkLessonCreate_ok {actor : Actor} {body : LessonCreateCheckBody}
    {answer : ScheduleAvailabilityAnswer}
    (h : checkLessonCreateAvailability env actor body db = (.ok answer, db')) :
    ∃ course window, loadCourseForBooking db body.courseId = .ok course ∧
      assertActorCanBookLessonForCourse db actor course.schoolId = .ok () ∧
      body.parse env.zone = .ok window ∧
      (answer.available = true ↔ ∃ student,
        loadStudentProfileIdForUser db body.studentId = .ok student ∧
        assertStudentParticipatesInCourse db course.id student = .ok () ∧
        LessonCreateRules env body db course student window) := by
  simp only [checkLessonCreateAvailability, Prog.query_bind_eq_ok, Prog.lift_bind_eq_ok,
    Except.ok.injEq] at h
  obtain ⟨course, hcourse, _, hactor, window, hparse, policy, rfl, h⟩ := h
  refine ⟨course, window, hcourse, hactor, hparse, ?_⟩
  rw [Prog.bind_eq_ok] at h
  obtain ⟨dateIssues, s1, hdate, h⟩ := h
  obtain ⟨rfl, hdateNil, _⟩ := lessonDateIssues_ok hdate
  simp only [Prog.query_bind_eq_ok, Except.ok.injEq] at h
  obtain ⟨profile, rfl, h⟩ := h
  rw [Prog.bind_eq_ok] at h
  obtain ⟨studentIssues, s2, hstudent, h⟩ := h
  obtain ⟨rfl, hstudentNil⟩ := query_issues hstudent
  rw [Prog.bind_eq_ok] at h
  obtain ⟨instructorIssues, s3, hinstructor, h⟩ := h
  obtain ⟨rfl, hinstructorNil⟩ := lessonInstructorIssues_ok hinstructor
  simp only [Prog.bind_eq_ok, Prog.transaction_eq_ok, Prog.pure_eq_ok] at h
  obtain ⟨_, _, ⟨scheduleIssues, s4, hschedule, vehicleIssues, s5, hvehicle, rfl, rfl⟩, rfl, rfl⟩ :=
    h
  have hstudentNil' : studentIssues = [] ↔ ∃ student,
      loadStudentProfileIdForUser s3 body.studentId = .ok student ∧
      assertStudentParticipatesInCourse s3 course.id student = .ok () := by
    rw [hstudentNil, except_bind_eq_ok]
  simp only [List.isEmpty_iff, List.append_eq_nil_iff]
  by_cases hprofile : ∃ student, instructorIssues = [] ∧
      loadStudentProfileIdForUser s3 body.studentId = .ok student
  · obtain ⟨student, hnil, hload⟩ := hprofile
    have hsome : (if instructorIssues = [] then
        (loadStudentProfileIdForUser s3 body.studentId).toOption else none) = some student := by
      rw [if_pos hnil, hload]
      rfl
    rw [hsome] at hschedule
    obtain ⟨rfl, hscheduleNil⟩ := lessonScheduleIssues_ok hschedule
    have hvehicleNil := bookedVehicle_issues hvehicle
    rw [hdateNil, hstudentNil', hinstructorNil, hscheduleNil, hvehicleNil]
    refine ⟨?_, ?_⟩
    · intro h
      obtain ⟨⟨⟨⟨hd, ht⟩, student', hload', hp⟩, hi⟩, hw, hv⟩ := h
      cases hload.symm.trans hload'
      exact ⟨student, hload, hp, hd, ht, hi, hw, hv⟩
    · intro h
      obtain ⟨student', hload', hp, hd, ht, hi, hw, hv⟩ := h
      cases hload.symm.trans hload'
      exact ⟨⟨⟨⟨hd, ht⟩, student, hload, hp⟩, hi⟩, hw, hv⟩
  · refine iff_of_false ?_ ?_
    · intro h
      obtain ⟨⟨⟨_, hs⟩, hi⟩, _⟩ := h
      obtain ⟨student, hload, _⟩ := hstudentNil'.mp hs
      exact hprofile ⟨student, hi, hload⟩
    · intro h
      obtain ⟨student, hload, _, hrules⟩ := h
      exact hprofile ⟨student, hinstructorNil.mpr hrules.instructor, hload⟩

/-- With the course and the actor admitted, a booking depends on the student's participation and
on the rules shared with the check. -/
theorem bookLesson_succeeds_iff {actor : Actor} {body : LessonCreateCheckBody}
    {course : CourseForBooking} {window : ScheduleWindow}
    (hcourse : loadCourseForBooking db body.courseId = .ok course)
    (hactor : assertActorCanBookLessonForCourse db actor course.schoolId = .ok ()) :
    Prog.Succeeds (bookLesson env actor (body.booking window)) db ↔ ∃ student,
      loadStudentProfileIdForUser db body.studentId = .ok student ∧
      assertStudentParticipatesInCourse db course.id student true = .ok () ∧
      LessonCreateRules env body db course student window := by
  refine ⟨?_, ?_⟩
  · intro h
    obtain ⟨dto, t, hok⟩ := h
    obtain ⟨course', student, hrules, _⟩ := (bookLesson_eq_ok ..).mp hok
    cases hcourse.symm.trans hrules.course_loaded
    obtain ⟨hduration, hschedule, hvehicle⟩ := (bookLesson_succeeds hrules).mp ⟨dto, t, hok⟩
    exact ⟨student, hrules.student_loaded, hrules.participates, hduration, hrules.time,
      hrules.instructor, hschedule, hvehicle⟩
  · intro h
    obtain ⟨student, hstudent, hparticipates, hduration, htime, hinstructor, hschedule, hvehicle⟩ := h
    exact (bookLesson_succeeds ⟨hcourse, htime, hactor, hstudent, hparticipates, hinstructor⟩).mpr
      ⟨hduration, hschedule, hvehicle⟩

theorem participates_eq_ok {courseId student : Uuid} {b : Bool} :
    assertStudentParticipatesInCourse db courseId student b = .ok () ↔
      ∃ p ∈ db.courseParticipants.rows, p.courseId = courseId ∧ p.studentId = student ∧
        (b = true → p.status = .active) := by
  simp only [assertStudentParticipatesInCourse, throwIf_eq_ok, Option.isNone_iff_eq_none,
    ← ne_eq, ← Option.isSome_iff_ne_none, Table.findFirst_isSome, decide_eq_true_eq]

/-- The student takes part in the course but is no longer active in it. -/
def FinishedParticipant (db : Db) (courseId student : Uuid) : Prop :=
  ∃ p ∈ db.courseParticipants.rows, p.courseId = courseId ∧ p.studentId = student ∧
    p.status ≠ .active

theorem participates_active_iff {courseId student : Uuid} :
    assertStudentParticipatesInCourse db courseId student true = .ok () ↔
      assertStudentParticipatesInCourse db courseId student = .ok () ∧
        ¬FinishedParticipant db courseId student := by
  rw [participates_eq_ok, participates_eq_ok]
  refine ⟨?_, ?_⟩
  · intro h
    obtain ⟨p, hp, hc, hs, hactive⟩ := h
    refine ⟨⟨p, hp, hc, hs, by simp⟩, ?_⟩
    intro h
    obtain ⟨q, hq, hc', hs', hfinished⟩ := h
    have heq : q = p := db.courseParticipants.key_inj hq hp
      (Prod.ext (hc'.trans hc.symm) (hs'.trans hs.symm))
    exact hfinished (heq ▸ hactive rfl)
  · intro h
    obtain ⟨⟨p, hp, hc, hs, _⟩, hnot⟩ := h
    refine ⟨p, hp, hc, hs, fun _ => ?_⟩
    by_contra hfinished
    exact hnot ⟨p, hp, hc, hs, hfinished⟩

/-- The check of a booking answers what the booking would say, unless it is for a student who
has finished the course and no other rule refuses. -/
theorem lessonCreate_agrees_iff {actor : Actor} {body : LessonCreateCheckBody}
    {answer : ScheduleAvailabilityAnswer}
    (h : checkLessonCreateAvailability env actor body db = (.ok answer, db')) :
    ∃ course window, loadCourseForBooking db body.courseId = .ok course ∧
      body.parse env.zone = .ok window ∧
      ((answer.available = true ↔
          Prog.Succeeds (bookLesson env actor (body.booking window)) db) ↔
        ∀ student, loadStudentProfileIdForUser db body.studentId = .ok student →
          FinishedParticipant db course.id student →
            ¬LessonCreateRules env body db course student window) := by
  obtain ⟨course, window, hcourse, hactor, hparse, havailable⟩ := checkLessonCreate_ok h
  refine ⟨course, window, hcourse, hparse, ?_⟩
  rw [havailable, bookLesson_succeeds_iff hcourse hactor]
  simp only [participates_active_iff]
  refine ⟨?_, ?_⟩
  · intro hagree student hload hfinished hrules
    have hparticipates : assertStudentParticipatesInCourse db course.id student = .ok () := by
      obtain ⟨p, hp, hc, hs, _⟩ := hfinished
      exact participates_eq_ok.mpr ⟨p, hp, hc, hs, by simp⟩
    obtain ⟨student', hload', ⟨_, hnot⟩, _⟩ := hagree.mp ⟨student, hload, hparticipates, hrules⟩
    cases hload.symm.trans hload'
    exact hnot hfinished
  · intro hcond
    refine ⟨?_, ?_⟩
    · intro h
      obtain ⟨student, hload, hparticipates, hrules⟩ := h
      exact ⟨student, hload, ⟨hparticipates, fun hf => hcond student hload hf hrules⟩, hrules⟩
    · intro h
      obtain ⟨student, hload, ⟨hparticipates, _⟩, hrules⟩ := h
      exact ⟨student, hload, hparticipates, hrules⟩

end

namespace SmallSchool

def createCheck : LessonCreateCheckBody where
  date := 5
  startTime := 600
  endTime := 660
  courseId := 50
  studentId := 3
  instructorId := 20
  vehicleId := 40

def withFinishedStudent : Db :=
  { SmallSchool.db with courseParticipants := ⟨[⟨50, 30, .finished⟩], by decide⟩ }

end SmallSchool

open SmallSchool in
/-- For an active student the announced booking goes through. -/
theorem lessonCreate_agrees_active :
    Prog.Succeeds (bookLesson (envAt (clock 4 8 0)) manager
      (createCheck.booking ⟨clock 5 10 0, clock 5 11 0⟩)) SmallSchool.db := by
  obtain ⟨answer, t, h⟩ : Prog.Succeeds
      (checkLessonCreateAvailability (envAt (clock 4 8 0)) manager createCheck) SmallSchool.db := by
    decide
  have havailable : ((checkLessonCreateAvailability (envAt (clock 4 8 0)) manager createCheck
      SmallSchool.db).1.toOption.any (·.available)) = true := by decide
  rw [h] at havailable
  obtain ⟨course, window, hcourse, hparse, hiff⟩ := lessonCreate_agrees_iff h
  cases hcourse
  cases hparse
  refine (hiff.mpr ?_).mp havailable
  intro student hload hfinished
  cases hload
  obtain ⟨p, hp, _, hs, hstatus⟩ := hfinished
  exact absurd (show p.status = .active by
    rcases List.mem_cons.mp hp with rfl | hp
    · rfl
    · rw [List.mem_singleton.mp hp]) hstatus

open SmallSchool in
/-- For a student who has finished the course the check still promises the slot. -/
theorem lessonCreate_promises_finished :
    ((checkLessonCreateAvailability (envAt (clock 4 8 0)) manager createCheck
      withFinishedStudent).1.toOption.map (·.available)) = some true ∧
    ¬Prog.Succeeds (bookLesson (envAt (clock 4 8 0)) manager
      (createCheck.booking ⟨clock 5 10 0, clock 5 11 0⟩)) withFinishedStudent := by
  decide

/-! ### Editing -/

section

variable {env : Env} {db db' : Db}

/-- The edit that a check announces, with every field set and the lesson as it is stored. -/
def LessonEditCheckBody.update (body : LessonEditCheckBody) (window : ScheduleWindow)
    (existing : Lesson) : UpdateLessonBody where
  startTime := some window.start
  endTime := some window.stop
  instructorId := some body.instructorId
  vehicleId := some body.vehicleId
  expectedLessonState := some
    { instructorId := .ofUuid existing.instructorId, startTime := existing.startTime
      endTime := existing.endTime, vehicleId := existing.vehicleId.map .ofUuid }

/-- The rules that the check and the edit have in common, for a slot that changes something. -/
structure LessonEditRules (env : Env) (db : Db) (existing : Lesson) (course : CourseForBooking)
    (slot : LessonSlot) : Prop where
  slot_rules : LessonSlotRules env db existing course slot
  vehicle : Prog.Succeeds
    (validateVehicleForInstructor env slot.instructorId.uuid slot.vehicleId.uuid true) db

/-- What the edit refuses and the check does not look at: another instructor, or the same one in
another spelling, for a lesson that is not practice, and a new start at the present instant. -/
def EditOnlyRefusal (env : Env) (existing : Lesson) (slot : LessonSlot) : Prop :=
  (existing.instructorChanged slot = true ∧ existing.lessonType ≠ .practice) ∨
    (existing.timeChanged slot = true ∧ slot.start = env.now)

theorem lessonHasNotStarted_eq_ok {status : LessonStatus} {startTime : Instant} :
    assertLessonHasNotStarted env status startTime = .ok () ↔
      status = .scheduled ∧ env.now < startTime := by
  simp only [assertLessonHasNotStarted, throwIf_eq_ok, not_or, ne_eq, not_not, not_le]

theorem lessonVehicleFits_issues {instructorId vehicleId : Uuid} {course : CourseForBooking}
    {l : List ScheduleAvailabilityIssue} {h : Failure → Except Failure ScheduleAvailabilityIssue}
    (hl : Prog.issues (assertLessonVehicleFits env instructorId vehicleId course) h db =
      (.ok l, db')) :
    (∃ p, db' = db.refreshed p) ∧
    (l = [] ↔
      (db.vehicles.findFirst fun v => decide (v.id = vehicleId ∧ v.schoolId = course.schoolId ∧
        v.isActive = true)).isSome = true ∧
      assertVehicleSupportsCourseType db vehicleId course.courseTypeId = .ok () ∧
      Prog.Succeeds (validateVehicleForInstructor env instructorId vehicleId true) db) := by
  have hkeep : Prog.Keeps Refreshed (assertLessonVehicleFits env instructorId vehicleId course) :=
    keeps_bind (keeps_query _) fun _ => keeps_bind (keeps_query _) fun _ =>
      validateVehicleForInstructor_keeps env _ _ _
  refine ⟨Prog.issues_store hl ▸ hkeep db, ?_⟩
  rw [Prog.issues_nil_iff_succeeds hl]
  simp only [assertLessonVehicleFits, Prog.succeeds_rule_bind, throwIf_eq_ok, Bool.not_eq_true,
    Option.isNone_eq_false_iff]

theorem lessonEditBookingIssues_ok {existing : Lesson} {course : CourseForBooking}
    {slot : LessonSlot} {l : List ScheduleAvailabilityIssue} {t : Db}
    (hdb : ∃ p, t = db.refreshed p)
    (h : lessonEditBookingIssues env existing course slot t = (.ok l, db')) :
    l = [] ↔
      ((existing.timeChanged slot || existing.instructorChanged slot) = true →
        assertLessonSchedulingWindowAvailable env.zone db
          (course.window existing.studentId slot.instructorId.uuid slot.start slot.stop existing.id) =
            .ok ()) ∧
      vehicleHasBookingConflict db slot.vehicleId.uuid slot.start slot.stop (some existing.id) =
        false := by
  obtain ⟨p, rfl⟩ := hdb
  unfold lessonEditBookingIssues at h
  rw [Prog.bind_eq_ok] at h
  obtain ⟨scheduleIssues, s, hschedule, h⟩ := h
  have hscheduleNil : s = db.refreshed p ∧ (scheduleIssues = [] ↔
      ((existing.timeChanged slot || existing.instructorChanged slot) = true →
        assertLessonSchedulingWindowAvailable env.zone db
          (course.window existing.studentId slot.instructorId.uuid slot.start slot.stop existing.id) =
            .ok ())) := by
    rcases issuesWhen_ok hschedule with ⟨hch, hl⟩ | ⟨hch, rfl, rfl⟩
    · obtain ⟨hs, hnil⟩ := lessonScheduleIssues_ok hl
      rw [assertLessonSchedulingWindowAvailable_refreshed] at hnil
      exact ⟨hs, hnil.trans ⟨fun hok _ => hok, fun hok => hok hch⟩⟩
    · exact ⟨rfl, by simp [hch]⟩
  obtain ⟨rfl, hnil⟩ := hscheduleNil
  simp only [Prog.query_bind_eq_ok, Except.ok.injEq, Prog.pure_eq_ok] at h
  obtain ⟨busy, rfl, rfl, _⟩ := h
  rw [List.append_eq_nil_iff, hnil, vehicleHasBookingConflict_refreshed]
  apply and_congr_right
  intro _
  cases vehicleHasBookingConflict db slot.vehicleId.uuid slot.start slot.stop (some existing.id) <;>
    simp

theorem lessonEditIssues_ok {existing : Lesson} {course : CourseForBooking} {slot : LessonSlot}
    {issues : List ScheduleAvailabilityIssue} (hlt : slot.start < slot.stop)
    (hstarted : assertLessonHasNotStarted env existing.status existing.startTime = .ok ())
    (h : lessonEditIssues env existing course slot
      (resolveScheduleDurationPolicy db course.schoolId .practice) db = (.ok issues, db')) :
    issues = [] ↔ LessonEditRules env db existing course slot := by
  unfold lessonEditIssues at h
  rw [Prog.bind_eq_ok] at h
  obtain ⟨timeIssues, s1, htime, h⟩ := h
  have htimeNil : s1 = db ∧ (timeIssues = [] ↔ (existing.timeChanged slot = true →
      assertLessonTimeIsBookable env db slot.start course.schoolId = .ok () ∧
        ∃ policy, assertScheduleDurationAllowed db course.schoolId .practice slot.start slot.stop =
          .ok policy)) := by
    rcases issuesWhen_ok htime with ⟨hch, hl⟩ | ⟨hch, rfl, rfl⟩
    · rw [Prog.bind_eq_ok] at hl
      obtain ⟨dateIssues, s, hdate, hl⟩ := hl
      obtain ⟨rfl, hdateNil, _⟩ := lessonDateIssues_ok hdate
      rw [Prog.pure_eq_ok] at hl
      obtain ⟨rfl, rfl⟩ := hl
      rw [List.append_eq_nil_iff, hdateNil, scheduleDurationAllowed_iff hlt]
      exact ⟨rfl, fun hok _ => ⟨hok.2, hok.1⟩, fun hok => ⟨(hok hch).2, (hok hch).1⟩⟩
    · exact ⟨rfl, by simp [hch]⟩
  obtain ⟨rfl, htimeNil⟩ := htimeNil
  simp only [Prog.query_bind_eq_ok, Except.ok.injEq] at h
  obtain ⟨link, rfl, h⟩ := h
  by_cases hlink : (instructorLink s1 slot.instructorId.uuid course.schoolId).isNone = true
  · simp only [if_pos hlink, Prog.bind_eq_ok, Prog.pure_eq_ok] at h
    obtain ⟨_, _, ⟨rfl, rfl⟩, vehicleIssues, _, _, lateIssues, _, _, rfl, _⟩ := h
    apply iff_of_false (by simp)
    intro hrules
    have hlinked := hrules.slot_rules.linked
    rw [← Option.not_isNone, hlink] at hlinked
    cases hlinked
  simp only [if_neg hlink, Prog.bind_eq_ok, Prog.transaction_eq_ok, Prog.pure_eq_ok] at h
  obtain ⟨instructorIssues, s2, hinstructor, vehicleIssues, s3, hvehicle, lateIssues, s4, hlate, rfl,
    rfl⟩ := h
  have hinstructorNil : s2 = s1 ∧ (instructorIssues = [] ↔ (existing.instructorChanged slot = true →
      assertInstructorQualifiedForCourseType s1 slot.instructorId.uuid course.courseTypeId =
        .ok ())) := by
    rcases issuesWhen_ok hinstructor with ⟨hch, hl⟩ | ⟨hch, rfl, rfl⟩
    · obtain ⟨hs, hnil⟩ := query_issues hl
      exact ⟨hs, hnil.trans ⟨fun hok _ => hok, fun hok => hok hch⟩⟩
    · exact ⟨rfl, by simp [hch]⟩
  obtain ⟨rfl, hinstructorNil⟩ := hinstructorNil
  obtain ⟨hstore, hvehicleNil⟩ := lessonVehicleFits_issues hvehicle
  have hlateNil := lessonEditBookingIssues_ok hstore hlate
  simp only [List.append_eq_nil_iff, htimeNil, hinstructorNil, hvehicleNil, hlateNil]
  refine ⟨?_, ?_⟩
  · intro h
    obtain ⟨⟨⟨ht, hq⟩, hschool, hsupports, hval⟩, hw, hbusy⟩ := h
    refine ⟨⟨?_, hq, fun hch => (ht hch).1, fun hch => (ht hch).2, hw, hschool, hsupports, hbusy,
      fun _ => hstarted⟩, hval⟩
    rwa [← Option.not_isNone, Bool.not_eq_true', ← Bool.not_eq_true]
  · intro h
    obtain ⟨hrules, hval⟩ := h
    exact ⟨⟨⟨fun hch => ⟨hrules.bookable hch, hrules.duration hch⟩, hrules.qualified⟩,
      hrules.vehicle_in_school, hrules.vehicle_supports, hval⟩, hrules.window, hrules.vehicle_free⟩

theorem lessonEditIssues_run {existing : Lesson} {course : CourseForBooking} {slot : LessonSlot}
    (hlt : slot.start < slot.stop) (hrules : LessonEditRules env db existing course slot) :
    ∃ t, lessonEditIssues env existing course slot
      (resolveScheduleDurationPolicy db course.schoolId .practice) db = (.ok [], t) := by
  obtain ⟨hslot, _, t, hval⟩ := hrules
  obtain ⟨p, rfl⟩ := (validateVehicleForInstructor_keeps env _ _ _).run hval
  have hlink : ¬(instructorLink db slot.instructorId.uuid course.schoolId).isNone = true := by
    rw [← Option.not_isSome, hslot.linked]
    decide
  have hvehicle : assertLessonVehicleFits env slot.instructorId.uuid slot.vehicleId.uuid course db =
      (.ok (), db.refreshed p) := by
    refine Prog.query_bind_eq_ok.mpr ⟨(), ?_, Prog.query_bind_eq_ok.mpr
      ⟨(), hslot.vehicle_supports, hval⟩⟩
    rw [throwIf_eq_ok, Bool.not_eq_true, Option.isNone_eq_false_iff]
    exact hslot.vehicle_in_school
  have hlate : lessonEditBookingIssues env existing course slot (db.refreshed p) =
      (.ok [], db.refreshed p) := by
    refine Prog.bind_eq_ok.mpr ⟨[], _, issuesWhen_run fun hch => ?_, Prog.query_bind_eq_ok.mpr
      ⟨false, ?_, rfl⟩⟩
    · exact query_issues_run (hslot.window hch)
    · exact congrArg Except.ok hslot.vehicle_free
  refine ⟨db.refreshed p, Prog.bind_eq_ok.mpr ⟨[], db, issuesWhen_run fun hch => ?_, ?_⟩⟩
  · refine Prog.bind_eq_ok.mpr ⟨[], db, query_issues_run (hslot.bookable hch), ?_⟩
    rw [(scheduleDurationAllowed_iff hlt).mp (hslot.duration hch)]
    rfl
  · refine Prog.query_bind_eq_ok.mpr ⟨_, rfl, ?_⟩
    simp only [if_neg hlink]
    exact Prog.bind_eq_ok.mpr ⟨[], db, issuesWhen_run fun hch => query_issues_run
      (hslot.qualified hch), Prog.bind_eq_ok.mpr ⟨[], _, Prog.issues_run hvehicle,
        Prog.bind_eq_ok.mpr ⟨[], _, Prog.transaction_eq_ok.mpr hlate, rfl⟩⟩⟩

theorem checkLessonEdit_ok {actor : Actor} {body : LessonEditCheckBody}
    {answer : ScheduleAvailabilityAnswer}
    (h : checkLessonEditAvailability env actor body db = (.ok answer, db')) :
    ∃ existing course window, findLesson db body.lessonId = some existing ∧
      lessonCourse db existing = .ok course ∧
      assertActorCanBookLessonForCourse db actor course.schoolId = .ok () ∧
      assertLessonIsEditable env existing.status existing.endTime = .ok () ∧
      assertLessonHasNotStarted env existing.status existing.startTime = .ok () ∧
      body.parse env.zone = .ok window ∧
      (answer.available = true ↔ existing.slotChanged (body.slot window) = false ∨
        LessonEditRules env db existing course (body.slot window)) := by
  simp only [checkLessonEditAvailability, Prog.query_bind_eq_ok, Prog.lift_bind_eq_ok,
    orThrow_eq_ok, Except.ok.injEq] at h
  obtain ⟨existing, hfound, course, hcourse, _, hactor, _, heditable, _, hstarted, window, hparse,
    policy, rfl, h⟩ := h
  refine ⟨existing, course, window, hfound, hcourse, hactor, heditable, hstarted, hparse, ?_⟩
  have hflag : (!(existing.timeChanged (body.slot window)) &&
      !(existing.instructorChanged (body.slot window)) &&
      !(existing.vehicleChanged (body.slot window))) =
        !(existing.slotChanged (body.slot window)) := by
    simp only [Lesson.slotChanged, Bool.not_or, Bool.and_right_comm]
  rw [hflag] at h
  cases hch : existing.slotChanged (body.slot window) with
  | false =>
    simp only [hch, Bool.not_false, if_true, Prog.pure_eq_ok] at h
    rw [← h.1]
    simp
  | true =>
    simp only [hch, Bool.not_true, Bool.false_eq_true, if_false, Prog.bind_eq_ok,
      Prog.pure_eq_ok] at h
    obtain ⟨issues, _, hissues, rfl, _⟩ := h
    have hlt : (body.slot window).start < (body.slot window).stop := parse_start_before_end hparse
    rw [List.isEmpty_iff, lessonEditIssues_ok hlt hstarted hissues]
    simp

theorem checkLessonEdit_available_iff {actor : Actor} {body : LessonEditCheckBody} :
    AnswersAvailable (checkLessonEditAvailability env actor body) db ↔
      ∃ existing course window, findLesson db body.lessonId = some existing ∧
        lessonCourse db existing = .ok course ∧
        assertActorCanBookLessonForCourse db actor course.schoolId = .ok () ∧
        assertLessonIsEditable env existing.status existing.endTime = .ok () ∧
        assertLessonHasNotStarted env existing.status existing.startTime = .ok () ∧
        body.parse env.zone = .ok window ∧
        (existing.slotChanged (body.slot window) = false ∨
          LessonEditRules env db existing course (body.slot window)) := by
  refine ⟨?_, ?_⟩
  · intro h
    obtain ⟨answer, t, h, havailable⟩ := h
    obtain ⟨existing, course, window, hfound, hcourse, hactor, heditable, hstarted, hparse, hiff⟩ :=
      checkLessonEdit_ok h
    exact ⟨existing, course, window, hfound, hcourse, hactor, heditable, hstarted, hparse,
      hiff.mp havailable⟩
  · intro h
    obtain ⟨existing, course, window, hfound, hcourse, hactor, heditable, hstarted, hparse, hcase⟩ := h
    have hsucceeds : Prog.Succeeds (checkLessonEditAvailability env actor body) db := by
      simp only [checkLessonEditAvailability, Prog.succeeds_query_bind, Prog.succeeds_lift_bind,
        orThrow_eq_ok]
      refine ⟨existing, hfound, course, hcourse, (), hactor, (), heditable, (), hstarted, window,
        hparse, _, rfl, ?_⟩
      split
      · exact ⟨_, _, rfl⟩
      · next hdiff =>
        have hlt : (body.slot window).start < (body.slot window).stop :=
          parse_start_before_end hparse
        obtain ⟨t, hissues⟩ := lessonEditIssues_run hlt (hcase.resolve_left fun hsame => hdiff (by
          simp only [Lesson.slotChanged, Bool.or_eq_false_iff] at hsame
          simp [hsame.1.1, hsame.1.2, hsame.2]))
        exact ⟨_, t, Prog.bind_eq_ok.mpr ⟨[], t, hissues, rfl⟩⟩
    obtain ⟨answer, t, h⟩ := hsucceeds
    obtain ⟨existing', course', window', hfound', hcourse', _, _, _, hparse', hiff⟩ :=
      checkLessonEdit_ok h
    cases hfound.symm.trans hfound'
    cases hcourse.symm.trans hcourse'
    cases hparse.symm.trans hparse'
    exact ⟨answer, t, h, hiff.mpr hcase⟩

theorem updateLesson_succeeds_iff {actor : Actor} {body : LessonEditCheckBody}
    {existing : Lesson} {course : CourseForBooking} {window : ScheduleWindow}
    (hfound : findLesson db body.lessonId = some existing)
    (hcourse : lessonCourse db existing = .ok course)
    (hactor : assertActorCanBookLessonForCourse db actor course.schoolId = .ok ())
    (heditable : assertLessonIsEditable env existing.status existing.endTime = .ok ())
    (hstarted : assertLessonHasNotStarted env existing.status existing.startTime = .ok ())
    (hlt : window.start < window.stop) :
    Prog.Succeeds (updateLesson env actor body.lessonId (body.update window existing)) db ↔
      (existing.instructorChanged (body.slot window) = true → existing.lessonType = .practice) ∧
      ((existing.timeChanged (body.slot window) ||
        existing.instructorChanged (body.slot window)) = true → env.now < window.start) ∧
      (existing.slotChanged (body.slot window) = false ∨
        LessonEditRules env db existing course (body.slot window)) := by
  have hstatus := (lessonHasNotStarted_eq_ok.mp hstarted).1
  refine ⟨?_, ?_⟩
  · intro h
    obtain ⟨dto, t, hok⟩ := h
    obtain ⟨existing', course', v, hrules, hcase⟩ := (updateLesson_eq_ok ..).mp hok
    cases hfound.symm.trans hrules.found
    cases hcourse.symm.trans hrules.course_found
    have hv : v = body.vehicleId := by
      have hvehicle := hrules.vehicle
      simpa [LessonEditCheckBody.update, eq_comm] using hvehicle
    subst hv
    refine ⟨hrules.lesson_type, fun hch => ?_, ?_⟩
    · exact (lessonHasNotStarted_eq_ok.mp (hrules.not_started hch).2).2
    · rcases hcase with ⟨hch, _⟩ | ⟨hch, p, hslot, _⟩
      · exact Or.inl hch
      · obtain ⟨hallowed, hval⟩ := (lessonSlotAllowed_eq_ok ..).mp hslot
        rw [hch] at hval
        exact Or.inr ⟨hallowed, (), _, hval⟩
  · intro h
    obtain ⟨htype, hstart, hcase⟩ := h
    have hrules : UpdateLessonRules env actor body.lessonId (body.update window existing) db existing
        course body.vehicleId := by
      refine ⟨hfound, hcourse, hactor, heditable, rfl, htype, fun _ => rfl, ?_, fun hch => ?_⟩
      · rintro expected ⟨⟩
        simp [ExpectedLessonState.matches]
      · exact ⟨hstarted, lessonHasNotStarted_eq_ok.mpr ⟨hstatus, hstart hch⟩⟩
    cases hch : existing.slotChanged (body.slot window) with
    | false =>
      exact ⟨_, _, (updateLesson_eq_ok ..).mpr
        ⟨existing, course, body.vehicleId, hrules, Or.inl ⟨hch, rfl, rfl⟩⟩⟩
    | true =>
      obtain ⟨hallowed, _, t, hval⟩ := hcase.resolve_left (by simp [hch])
      obtain ⟨p, rfl⟩ := (validateVehicleForInstructor_keeps env _ _ _).run hval
      have hslot : assertLessonSlotAllowed env existing course (body.slot window) db =
          (.ok (), db.refreshed p) :=
        (lessonSlotAllowed_eq_ok ..).mpr ⟨hallowed, by rw [hch]; exact hval⟩
      exact ⟨_, _, (updateLesson_eq_ok ..).mpr ⟨existing, course, body.vehicleId, hrules,
        Or.inr ⟨hch, p, hslot, hlt, rfl, rfl⟩⟩⟩

/-- The check of an edit answers what the edit would say, unless the edit is refused by one of
the two rules of its own and by no other. -/
theorem lessonEdit_agrees_iff {actor : Actor} {body : LessonEditCheckBody}
    {answer : ScheduleAvailabilityAnswer}
    (h : checkLessonEditAvailability env actor body db = (.ok answer, db')) :
    ∃ existing course window, findLesson db body.lessonId = some existing ∧
      lessonCourse db existing = .ok course ∧ body.parse env.zone = .ok window ∧
      ((answer.available = true ↔ Prog.Succeeds
          (updateLesson env actor body.lessonId (body.update window existing)) db) ↔
        (EditOnlyRefusal env existing (body.slot window) →
          ¬LessonEditRules env db existing course (body.slot window))) := by
  obtain ⟨existing, course, window, hfound, hcourse, hactor, heditable, hstarted, hparse,
    havailable⟩ := checkLessonEdit_ok h
  refine ⟨existing, course, window, hfound, hcourse, hparse, ?_⟩
  have hlt := parse_start_before_end hparse
  rw [havailable, updateLesson_succeeds_iff hfound hcourse hactor heditable hstarted hlt]
  have hnow := (lessonHasNotStarted_eq_ok.mp hstarted).2
  refine ⟨?_, ?_⟩
  · rintro hagree hrefusal hrules
    obtain ⟨htype, hstart, _⟩ := hagree.mp (Or.inr hrules)
    rcases hrefusal with ⟨hch, hne⟩ | ⟨hch, heq⟩
    · exact hne (htype hch)
    · have hlater := hstart (by rw [hch, Bool.true_or])
      have heq' : window.start = env.now := heq
      exact absurd heq' (ne_of_gt hlater)
  · intro hcond
    refine ⟨fun hcase => ?_, fun hcase => hcase.2.2⟩
    rcases hcase with hsame | hrules
    · simp only [Lesson.slotChanged, Bool.or_eq_false_iff] at hsame
      simp [hsame.1.1, hsame.2, Lesson.slotChanged, hsame.1.2]
    · have hnone := fun hrefusal => hcond hrefusal hrules
      refine ⟨fun hch => ?_, fun hch => ?_, Or.inr hrules⟩
      · by_contra hne
        exact hnone (Or.inl ⟨hch, hne⟩)
      · by_cases htime : existing.timeChanged (body.slot window) = true
        · have hbookable := hrules.slot_rules.bookable htime
          simp only [assertLessonTimeIsBookable, except_bind_eq_ok, throwIf_eq_ok, not_lt] at hbookable
          obtain ⟨_, hge, _⟩ := hbookable
          exact lt_of_le_of_ne hge fun heq => hnone (Or.inr ⟨htime, heq.symm⟩)
        · have hsame : window.start = existing.startTime := by
            by_contra hne
            exact htime (decide_eq_true (Or.inl hne))
          rw [hsame]
          exact hnow

end

namespace SmallSchool

def withTuesdayLesson (lessonType : LessonType) : Db :=
  SmallSchool.db ⟨[tuesdayLesson lessonType], List.nodup_singleton _⟩

/-- The lesson at another hour of the day or with another instructor. -/
def editCheck (hour : ℤ) (instructorId : UuidText) : LessonEditCheckBody where
  date := 5
  startTime := hour * 60
  endTime := hour * 60 + 60
  lessonId := 70
  instructorId
  vehicleId := 40

end SmallSchool

open SmallSchool in
/-- A practice lesson can be moved to the afternoon, as its check says. -/
theorem lessonEdit_agrees_afternoon :
    Prog.Succeeds (updateLesson (envAt (clock 4 8 0)) manager 70 ((editCheck 14 20).update
      ⟨clock 5 14 0, clock 5 15 0⟩ (tuesdayLesson .practice))) (withTuesdayLesson .practice) := by
  obtain ⟨answer, t, h⟩ : Prog.Succeeds
      (checkLessonEditAvailability (envAt (clock 4 8 0)) manager (editCheck 14 20))
      (withTuesdayLesson .practice) := by decide
  have havailable : ((checkLessonEditAvailability (envAt (clock 4 8 0)) manager (editCheck 14 20)
      (withTuesdayLesson .practice)).1.toOption.any (·.available)) = true := by decide
  rw [h] at havailable
  obtain ⟨existing, course, window, hfound, hcourse, hparse, hiff⟩ := lessonEdit_agrees_iff h
  cases hfound
  cases hcourse
  cases hparse
  refine (hiff.mpr ?_).mp havailable
  intro hrefusal
  rcases hrefusal with ⟨hch, _⟩ | ⟨_, hnow⟩
  · exact absurd hch (by decide)
  · exact absurd hnow (by decide)

open SmallSchool in
/-- The check promises another instructor for a theory lesson, and a start at the present
instant; the edit refuses both. -/
theorem lessonEdit_promises_refused :
    (((checkLessonEditAvailability (envAt (clock 4 8 0)) manager (editCheck 10 21)
        (withTuesdayLesson .theory)).1.toOption.map (·.available)) = some true ∧
      ¬Prog.Succeeds (updateLesson (envAt (clock 4 8 0)) manager 70 ((editCheck 10 21).update
        ⟨clock 5 10 0, clock 5 11 0⟩ (tuesdayLesson .theory))) (withTuesdayLesson .theory)) ∧
    ((checkLessonEditAvailability (envAt (clock 5 9 0)) manager (editCheck 9 20)
        (withTuesdayLesson .practice)).1.toOption.map (·.available)) = some true ∧
      ¬Prog.Succeeds (updateLesson (envAt (clock 5 9 0)) manager 70 ((editCheck 9 20).update
        ⟨clock 5 9 0, clock 5 10 0⟩ (tuesdayLesson .practice))) (withTuesdayLesson .practice) := by
  decide

end OSK
