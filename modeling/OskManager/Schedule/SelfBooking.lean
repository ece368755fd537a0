import OskManager.Sample.SmallSchool
import OskManager.Schedule.CheckRules
import OskManager.Schedule.PackageHours
import OskManager.Schedule.VehicleChoice

/-! The student's own bookings. The check a student makes before booking answers that a slot is
available exactly when the booking succeeds, and the shorter slot it may offer instead can be
booked and uses the package up. -/

namespace OSK

open Relational

variable {env : Env} {db db' : Db}

/-! ### The booking -/

/-- The booking that a check of the window announces. -/
def LessonSelfBookCheckBody.booking (body : LessonSelfBookCheckBody) (start stop : Instant)
    (bookingMode : Option BookingMode) : BookOwnLessonBody where
  courseId := body.courseId
  instructorId := body.instructorId
  startTime := start
  endTime := stop
  bookingMode

def chooseVehicle (env : Env) (instructorId : Uuid) (course : CourseForBooking)
    (start stop : Instant) : Service Uuid :=
  findAvailableVehicleIdForStudentBooking env instructorId course.schoolId start stop
    course.courseTypeId

/-- A booking by the student succeeds when the rules of its duration and its window pass and a
vehicle is found. -/
theorem bookOwnLesson_succeeds {actor : Actor} {body : BookOwnLessonBody}
    {course : CourseForBooking} {student : Uuid}
    (hrules : BookOwnLessonRules env actor body db course student) :
    Prog.Succeeds (bookOwnLesson env actor body) db ↔
      assertBookingDurationAllowed db course (body.input course student) = .ok () ∧
      assertLessonSchedulingWindowAvailable env.zone db
        (course.window student body.instructorId body.startTime body.endTime) = .ok () ∧
      Prog.Succeeds (chooseVehicle env body.instructorId course body.startTime body.endTime) db := by
  have hcourse := loadCourseForBooking_self hrules.course_loaded
  have hkeep (c : CourseForBooking) : Prog.Keeps Refreshed
      (chooseVehicle env body.instructorId c body.startTime body.endTime) :=
    findAvailableVehicle_keeps env _ _ _ _ _
  refine Iff.trans ?_ (createPracticeLesson_succeeds hkeep hcourse)
  refine ⟨?_, ?_⟩
  · intro h
    obtain ⟨dto, t, hok⟩ := h
    obtain ⟨course', student', hrules', hok⟩ := (bookOwnLesson_eq_ok ..).mp hok
    have hc := hrules.course_loaded.symm.trans hrules'.course_loaded
    have hs := hrules.student_loaded.symm.trans hrules'.student_loaded
    cases hc
    cases hs
    exact ⟨dto, t, hok⟩
  · intro h
    obtain ⟨dto, t, hok⟩ := h
    exact ⟨dto, t, (bookOwnLesson_eq_ok ..).mpr ⟨course, student, hrules, hok⟩⟩

/-! ### The check -/

theorem shortAlternative_schoolRefreshed (body : LessonSelfBookCheckBody)
    (course : CourseForBooking) (student : Uuid) (start : Instant) (remainingMinutes : ℤ) :
    Prog.Keeps (SchoolRefreshed env course.schoolId)
      (shortAlternative env body course student start remainingMinutes) := by
  have htrans := SchoolRefreshed.trans env course.schoolId
  have hrefl := SchoolRefreshed.refl env course.schoolId
  apply Prog.Keeps.handle
  apply Prog.Keeps.bind htrans (Prog.Keeps.query hrefl _)
  intro _
  apply Prog.Keeps.bind htrans (Prog.Keeps.query hrefl _)
  intro _
  exact Prog.Keeps.bind htrans (findAvailableVehicle_schoolRefreshed env _ _ _ _ _) fun _ =>
    Prog.Keeps.pure hrefl _

/-- An alternative has passed the three rules of the booking it stands for. -/
theorem shortAlternative_ok {body : LessonSelfBookCheckBody} {course : CourseForBooking}
    {student : Uuid} {start : Instant} {remaining : ℤ} {alternative : ScheduleAlternative}
    (h : shortAlternative env body course student start remaining db =
      (.ok (some alternative), db')) :
    alternative.durationMinutes = remaining ∧
    assertStudentSelfBookingDurationAllowed db (course.duration student start
      (start + remaining * msPerMinute) (some .remainingPackage)) = .ok () ∧
    assertLessonSchedulingWindowAvailable env.zone db (course.window student body.instructorId
      start (start + remaining * msPerMinute)) = .ok () ∧
    Prog.Succeeds (chooseVehicle env body.instructorId course start
      (start + remaining * msPerMinute)) db := by
  rcases Prog.handle_eq_ok.mp h with ⟨a, hok, ha⟩ | ⟨e, _, he⟩
  · cases ha
    simp only [Prog.query_bind_eq_ok] at hok
    obtain ⟨_, hd, _, hw, hok⟩ := hok
    simp only [Prog.bind_eq_ok, Prog.pure_eq_ok] at hok
    obtain ⟨v, t, hv, rfl, _⟩ := hok
    exact ⟨rfl, hd, hw, v, t, hv⟩
  · split at he <;> cases he

/-- What the part of the check that depends on the package has found. -/
structure SelfBookFound (env : Env) (body : LessonSelfBookCheckBody) (db db' : Db)
    (course : CourseForBooking) (student : Uuid) (window : ScheduleWindow)
    (earlier : List ScheduleAvailabilityIssue) (found : SelfBookFindings) : Prop where
  store : SchoolRefreshed env course.schoolId db db'
  issues_nil : found.issues = [] ↔
    (body.bookingMode.isSome = true → assertStudentSelfBookingDurationAllowed db
      (course.duration student window.start window.stop body.bookingMode) = .ok ()) ∧
    assertLessonSchedulingWindowAvailable env.zone db
      (course.window student body.instructorId window.start window.stop) = .ok ()
  bookable : ∀ alternative, found.alternative = some alternative →
    ∀ issue ∈ earlier, issue.code ≠ .dateNotBookable
  alternative : ∀ alternative, found.alternative = some alternative →
    alternative.durationMinutes = (getCoursePracticePackageBalance db course.id student
      course.totalHours).remainingMinutes ∧ 0 < alternative.durationMinutes ∧
    assertStudentSelfBookingDurationAllowed db (course.duration student window.start
      (window.start + alternative.durationMinutes * msPerMinute) (some .remainingPackage)) =
        .ok () ∧
    assertLessonSchedulingWindowAvailable env.zone db (course.window student body.instructorId
      window.start (window.start + alternative.durationMinutes * msPerMinute)) = .ok () ∧
    Prog.Succeeds (chooseVehicle env body.instructorId course window.start
      (window.start + alternative.durationMinutes * msPerMinute)) db

theorem selfBookFindings_ok {body : LessonSelfBookCheckBody} {course : CourseForBooking}
    {student : Uuid} {window : ScheduleWindow} {policy : ScheduleDurationPolicy}
    {earlier : List ScheduleAvailabilityIssue} {found : SelfBookFindings}
    (h : selfBookFindings env body course student window policy earlier db = (.ok found, db')) :
    SelfBookFound env body db db' course student window earlier found := by
  simp only [selfBookFindings, Prog.query_bind_eq_ok, Except.ok.injEq] at h
  obtain ⟨remaining, rfl, h⟩ := h
  simp only [Prog.bind_eq_ok] at h
  obtain ⟨modeIssues, s1, hmode, scheduleIssues, s2, hschedule, h⟩ := h
  have hmode' : s1 = db ∧ (modeIssues = [] ↔ (body.bookingMode.isSome = true →
      assertStudentSelfBookingDurationAllowed db
        (course.duration student window.start window.stop body.bookingMode) = .ok ())) := by
    rcases issuesWhen_ok hmode with ⟨hsome, hl⟩ | ⟨hnone, rfl, rfl⟩
    · obtain ⟨hs, hnil⟩ := query_issues hl
      exact ⟨hs, by simp [hnil, hsome]⟩
    · exact ⟨rfl, by simp [hnone]⟩
  obtain ⟨rfl, hmodeNil⟩ := hmode'
  obtain ⟨rfl, hscheduleNil⟩ := lessonScheduleIssues_ok hschedule
  have hissues : modeIssues ++ scheduleIssues = [] ↔ _ :=
    List.append_eq_nil_iff.trans (and_congr hmodeNil hscheduleNil)
  split at h
  · next hcond =>
    obtain ⟨_, hall, hpos, _, _⟩ := hcond
    simp only [Prog.bind_eq_ok, Prog.pure_eq_ok] at h
    obtain ⟨alternative, s3, halt, rfl, rfl⟩ := h
    refine ⟨(shortAlternative_schoolRefreshed body course student _ _).run halt, hissues, ?_, ?_⟩
    · intro _ _ issue hissue
      rw [List.all_eq_true] at hall
      exact of_decide_eq_true (hall issue (List.mem_append_left _ hissue))
    · rintro a rfl
      obtain ⟨hminutes, hd, hw, hv⟩ := shortAlternative_ok halt
      rw [hminutes]
      exact ⟨rfl, hpos, hd, hw, hv⟩
  · rw [Prog.pure_eq_ok] at h
    obtain ⟨rfl, rfl⟩ := h
    refine ⟨SchoolRefreshed.refl env _ _, hissues, fun _ ha => ?_, fun _ ha => ?_⟩ <;> cases ha

/-- Who may book: the rules of the check that do not look at the calendar. -/
structure SelfBookEligible (env : Env) (body : LessonSelfBookCheckBody) (db : Db)
    (course : CourseForBooking) (student : Uuid) (start : Instant) : Prop where
  time : assertLessonTimeIsBookable env db start course.schoolId = .ok ()
  participates : assertStudentParticipatesInCourse db course.id student true = .ok ()
  instructor : assertInstructorCanBookCourse db body.instructorId course = .ok ()

/-- What an answer of the check says about a course that students may book. -/
structure SelfBookAnswered (env : Env) (body : LessonSelfBookCheckBody) (db : Db)
    (course : CourseForBooking) (student : Uuid) (window : ScheduleWindow)
    (answer : ScheduleAvailabilityAnswer) : Prop where
  available : answer.available = true ↔
    SelfBookEligible env body db course student window.start ∧
    (body.bookingMode = none → durationIssues (window.stop - window.start)
      (resolveScheduleDurationPolicy db course.schoolId .practice) = []) ∧
    (body.bookingMode.isSome = true → assertStudentSelfBookingDurationAllowed db
      (course.duration student window.start window.stop body.bookingMode) = .ok ()) ∧
    assertLessonSchedulingWindowAvailable env.zone db
      (course.window student body.instructorId window.start window.stop) = .ok () ∧
    Prog.Succeeds (chooseVehicle env body.instructorId course window.start window.stop) db
  alternative : ∀ alternative, answer.alternative = some alternative →
    SelfBookEligible env body db course student window.start ∧
    alternative.durationMinutes = (getCoursePracticePackageBalance db course.id student
      course.totalHours).remainingMinutes ∧ 0 < alternative.durationMinutes ∧
    assertStudentSelfBookingDurationAllowed db (course.duration student window.start
      (window.start + alternative.durationMinutes * msPerMinute) (some .remainingPackage)) =
        .ok () ∧
    assertLessonSchedulingWindowAvailable env.zone db (course.window student body.instructorId
      window.start (window.start + alternative.durationMinutes * msPerMinute)) = .ok () ∧
    Prog.Succeeds (chooseVehicle env body.instructorId course window.start
      (window.start + alternative.durationMinutes * msPerMinute)) db

theorem chooseVehicle_issues {course : CourseForBooking} {instructorId : Uuid}
    {window : ScheduleWindow} {s t : Db} {l : List ScheduleAvailabilityIssue}
    {h : Failure → Except Failure ScheduleAvailabilityIssue}
    (hstore : SchoolRefreshed env course.schoolId db s)
    (hl : Prog.issues (do
        let _ ← findAvailableVehicleIdForStudentBooking env instructorId course.schoolId
          window.start window.stop course.courseTypeId
        return ()) h s = (.ok l, t)) :
    l = [] ↔ Prog.Succeeds (chooseVehicle env instructorId course window.start window.stop) db := by
  rw [Prog.issues_nil_iff_succeeds hl, chooseVehicle, ← findAvailableVehicle_succeeds_iff env hstore]
  exact Prog.succeeds_map

theorem checkLessonSelfBook_ok {actor : Actor} {body : LessonSelfBookCheckBody}
    {answer : ScheduleAvailabilityAnswer}
    (h : checkLessonSelfBookAvailability env actor body db = (.ok answer, db')) :
    actor.role = .student ∧ ∃ course window, loadCourseForBooking db body.courseId = .ok course ∧
      body.parse env.zone = .ok window ∧
      ((assertCourseCanBeSelfBooked course ≠ .ok () ∧ answer.available = false ∧
          answer.alternative = none) ∨
        (assertCourseCanBeSelfBooked course = .ok () ∧ ∃ student,
          loadStudentProfileIdForUser db actor.id = .ok student ∧
          SelfBookAnswered env body db course student window answer)) := by
  simp only [checkLessonSelfBookAvailability, Prog.query_bind_eq_ok, Prog.lift_bind_eq_ok,
    throwIf_eq_ok, not_not, Except.ok.injEq] at h
  obtain ⟨_, hrole, course, hcourse, window, hparse, policy, rfl, h⟩ := h
  refine ⟨hrole, course, window, hcourse, hparse, ?_⟩
  rw [Prog.bind_eq_ok] at h
  obtain ⟨courseIssues, s1, hcourseIssues, h⟩ := h
  obtain ⟨rfl, hcourseNil⟩ := query_issues hcourseIssues
  split at h
  · next hne =>
    rw [Prog.pure_eq_ok] at h
    obtain ⟨rfl, _⟩ := h
    exact Or.inl ⟨fun hself => hne (hcourseNil.mpr hself), rfl, rfl⟩
  next hnil =>
  rw [not_not] at hnil
  rw [Prog.bind_eq_ok] at h
  obtain ⟨dateIssues, s2, hdate, h⟩ := h
  obtain ⟨rfl, hdateNil, hdateCode⟩ := lessonDateIssues_ok hdate
  rw [Prog.query_bind_eq_ok] at h
  obtain ⟨student, hstudent, h⟩ := h
  rw [Prog.bind_eq_ok] at h
  obtain ⟨studentIssues, s3, hstudentIssues, h⟩ := h
  obtain ⟨rfl, hstudentNil⟩ := query_issues hstudentIssues
  rw [Prog.bind_eq_ok] at h
  obtain ⟨instructorIssues, s4, hinstructorIssues, h⟩ := h
  obtain ⟨rfl, hinstructorNil⟩ := lessonInstructorIssues_ok hinstructorIssues
  refine Or.inr ⟨hcourseNil.mp hnil, student, hstudent, ?_⟩
  by_cases heligible : studentIssues = [] ∧ instructorIssues = []
  · simp only [if_pos heligible, Prog.bind_eq_ok, Prog.transaction_eq_ok, Prog.pure_eq_ok] at h
    obtain ⟨_, s5, ⟨found, s6, hfound, vehicleIssues, s7, hvehicleIssues, rfl, rfl⟩, rfl, rfl⟩ := h
    have hfound := selfBookFindings_ok hfound
    have hvehicleNil := chooseVehicle_issues hfound.store hvehicleIssues
    refine ⟨?_, ?_⟩
    · simp only [List.isEmpty_iff, List.append_eq_nil_iff, hfound.issues_nil, hvehicleNil,
        hdateNil, hstudentNil, hinstructorNil]
      refine ⟨?_, ?_⟩
      · intro h
        obtain ⟨⟨⟨⟨hd, ht⟩, hp⟩, hi⟩, ⟨hm, hw⟩, hv⟩ := h
        exact ⟨⟨ht, hp, hi⟩, fun hmode => by rwa [if_pos hmode] at hd, hm, hw, hv⟩
      · intro h
        obtain ⟨⟨ht, hp, hi⟩, hd, hm, hw, hv⟩ := h
        refine ⟨⟨⟨⟨?_, ht⟩, hp⟩, hi⟩, ⟨hm, hw⟩, hv⟩
        split
        · next hmode => exact hd hmode
        · rfl
    · intro alternative halt
      have hbookable := hfound.bookable alternative halt
      have hdateEmpty : dateIssues = [] := by
        rw [List.eq_nil_iff_forall_not_mem]
        intro issue hissue
        refine hbookable issue ?_ (hdateCode issue hissue)
        simp [hissue]
      exact ⟨⟨hdateNil.mp hdateEmpty, hstudentNil.mp heligible.1, hinstructorNil.mp heligible.2⟩,
        hfound.alternative alternative halt⟩
  · simp only [if_neg heligible, Prog.bind_eq_ok, Prog.transaction_eq_ok, Prog.pure_eq_ok] at h
    obtain ⟨_, s5, ⟨found, s6, ⟨rfl, rfl⟩, vehicleIssues, s7, _, rfl, rfl⟩, rfl, rfl⟩ := h
    refine ⟨?_, ?_⟩
    · refine iff_of_false (fun hempty => heligible ?_) fun hall => heligible ?_
      · simp only [List.isEmpty_iff, List.append_eq_nil_iff] at hempty
        exact ⟨hempty.1.1.2, hempty.1.2⟩
      · exact ⟨hstudentNil.mpr hall.1.participates, hinstructorNil.mpr hall.1.instructor⟩
    · intro alternative halt
      cases halt

/-! ### The check and the booking -/

theorem selfBookEligible_rules {actor : Actor} {body : LessonSelfBookCheckBody}
    {course : CourseForBooking} {student : Uuid} {start stop : Instant}
    {bookingMode : Option BookingMode} (hrole : actor.role = .student)
    (hcourse : loadCourseForBooking db body.courseId = .ok course)
    (hself : assertCourseCanBeSelfBooked course = .ok ())
    (hstudent : loadStudentProfileIdForUser db actor.id = .ok student)
    (h : SelfBookEligible env body db course student start) :
    BookOwnLessonRules env actor (body.booking start stop bookingMode) db course student where
  actor_student := hrole
  course_loaded := hcourse
  self_booked := hself
  time := h.time
  student_loaded := hstudent
  participates := h.participates
  instructor := h.instructor

/-- Whenever the check answers, its answer is what the booking would say. -/
theorem selfBook_available_iff_books {actor : Actor} {body : LessonSelfBookCheckBody}
    {answer : ScheduleAvailabilityAnswer}
    (h : checkLessonSelfBookAvailability env actor body db = (.ok answer, db')) :
    ∃ window, body.parse env.zone = .ok window ∧
      (answer.available = true ↔ Prog.Succeeds (bookOwnLesson env actor
        (body.booking window.start window.stop body.bookingMode)) db) := by
  obtain ⟨hrole, course, window, hcourse, hparse, hcase⟩ := checkLessonSelfBook_ok h
  refine ⟨window, hparse, ?_⟩
  have hlt := parse_start_before_end hparse
  rcases hcase with ⟨hself, havailable, _⟩ | ⟨hself, student, hstudent, hanswer⟩
  · rw [havailable]
    apply iff_of_false (by simp)
    intro h
    obtain ⟨dto, t, hok⟩ := h
    obtain ⟨course', _, hrules, _⟩ := (bookOwnLesson_eq_ok ..).mp hok
    cases hcourse.symm.trans hrules.course_loaded
    exact hself hrules.self_booked
  rw [hanswer.available]
  refine ⟨?_, ?_⟩
  · intro h
    obtain ⟨heligible, hduration, hmode, hwindow, hvehicle⟩ := h
    refine (bookOwnLesson_succeeds
      (selfBookEligible_rules hrole hcourse hself hstudent heligible)).mpr ⟨?_, hwindow, hvehicle⟩
    cases hm : body.bookingMode with
    | none => exact (bookingDuration_without_mode rfl hlt).mpr (hduration hm)
    | some mode =>
      rw [bookingDuration_with_mode rfl, ← hm]
      exact hmode (by rw [hm]; rfl)
  · intro h
    obtain ⟨dto, t, hok⟩ := h
    obtain ⟨course', student', hrules, _⟩ := (bookOwnLesson_eq_ok ..).mp hok
    cases hcourse.symm.trans hrules.course_loaded
    cases hstudent.symm.trans hrules.student_loaded
    obtain ⟨hduration, hwindow, hvehicle⟩ := (bookOwnLesson_succeeds hrules).mp ⟨dto, t, hok⟩
    refine ⟨⟨hrules.time, hrules.participates, hrules.instructor⟩, fun hm => ?_, fun hm => ?_,
      hwindow, hvehicle⟩
    · exact (bookingDuration_without_mode hm hlt).mp hduration
    · rwa [bookingDuration_with_mode hm] at hduration

namespace SmallSchool

def tuesdayCheck : LessonSelfBookCheckBody where
  date := 5
  startTime := 600
  endTime := 660
  courseId := 50
  instructorId := 20

/-- A lesson that has left 45 minutes of the package. -/
def longLesson : Lesson where
  id := 70
  courseId := 50
  studentId := 30
  instructorId := 21
  vehicleId := some 41
  startTime := clock 1 0 0
  endTime := clock 2 5 15
  status := .completed

end SmallSchool

open SmallSchool in
theorem selfBook_available_iff_books_tuesday :
    Prog.Succeeds (bookOwnLesson (envAt (clock 4 8 0)) student
      (tuesdayCheck.booking (clock 5 10 0) (clock 5 11 0) none)) SmallSchool.db := by
  obtain ⟨answer, t, h⟩ : Prog.Succeeds
      (checkLessonSelfBookAvailability (envAt (clock 4 8 0)) student tuesdayCheck) SmallSchool.db := by
    decide
  have havailable : ((checkLessonSelfBookAvailability (envAt (clock 4 8 0)) student tuesdayCheck
      SmallSchool.db).1.toOption.any (·.available)) = true := by decide
  rw [h] at havailable
  obtain ⟨window, hparse, hiff⟩ := selfBook_available_iff_books h
  cases hparse
  exact hiff.mp havailable

theorem roundedMinutes_add (start : Instant) (minutes : ℤ) :
    roundedMinutes start (start + minutes * msPerMinute) = minutes := by
  have hsub : start + minutes * msPerMinute - start = minutes * msPerMinute :=
    add_sub_cancel_left start _
  rw [roundedMinutes, hsub, msPerMinute]
  omega

theorem bookOwnLesson_minutes {actor : Actor} {body : BookOwnLessonBody} {dto : LessonDto}
    {course : CourseForBooking} {student : Uuid}
    (hok : bookOwnLesson env actor body db = (.ok dto, db'))
    (hcourse : loadCourseForBooking db body.courseId = .ok course)
    (hstudent : loadStudentProfileIdForUser db actor.id = .ok student) :
    packageMinutes db' course.id student =
      packageMinutes db course.id student + roundedMinutes body.startTime body.endTime := by
  obtain ⟨course', student', hrules, hcreate⟩ := (bookOwnLesson_eq_ok ..).mp hok
  cases hcourse.symm.trans hrules.course_loaded
  cases hstudent.symm.trans hrules.student_loaded
  have hloaded := loadCourseForBooking_self hcourse
  obtain ⟨_, _, v, p, _, hlt, rfl, _⟩ := (createPracticeLesson_eq_ok
    (fun c => findAvailableVehicle_keeps env _ _ _ _ _) hloaded _ _).mp hcreate
  refine (packageMinutes_insertLesson ((body.input course student).newLesson course v) hlt
    course.id student).trans ?_
  rw [if_pos ⟨rfl, rfl⟩]
  rfl

/-- The shorter slot that the check offers can be booked, and then nothing of the package is
left. -/
theorem selfBook_alternative_books {actor : Actor} {body : LessonSelfBookCheckBody}
    {answer : ScheduleAvailabilityAnswer} {alternative : ScheduleAlternative}
    (h : checkLessonSelfBookAvailability env actor body db = (.ok answer, db'))
    (halt : answer.alternative = some alternative) :
    ∃ window course student dto booked, body.parse env.zone = .ok window ∧
      loadCourseForBooking db body.courseId = .ok course ∧
      loadStudentProfileIdForUser db actor.id = .ok student ∧
      bookOwnLesson env actor (body.booking window.start
        (window.start + alternative.durationMinutes * msPerMinute) (some .remainingPackage)) db =
          (.ok dto, booked) ∧
      (getCoursePracticePackageBalance booked course.id student
        course.totalHours).remainingMinutes = 0 := by
  obtain ⟨hrole, course, window, hcourse, hparse, hcase⟩ := checkLessonSelfBook_ok h
  rcases hcase with ⟨_, _, hnone⟩ | ⟨hself, student, hstudent, hanswer⟩
  · rw [hnone] at halt
    cases halt
  obtain ⟨heligible, hremaining, hpos, hduration, hwindow, hvehicle⟩ :=
    hanswer.alternative alternative halt
  have hrules : BookOwnLessonRules env actor (body.booking window.start
      (window.start + alternative.durationMinutes * msPerMinute) (some .remainingPackage)) db course
      student := selfBookEligible_rules hrole hcourse hself hstudent heligible
  obtain ⟨dto, booked, hok⟩ := (bookOwnLesson_succeeds hrules).mpr ⟨hduration, hwindow, hvehicle⟩
  refine ⟨window, course, student, dto, booked, hparse, hcourse, hstudent, hok, ?_⟩
  have hminutes : packageMinutes booked course.id student =
      packageMinutes db course.id student + alternative.durationMinutes := by
    rw [bookOwnLesson_minutes hok hcourse hstudent]
    exact congrArg _ (roundedMinutes_add window.start alternative.durationMinutes)
  have hbalance (d : Db) : (getCoursePracticePackageBalance d course.id student
      course.totalHours).remainingMinutes =
        max 0 (course.totalHours * 60 - packageMinutes d course.id student) := by
    rw [← bookedMinutes_eq_packageMinutes d course.id student course.totalHours]
    rfl
  rw [hbalance] at hremaining ⊢
  omega

open SmallSchool in
/-- An hour is too long for the rest of the package; the three quarters offered are not. -/
theorem selfBook_alternative_books_rest :
    ∃ dto booked, bookOwnLesson (envAt (clock 4 8 0)) student
        (tuesdayCheck.booking (clock 5 10 0) (clock 5 10 45) (some .remainingPackage))
        (SmallSchool.db ⟨[longLesson], by decide⟩) = (.ok dto, booked) ∧
      (getCoursePracticePackageBalance booked 50 30 30).remainingMinutes = 0 := by
  obtain ⟨answer, t, h⟩ : Prog.Succeeds
      (checkLessonSelfBookAvailability (envAt (clock 4 8 0)) student tuesdayCheck)
      (SmallSchool.db ⟨[longLesson], by decide⟩) := by decide
  have halt : ((checkLessonSelfBookAvailability (envAt (clock 4 8 0)) student tuesdayCheck
      (SmallSchool.db ⟨[longLesson], by decide⟩)).1.toOption.bind (·.alternative)) =
        some ⟨600, 645, 45⟩ := by decide
  rw [h] at halt
  obtain ⟨window, course, id, dto, booked, hparse, hcourse, hid, hok, hrest⟩ :=
    selfBook_alternative_books h halt
  cases hparse
  cases hcourse
  cases hid
  exact ⟨dto, booked, hok, hrest⟩

end OSK
