import OskManager.Lib.Timeline
import OskManager.Sample.SmallSchool
import OskManager.Schedule.InstructorWrites
import OskManager.Schedule.VehicleCategories

/-! Qualifications. The instructor of a pending lesson and the instructor of an active course are
qualified for the category of the course. Whoever assigns an instructor asks for the qualification,
and neither an instructor nor a course loses one that is needed. -/

namespace OSK

open Relational

/-- The course is there, and the instructor is qualified for its category. -/
def QualifiedForCourse (db : Db) (instructorId courseId : Uuid) : Prop :=
  ∃ c, db.courses.findUnique courseId = some c ∧ QualifiedFor db instructorId c.courseTypeId

structure QualificationsHold (now : Instant) (db : Db) : Prop where
  lessons : ∀ l ∈ db.lessons.rows, l.isPending now = true →
    QualifiedForCourse db l.instructorId l.courseId
  courses : ∀ c ∈ db.courses.rows, c.deletedAt = none → c.status = "active" →
    ∀ instructorId, c.instructorId = some instructorId →
      QualifiedFor db instructorId c.courseTypeId

/-- No lesson is in a deleted course. The trigger `guard_course_lesson_reference` refuses to store
one, and `deleteEmptyCourseForOwner` refuses to delete the course of one. -/
def LessonCoursesLive (db : Db) : Prop :=
  ∀ l ∈ db.lessons.rows, ∀ c, db.courses.findUnique l.courseId = some c → c.deletedAt = none

/-- What the runs below keep. -/
structure QualificationsKept (now : Instant) (db : Db) : Prop extends
    QualificationsHold now db where
  live : LessonCoursesLive db

theorem qualificationsKept_lasting : Timeline.Lasting QualificationsKept := fun _ _ _ hle h => {
  lessons := fun l hl hpending => h.lessons l hl (Lesson.isPending_mono hle hpending)
  courses := h.courses
  live := h.live }

/-! ### Each write -/

section Writes

variable {env : Env} {now : Instant} {db db' : Db}

theorem QualificationsKept.refreshed (h : QualificationsKept now db) (p : Vehicle → Bool) :
    QualificationsKept now (db.refreshed p) := ⟨⟨h.lessons, h.courses⟩, h.live⟩

theorem QualificationsKept.withLessons (h : QualificationsKept now db) {t : Table Lesson.id}
    (hlessons : ∀ l ∈ t.rows, l ∈ db.lessons.rows ∨ ∃ c,
      db.courses.findUnique l.courseId = some c ∧ c.deletedAt = none ∧
        QualifiedFor db l.instructorId c.courseTypeId) :
    QualificationsKept now { db with lessons := t } := by
  refine ⟨⟨fun l hl hpending => ?_, h.courses⟩, fun l hl c hc => ?_⟩
  · rcases hlessons l hl with hold | ⟨c, hc, _, hqualified⟩
    · exact h.lessons l hold hpending
    · exact ⟨c, hc, hqualified⟩
  · rcases hlessons l hl with hold | ⟨c', hc', hlive, _⟩
    · exact h.live l hold c hc
    · cases hc.symm.trans hc'
      exact hlive

theorem LessonMoved.qualified {existing : Lesson} {course : Course} {slot : LessonSlot}
    (found : LessonMoved env db existing course slot) (h : QualificationsKept env.now db) :
    QualifiedFor db slot.instructorId.uuid course.courseTypeId := by
  by_cases hch : existing.instructorChanged slot = true
  · exact (found.instructor hch).1
  · -- an instructor who stays was qualified before, as the lesson is still pending
    have hsame : slot.instructorId = .ofUuid existing.instructorId := by
      simpa [Lesson.instructorChanged] using hch
    obtain ⟨c, hc, hqualified⟩ := h.lessons existing found.mem found.pending
    cases hc.symm.trans found.course_found
    rwa [hsame, UuidText.uuid_ofUuid]

theorem LessonWritten.qualificationsKept (hwrite : LessonWritten env db db')
    (h : QualificationsKept env.now db) : QualificationsKept env.now db' := by
  cases hwrite with
  | refreshed p => exact h.refreshed p
  | booked p data hlt course found =>
    refine (h.refreshed p).withLessons fun l hl => ?_
    rcases (mem_insertLesson hlt).mp hl with hold | rfl
    · exact Or.inl hold
    · refine Or.inr ⟨course, ?_, found.course_live, found.instructor.1⟩
      exact found.course_found
  | moved p existing course slot hlt found =>
    refine (h.refreshed p).withLessons fun l hl => ?_
    rcases found.mem_cases hl with ⟨hold, _⟩ | rfl
    · exact Or.inl hold
    · have hlive := h.live existing found.mem course found.course_found
      exact Or.inr ⟨course, found.course_found, hlive, found.qualified h⟩

theorem insertCourse_qualificationsKept {userId : Uuid} {body : CreateCourseBody}
    {courseType : CourseType} (hrules : CreateCourseRules userId body db courseType)
    (h : QualificationsKept now db) :
    QualificationsKept now (db.insertCourse env body courseType) := by
  refine ⟨⟨fun l hl hpending => ?_, fun c hc hlive hactive i hi => ?_⟩, fun l hl c hc => ?_⟩
  · obtain ⟨c, hc, hqualified⟩ := h.lessons l hl hpending
    exact ⟨c, findUnique_insertCourse_of_some hc, hqualified⟩
  · rcases mem_insertCourse.mp hc with hold | rfl
    · exact h.courses c hold hlive hactive i hi
    · exact (assertInstructorQualified_ok (hrules.qualified i hi)).1
  · rw [findUnique_insertCourse] at hc
    split at hc
    · cases hc
      rfl
    · exact h.live l hl c hc

theorem patchCourse_qualificationsKept {courseId courseTypeId : Uuid} {body : PatchCourseBody}
    {row : Course} (hrules : PatchCourseRules userId body courseId db row courseTypeId)
    (h : QualificationsKept now db) :
    QualificationsKept now (db.patchCourse courseId body courseTypeId) := by
  have hrow := Table.mem_of_findUnique hrules.found
  refine ⟨⟨fun l hl hpending => ?_, fun c hc hlive hactive i hi => ?_⟩, fun l hl c hc => ?_⟩
  · obtain ⟨c, hc, hqualified⟩ := h.lessons l hl hpending
    rw [QualifiedForCourse, findUnique_patchCourse, hc]
    by_cases hk : l.courseId = courseId
    · rw [hk, hrules.found] at hc
      cases hc
      refine ⟨row.patched body courseTypeId, if_pos hk, ?_⟩
      rw [hrules.courseTypeId_patched]
      rcases hrules.courseType_kept with hkept | hnone
      · rw [hkept]
        exact hqualified
      · have hdeleted := (of_decide_eq_true hpending).1
        exact absurd hk (no_lesson_of_no_activity hnone hl hdeleted)
    · exact ⟨c, if_neg hk, hqualified⟩
  · rcases hrules.mem_cases hc with ⟨hold, _⟩ | rfl
    · exact h.courses c hold hlive hactive i hi
    · rw [hrules.courseTypeId_patched]
      rcases hrules.instructor_patched hi with hchecked | ⟨hsame, htype⟩
      · exact (assertInstructorQualified_ok hchecked).1
      · rw [htype]
        exact h.courses row hrow hlive hactive i hsame
  · rw [findUnique_patchCourse] at hc
    split at hc
    · obtain ⟨c', hc', rfl⟩ := Option.map_eq_some_iff.mp hc
      exact h.live l hl c' hc'
    · exact h.live l hl c hc

theorem deleteCourse_qualificationsKept {t : Instant} {courseId : Uuid}
    (hempty : ∀ l ∈ db.lessons.rows, l.courseId ≠ courseId) (h : QualificationsKept now db) :
    QualificationsKept now (db.deleteCourse t courseId) := by
  refine ⟨⟨fun l hl hpending => ?_, fun c hc hlive hactive i hi => ?_⟩, fun l hl c hc => ?_⟩
  · obtain ⟨c, hc, hqualified⟩ := h.lessons l hl hpending
    refine ⟨c, ?_, hqualified⟩
    rw [findUnique_deleteCourse, if_neg (hempty l hl), hc]
  · rcases Table.mem_updateMany_cases (Course.id_deleted t) hc with ⟨hold, _⟩ | ⟨r, _, _, rfl⟩
    · exact h.courses c hold hlive hactive i hi
    · cases hlive
  · rw [findUnique_deleteCourse, if_neg (hempty l hl)] at hc
    exact h.live l hl c hc

theorem KeepsQualifications.qualificationsKept {current : InstructorProfile}
    {ids : Option (List Uuid)} (hkeeps : KeepsQualifications db db' current.id ids)
    (hmem : current ∈ db.instructorProfiles.rows)
    (hguard : assertQualificationsCanChange env db current ids = .ok ())
    (h : QualificationsKept env.now db) : QualificationsKept env.now db' := by
  have hneeded {i : Uuid} {c : Course} (hqualified : QualifiedFor db i c.courseTypeId)
      (hneed : QualificationNeeded env.now db i c) : QualifiedFor db' i c.courseTypeId := by
    refine hkeeps.qualified i _ hqualified fun hi selectedIds hids => ?_
    subst hi
    obtain ⟨p, hp, hid, htype⟩ := hqualified
    rw [db.instructorProfiles.key_inj hp hmem hid] at htype
    rw [hids] at hguard
    exact neededQualification_kept hguard htype hneed
  refine ⟨⟨fun l hl hpending => ?_, fun c hc hlive hactive i hi => ?_⟩, ?_⟩
  · rw [hkeeps.lessons] at hl
    obtain ⟨c, hc, hqualified⟩ := h.lessons l hl hpending
    refine ⟨c, by rw [hkeeps.courses, hc], hneeded hqualified ?_⟩
    exact .lesson l hl rfl hpending hc (h.live l hl c hc)
  · rw [hkeeps.courses] at hc
    exact hneeded (h.courses c hc hlive hactive i hi) (.course hc hi hlive hactive)
  · rw [LessonCoursesLive, hkeeps.lessons, hkeeps.courses]
    exact h.live

end Writes

/-! ### Runs -/

/-- The operations that assign an instructor or change a category or a qualification, and the one
that deletes a course, with their arguments. -/
inductive QualificationCall where
  | bookLesson (actor : Actor) (body : BookLessonBody)
  | bookOwnLesson (actor : Actor) (body : BookOwnLessonBody)
  | updateLesson (actor : Actor) (lessonId : Uuid) (body : UpdateLessonBody)
  | createCourseForUser (userId : Uuid) (body : CreateCourseBody)
  | patchCourseForOwner (userId courseId : Uuid) (body : PatchCourseBody)
  | deleteEmptyCourseForOwner (userId courseId : Uuid)
  | updateInstructorForManagerOrAdmin (actor : Actor) (instructorId : Uuid)
      (patch : InstructorPatchInput)

namespace QualificationCall

/-- The state a call leaves, whether it succeeds or fails. -/
def run (env : Env) (db : Db) : QualificationCall → Db
  | .bookLesson actor body => (OSK.bookLesson env actor body db).2
  | .bookOwnLesson actor body => (OSK.bookOwnLesson env actor body db).2
  | .updateLesson actor lessonId body => (OSK.updateLesson env actor lessonId body db).2
  | .createCourseForUser userId body => (OSK.createCourseForUser env userId body db).2
  | .patchCourseForOwner userId courseId body =>
    (OSK.patchCourseForOwner userId courseId body db).2
  | .deleteEmptyCourseForOwner userId courseId =>
    (OSK.deleteEmptyCourseForOwner env userId courseId db).2
  | .updateInstructorForManagerOrAdmin actor instructorId patch =>
    (OSK.updateInstructorForManagerOrAdmin env actor instructorId patch db).2

/-- Any call, with the clock it runs at. -/
def timeline : Timeline (Env × QualificationCall) Instant Db where
  time k := k.1.now
  allowed _ _ := True
  act k db := k.2.run k.1 db

theorem run_qualificationsKept {env : Env} {db : Db} (call : QualificationCall)
    (h : QualificationsKept env.now db) : QualificationsKept env.now (call.run env db) := by
  cases call with
  | bookLesson actor body => exact (bookLesson_written actor body).qualificationsKept h
  | bookOwnLesson actor body => exact (bookOwnLesson_written actor body).qualificationsKept h
  | updateLesson actor lessonId body =>
    exact (updateLesson_written actor lessonId body).qualificationsKept h
  | createCourseForUser userId body =>
    show QualificationsKept env.now (OSK.createCourseForUser env userId body db).2
    rcases (createCourseForUser_fails env userId body).cases db with ⟨dto, hok⟩ | hs
    · obtain ⟨courseType, hrules, hs⟩ := createCourseForUser_ok hok
      rw [hs]
      exact insertCourse_qualificationsKept hrules h
    · rw [hs]
      exact h
  | patchCourseForOwner userId courseId body =>
    show QualificationsKept env.now (OSK.patchCourseForOwner userId courseId body db).2
    rcases patchCourseForOwner_store userId courseId body db with hs | ⟨row, t, hrules, hs⟩
    · rw [hs]
      exact h
    · rw [hs]
      exact patchCourse_qualificationsKept hrules h
  | deleteEmptyCourseForOwner userId courseId =>
    show QualificationsKept env.now (OSK.deleteEmptyCourseForOwner env userId courseId db).2
    rcases deleteEmptyCourseForOwner_store env userId courseId db with hs | ⟨hempty, hs⟩
    · rw [hs]
      exact h
    · rw [hs]
      exact deleteCourse_qualificationsKept hempty h
  | updateInstructorForManagerOrAdmin actor instructorId patch =>
    show QualificationsKept env.now
      (OSK.updateInstructorForManagerOrAdmin env actor instructorId patch db).2
    rcases updateInstructor_store env actor instructorId patch db with
      hs | ⟨current, passes, hkeeps⟩
    · rw [hs]
      exact h
    · exact hkeeps.qualificationsKept passes.mem.1 passes.guard h

end QualificationCall

/-- After any run, and while nothing happens, instructors are qualified for their lessons and
courses. -/
theorem run_qualifications {c c' : Clocked Instant Db} (h : QualificationsHold c.now c.store)
    (hlive : LessonCoursesLive c.store) (hrun : QualificationCall.timeline.Run c c') {t : Instant}
    (ht : c'.now ≤ t) : QualificationsHold t c'.store := by
  have hkept : QualificationsKept c.now c.store := ⟨h, hlive⟩
  refine (hrun.invariant_at qualificationsKept_lasting ?_ hkept ht).toQualificationsHold
  exact fun k _ _ hdb => QualificationCall.run_qualificationsKept k.2 hdb

open SmallSchool TwoCategories in
/-- The instructor of the lesson keeps the qualification, the other one loses it. -/
theorem run_qualifications_two :
    let onlyC instructorId : QualificationCall :=
      .updateInstructorForManagerOrAdmin manager instructorId
        { qualifiedCourseTypeIds := some [8] }
    let env := envAt (clock 4 8 0)
    let booking := QualificationCall.bookLesson manager
      ⟨50, 3, 20, clock 5 10 0, clock 5 11 0, 40⟩
    let booked := booking.run env start.store
    let stop := (onlyC 21).run env ((onlyC 20).run env booked)
    QualificationsHold (clock 5 9 0) stop ∧
      stop.lessons.rows.map Lesson.instructorId = [20] ∧
      stop.instructorProfiles.rows.map InstructorProfile.qualifiedCourseTypes = [[7], [8]] := by
  intro onlyC env booking booked stop
  have hstart : QualificationsHold start.now start.store := by
    refine ⟨fun _ hl => absurd hl List.not_mem_nil, fun c hc _ _ i hi => ?_⟩
    rw [List.mem_singleton.mp hc] at hi
    cases hi
  have hstep (call : QualificationCall) (db : Db) :
      QualificationCall.timeline.Step ⟨env.now, db⟩ ⟨env.now, call.run env db⟩ :=
    ⟨(env, call), le_rfl, trivial, rfl⟩
  have hbooked : QualificationCall.timeline.Step start ⟨env.now, booked⟩ :=
    ⟨(env, booking), by decide, trivial, rfl⟩
  have hrun : QualificationCall.timeline.Run start ⟨env.now, stop⟩ :=
    ((Relation.ReflTransGen.single hbooked).tail (hstep (onlyC 20) booked)).tail
      (hstep (onlyC 21) ((onlyC 20).run env booked))
  refine ⟨run_qualifications hstart ?_ hrun (by decide), by decide +kernel, by decide +kernel⟩
  exact fun _ hl => absurd hl List.not_mem_nil

end OSK
