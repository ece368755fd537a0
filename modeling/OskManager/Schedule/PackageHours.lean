import Mathlib.Logic.Relation
import OskManager.Sample.SmallSchool
import OskManager.Schedule.CourseWrites
import OskManager.Schedule.LessonWrites

/-! Package hours. The practice lessons of a student in a course never take more minutes than
the course has: a booking and an edit check the minutes they add against what is left, and the
hours of a course change only while it has no lessons. -/

namespace OSK

open Relational

/-! ### Minutes of a package -/

/-- The minutes a student has used of a course: practice lessons neither cancelled nor deleted. -/
def packageMinutes (db : Db) (courseId studentId : Uuid) : ℤ :=
  ((db.lessons.findMany fun l => l.countsFor courseId studentId).map Lesson.minutes).sum

/-- A course that has a package of driving hours. -/
def CourseKind.hasPackage (kind : CourseKind) : Prop := kind = .practical ∨ kind = .extra

/-- No student has used more of a course than its hours. -/
def WithinPackages (db : Db) : Prop :=
  ∀ c ∈ db.courses.rows, c.kind.hasPackage →
    ∀ studentId, packageMinutes db c.id studentId ≤ c.totalHours * 60

/-- What one lesson takes from the package. -/
def Lesson.packageWeight (courseId studentId : Uuid) (l : Lesson) : ℤ :=
  if l.countsFor courseId studentId then l.minutes else 0

theorem packageMinutes_eq_total (db : Db) (courseId studentId : Uuid) :
    packageMinutes db courseId studentId =
      db.lessons.total (Lesson.packageWeight courseId studentId) :=
  Table.total_filter _ _ _

theorem bookedMinutes_eq_total (db : Db) (courseId studentId : Uuid) (totalHours : ℤ)
    (exclude : Option Uuid) :
    (getCoursePracticePackageBalance db courseId studentId totalHours exclude).bookedMinutes =
      db.lessons.total fun l =>
        if exclude ≠ some l.id then l.packageWeight courseId studentId else 0 := by
  refine (Table.total_filter _ _ _).trans (Table.total_congr _ fun l _ => ?_)
  by_cases hx : exclude = some l.id <;> simp [Lesson.packageWeight, hx]

theorem bookedMinutes_eq_packageMinutes (db : Db) (courseId studentId : Uuid) (totalHours : ℤ) :
    (getCoursePracticePackageBalance db courseId studentId totalHours).bookedMinutes =
      packageMinutes db courseId studentId := by
  rw [bookedMinutes_eq_total, packageMinutes_eq_total]
  simp only [ne_eq, reduceCtorEq, not_false_eq_true, if_true]

theorem roundedMinutes_nonneg {start stop : Instant} (h : start ≤ stop) :
    0 ≤ roundedMinutes start stop := by
  refine Int.ediv_nonneg ?_ (by decide)
  have hdiff : 0 ≤ stop - start := Int.sub_nonneg_of_le h
  have hhalf : 0 ≤ msPerMinute / 2 := by decide
  exact add_nonneg hdiff hhalf

theorem Lesson.packageWeight_nonneg (l : Lesson) (courseId studentId : Uuid) :
    0 ≤ l.packageWeight courseId studentId := by
  unfold Lesson.packageWeight
  split
  · exact roundedMinutes_nonneg l.start_before_end.le
  · exact le_rfl

/-- What the package rule leaves room for. -/
theorem packageHours_allow {db : Db} {courseId studentId : Uuid} {kind : CourseKind}
    {totalHours : ℤ} {start stop : Instant} {exclude : Option Uuid}
    (h : assertCourseDrivingPackageHoursAllowNewLesson db courseId studentId kind totalHours start
      stop exclude = .ok ()) (hkind : kind.hasPackage) :
    (getCoursePracticePackageBalance db courseId studentId totalHours exclude).bookedMinutes +
      roundedMinutes start stop ≤ totalHours * 60 := by
  have hnot : ¬(kind ≠ .practical ∧ kind ≠ .extra) := by
    intro h
    obtain ⟨h1, h2⟩ := h
    exact hkind.elim h1 h2
  rw [assertCourseDrivingPackageHoursAllowNewLesson, if_neg hnot] at h
  simp only [except_bind_eq_ok, throwIf_eq_ok, not_le, not_lt, gt_iff_lt] at h
  obtain ⟨_, hpos, hle⟩ := h
  simp only [getCoursePracticePackageBalance] at hle ⊢
  rcases le_max_iff.mp hle with hle | hle
  · exact absurd hpos (not_lt.mpr hle)
  · omega

theorem window_package {zone : PolishZone} {db : Db} {params : LessonWindowParams}
    (h : assertLessonSchedulingWindowAvailable zone db params = .ok ()) :
    assertCourseDrivingPackageHoursAllowNewLesson db params.courseId params.studentProfileId
      params.courseKind params.totalHours params.start params.stop params.excludeLessonId =
        .ok () := by
  simp only [assertLessonSchedulingWindowAvailable, except_bind_eq_ok] at h
  obtain ⟨_, _, _, hp, _⟩ := h
  exact hp

/-! ### Writes -/

section Writes

variable {env : Env} {db db' : Db}

theorem withinPackages_refreshed (db : Db) (p : Vehicle → Bool) :
    WithinPackages (db.refreshed p) ↔ WithinPackages db := Iff.rfl

theorem withinPackages_after {α : Type} {p : Service α} (hp : Prog.FailsWithin Refreshed p)
    (h : WithinPackages db)
    (hok : ∀ a db', p db = (.ok a, db') → WithinPackages db') : WithinPackages (p db).2 := by
  rcases hp.cases db with ⟨a, ha⟩ | ⟨q, hq⟩
  · exact hok a _ ha
  · rw [hq]
    exact h

theorem NewLesson.packageWeight_row (data : NewLesson) (id : Uuid) (createdAt : Instant)
    (hlt : data.startTime < data.endTime) (courseId studentId : Uuid) :
    (data.row id createdAt hlt).packageWeight courseId studentId =
      if data.courseId = courseId ∧ data.studentId = studentId then
        roundedMinutes data.startTime data.endTime else 0 := by
  simp [Lesson.packageWeight, Lesson.countsFor, NewLesson.row, Lesson.minutes]

/-- A booking adds its own minutes to one student's package. -/
theorem packageMinutes_insertLesson (data : NewLesson) (hlt : data.startTime < data.endTime)
    (courseId studentId : Uuid) :
    packageMinutes (db.insertLesson env data hlt) courseId studentId =
      packageMinutes db courseId studentId +
        if data.courseId = courseId ∧ data.studentId = studentId then
          roundedMinutes data.startTime data.endTime else 0 := by
  rw [packageMinutes_eq_total, packageMinutes_eq_total,
    ← data.packageWeight_row (env.uuid db.lessons.keys) env.now hlt]
  exact Table.total_insert db.lessons _ (env.uuid_fresh _) _

theorem insertLesson_withinPackages {course : Course} {data : NewLesson}
    (hlt : data.startTime < data.endTime) (h : WithinPackages db)
    (hcourse : course ∈ db.courses.rows) (hid : data.courseId = course.id)
    (hallow : assertCourseDrivingPackageHoursAllowNewLesson db course.id data.studentId course.kind
      course.totalHours data.startTime data.endTime = .ok ()) :
    WithinPackages (db.insertLesson env data hlt) := by
  intro c hc hkind studentId
  rw [packageMinutes_insertLesson]
  split
  · next hsame =>
    obtain ⟨hcid, rfl⟩ := hsame
    have heq : c = course := db.courses.key_inj hc hcourse (hcid.symm.trans hid)
    subst heq
    have hroom := packageHours_allow hallow hkind
    rwa [bookedMinutes_eq_packageMinutes] at hroom
  · rw [add_zero]
    exact h c hc hkind studentId

theorem createPracticeLesson_withinPackages {input : PracticeLessonInput}
    {resolve : CourseForBooking → Service Uuid} {dto : LessonDto}
    (hkeep : ∀ c, Prog.Keeps Refreshed (resolve c))
    (hcourse : loadCourseForBooking db input.course.id = .ok input.course) (h : WithinPackages db)
    (hok : createPracticeLessonForStudent env input resolve db = (.ok dto, db')) :
    WithinPackages db' := by
  obtain ⟨_, hw, v, p, _, hlt, rfl, _⟩ := (createPracticeLesson_eq_ok hkeep hcourse _ _).mp hok
  obtain ⟨c, hc, hforBooking⟩ := (loadCourseForBooking_eq_ok db _ _).mp hcourse
  have hpackage := window_package hw
  rw [← hforBooking] at hpackage
  refine insertLesson_withinPackages hlt ((withinPackages_refreshed db p).mpr h)
    (Table.mem_of_findFirst hc).1 ?_ hpackage
  exact congrArg CourseForBooking.id hforBooking.symm

theorem bookLesson_withinPackages (actor : Actor) (body : BookLessonBody)
    (h : WithinPackages db) : WithinPackages (bookLesson env actor body db).2 := by
  apply withinPackages_after (bookLesson_fails env actor body) h
  intro dto db' hok
  obtain ⟨course, student, hrules, hcreate⟩ := (bookLesson_eq_ok ..).mp hok
  have hcourse := loadCourseForBooking_self hrules.course_loaded
  exact createPracticeLesson_withinPackages (bookedVehicle_keeps env body) hcourse h hcreate

theorem bookOwnLesson_withinPackages (actor : Actor) (body : BookOwnLessonBody)
    (h : WithinPackages db) : WithinPackages (bookOwnLesson env actor body db).2 := by
  apply withinPackages_after (bookOwnLesson_fails env actor body) h
  intro dto db' hok
  obtain ⟨course, student, hrules, hcreate⟩ := (bookOwnLesson_eq_ok ..).mp hok
  have hcourse := loadCourseForBooking_self hrules.course_loaded
  exact createPracticeLesson_withinPackages (fun c => findAvailableVehicle_keeps env _ _ _ _ _)
    hcourse h hcreate

/-- An edit exchanges the minutes of the lesson for those of the slot. -/
theorem packageMinutes_moveLesson {existing : Lesson} (hmem : existing ∈ db.lessons.rows)
    (slot : LessonSlot) (hlt : slot.start < slot.stop) (courseId studentId : Uuid) :
    packageMinutes (db.moveLesson existing.id slot hlt) courseId studentId =
      (db.lessons.total fun l =>
        if l.id = existing.id then 0 else l.packageWeight courseId studentId) +
      if existing.countsFor courseId studentId then roundedMinutes slot.start slot.stop else 0 := by
  rw [packageMinutes_eq_total]
  exact Table.total_update db.lessons hmem (Lesson.moved slot hlt) (Lesson.id_moved slot hlt) _

theorem moveLesson_withinPackages {existing : Lesson} {course : CourseForBooking}
    {slot : LessonSlot} (h : WithinPackages db) (hmem : existing ∈ db.lessons.rows)
    (hcourse : lessonCourse db existing = .ok course)
    (hrules : LessonSlotRules env db existing course slot) (hlt : slot.start < slot.stop) :
    WithinPackages (db.moveLesson existing.id slot hlt) := by
  intro c hc hkind studentId
  have hbefore := h c hc hkind studentId
  rw [packageMinutes_eq_total, Table.total_split db.lessons hmem] at hbefore
  rw [packageMinutes_moveLesson hmem]
  split
  swap
  · next hcounts =>
    rw [Lesson.packageWeight, if_neg hcounts] at hbefore
    exact hbefore
  next hcounts =>
  by_cases hch : (existing.timeChanged slot || existing.instructorChanged slot) = true
  · -- the rules have weighed the slot against the package without the lesson itself
    have hpackage := window_package (hrules.window hch)
    obtain ⟨c', hc', rfl⟩ := lessonCourse_eq_ok.mp hcourse
    have hids : existing.courseId = c.id ∧ existing.studentId = studentId := by
      have hand := of_decide_eq_true hcounts
      exact ⟨hand.1, hand.2.1⟩
    have heq : c' = c := by
      apply db.courses.key_inj (Table.mem_of_findUnique hc') hc
      rw [Table.key_of_findUnique hc', hids.1]
    subst heq
    have hroom := packageHours_allow hpackage hkind
    rw [bookedMinutes_eq_total] at hroom
    simp only [CourseForBooking.window, Course.forBooking, hids.2, ne_eq, Option.some.injEq] at hroom
    refine le_trans (le_of_eq ?_) hroom
    congr 1
    apply Table.total_congr _
    intro l _
    by_cases hl : l.id = existing.id
    · simp [hl]
    · simp [hl, Ne.symm hl]
  · obtain ⟨h1, h2, _⟩ := lesson_slot_kept hch
    rw [Lesson.packageWeight, if_pos hcounts] at hbefore
    rw [h1, h2]
    exact hbefore

theorem updateLesson_withinPackages (actor : Actor) (lessonId : Uuid) (body : UpdateLessonBody)
    (h : WithinPackages db) : WithinPackages (updateLesson env actor lessonId body db).2 := by
  refine withinPackages_after (Prog.FailsWithin.transaction Refreshed.refl _) h
    fun dto db' hok => ?_
  obtain ⟨existing, course, v, hrules, hcase⟩ := (updateLesson_eq_ok ..).mp hok
  rcases hcase with ⟨_, _, rfl⟩ | ⟨_, p, hslot, hlt, _, rfl⟩
  · exact h
  · obtain ⟨hallowed, _⟩ := (lessonSlotAllowed_eq_ok ..).mp hslot
    exact moveLesson_withinPackages h (findLesson_eq_some hrules.found).1 hrules.course_found
      hallowed hlt

/-- A cancellation gives minutes back. -/
theorem cancelLessons_withinPackages (h : WithinPackages db) (p : Lesson → Bool) :
    WithinPackages (db.cancelLessons p) := by
  intro c hc hkind studentId
  refine le_trans ?_ (h c hc hkind studentId)
  rw [packageMinutes_eq_total, packageMinutes_eq_total]
  apply le_trans (le_of_eq (Table.total_updateMany _ _ _ Lesson.id_cancelled _))
  apply Table.total_mono _
  intro l _
  split
  · have hzero : l.cancelled.packageWeight c.id studentId = 0 := by
      simp [Lesson.packageWeight, Lesson.countsFor, Lesson.cancelled]
    rw [hzero]
    exact l.packageWeight_nonneg _ _
  · exact le_rfl

theorem cancelLesson_withinPackages (actor : Actor) (lessonId : Uuid) (h : WithinPackages db) :
    WithinPackages (cancelLesson env actor lessonId db).2 := by
  rcases cancelLesson_store env actor lessonId db with hs | hs
  · rw [hs]
    exact h
  · rw [hs]
    exact cancelLessons_withinPackages h _

theorem cancelOwnLesson_withinPackages (actor : Actor) (lessonId : Uuid) (h : WithinPackages db) :
    WithinPackages (cancelOwnLesson env actor lessonId db).2 := by
  rcases cancelOwnLesson_store env actor lessonId db with hs | ⟨owner, hs⟩
  · rw [hs]
    exact h
  · rw [hs]
    exact cancelLessons_withinPackages h _

/-! ### The course itself -/

/-- Hours and kind stay, unless the course has no lessons that count. -/
theorem coursePatch_keeps {row : Course} {body : PatchCourseBody}
    (h : assertCoursePatchAllowed db row body = .ok ()) :
    (body.nextKind row = row.kind ∧ (body.nextTotalHours row).val = row.totalHours) ∨
      ∀ studentId, packageMinutes db row.id studentId = 0 := by
  simp only [assertCoursePatchAllowed, except_bind_eq_ok, throwIf_eq_ok, not_and,
    Bool.not_eq_true] at h
  obtain ⟨_, _, _, _, _, hactivity, _⟩ := h
  by_cases hs : body.structuralChange row = true
  · apply Or.inr
    intro studentId
    have hlessons : (db.lessons.findMany fun l => l.countsFor row.id studentId) = [] := by
      rw [List.eq_nil_iff_forall_not_mem]
      intro l hl
      obtain ⟨hmem, hcounts⟩ := (Table.mem_findMany _ _ _).mp hl
      obtain ⟨hcourse, _, _, hdeleted, _⟩ := of_decide_eq_true hcounts
      exact no_lesson_of_no_activity (hactivity hs) hmem hdeleted hcourse
    rw [packageMinutes, hlessons]
    rfl
  · simp only [PatchCourseBody.structuralChange, decide_eq_true_eq, not_or, ne_eq, not_not] at hs
    exact Or.inl ⟨hs.1, hs.2.2.1⟩

theorem patchCourse_withinPackages {row : Course} {body : PatchCourseBody} {courseId : Uuid}
    (h : WithinPackages db) (hfound : db.courses.findUnique courseId = some row)
    (hallowed : assertCoursePatchAllowed db row body = .ok ()) (courseTypeId : Uuid) :
    WithinPackages (db.patchCourse courseId body courseTypeId) := by
  intro c hc hkind studentId
  rcases Table.mem_update_cases (Course.id_patched body courseTypeId) hfound hc with ⟨hold, _⟩ | rfl
  · exact h c hold hkind studentId
  · rcases coursePatch_keeps hallowed with ⟨hkept, hhours⟩ | hnone
    · have hkind' : row.kind.hasPackage := hkept ▸ hkind
      have hrow := h row (Table.mem_of_findUnique hfound) hkind' studentId
      exact le_of_le_of_eq hrow (by rw [← hhours]; rfl)
    · refine le_trans (le_of_eq (hnone studentId)) ?_
      have hpos := (body.nextTotalHours row).property
      exact Int.mul_nonneg hpos.le (by decide)

theorem patchCourseForOwner_withinPackages (userId courseId : Uuid) (body : PatchCourseBody)
    (h : WithinPackages db) : WithinPackages (patchCourseForOwner userId courseId body db).2 := by
  rcases patchCourseForOwner_store userId courseId body db with
    hs | ⟨row, courseTypeId, hrules, hs⟩
  · rw [hs]
    exact h
  · rw [hs]
    exact patchCourse_withinPackages h hrules.found hrules.allowed courseTypeId

end Writes

/-! ### Runs -/

/-- The operations that write lessons or the hours of a course, with their arguments. -/
inductive PackageCall where
  | bookLesson (actor : Actor) (body : BookLessonBody)
  | bookOwnLesson (actor : Actor) (body : BookOwnLessonBody)
  | updateLesson (actor : Actor) (lessonId : Uuid) (body : UpdateLessonBody)
  | cancelLesson (actor : Actor) (lessonId : Uuid)
  | cancelOwnLesson (actor : Actor) (lessonId : Uuid)
  | patchCourseForOwner (userId courseId : Uuid) (body : PatchCourseBody)

/-- The state a call leaves, whether it succeeds or fails. -/
def PackageCall.run (env : Env) (db : Db) : PackageCall → Db
  | .bookLesson actor body => (OSK.bookLesson env actor body db).2
  | .bookOwnLesson actor body => (OSK.bookOwnLesson env actor body db).2
  | .updateLesson actor lessonId body => (OSK.updateLesson env actor lessonId body db).2
  | .cancelLesson actor lessonId => (OSK.cancelLesson env actor lessonId db).2
  | .cancelOwnLesson actor lessonId => (OSK.cancelOwnLesson env actor lessonId db).2
  | .patchCourseForOwner userId courseId body =>
    (OSK.patchCourseForOwner userId courseId body db).2

/-- One call, at any clock. -/
def PackageStep (db db' : Db) : Prop := ∃ (env : Env) (call : PackageCall), db' = call.run env db

theorem packageStep_withinPackages {db db' : Db} (h : WithinPackages db)
    (hstep : PackageStep db db') : WithinPackages db' := by
  obtain ⟨env, call, rfl⟩ := hstep
  cases call with
  | bookLesson actor body => exact bookLesson_withinPackages actor body h
  | bookOwnLesson actor body => exact bookOwnLesson_withinPackages actor body h
  | updateLesson actor lessonId body => exact updateLesson_withinPackages actor lessonId body h
  | cancelLesson actor lessonId => exact cancelLesson_withinPackages actor lessonId h
  | cancelOwnLesson actor lessonId => exact cancelOwnLesson_withinPackages actor lessonId h
  | patchCourseForOwner userId courseId body =>
    exact patchCourseForOwner_withinPackages userId courseId body h

/-- The hours of every package hold after any run. -/
theorem run_withinPackages {db db' : Db} (h : WithinPackages db)
    (hrun : Relation.ReflTransGen PackageStep db db') : WithinPackages db' := by
  induction hrun with
  | refl => exact h
  | tail _ hstep ih => exact packageStep_withinPackages ih hstep

open SmallSchool in
/-- Two drives of one package, one booked by the school and one by the student. -/
theorem run_withinPackages_two_drives :
    let booked := (PackageCall.bookLesson manager
      ⟨50, 3, 20, clock 5 10 0, clock 5 11 0, 40⟩).run (envAt (clock 4 8 0)) SmallSchool.db
    let own := (PackageCall.bookOwnLesson student
      { courseId := 50, instructorId := 21, startTime := clock 5 12 0, endTime := clock 5 13 30 }).run
        (envAt (clock 4 8 0)) booked
    packageMinutes own 50 30 = 150 ∧ WithinPackages own := by
  refine ⟨by decide, run_withinPackages ?_ (.tail (.single ⟨_, _, rfl⟩) ⟨_, _, rfl⟩)⟩
  intro c hc _ studentId
  rw [List.mem_singleton.mp hc]
  show (0 : ℤ) ≤ 30 * 60
  decide

end OSK
