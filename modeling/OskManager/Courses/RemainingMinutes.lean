import OskManager.Model.CourseList
import OskManager.Model.DayOptions
import OskManager.Schedule.EligibleStudents
import OskManager.Schedule.LessonPreflight
import OskManager.Schedule.PackageHours

/-! What is left of a package is computed in three places. The booking and the list of courses
count practice lessons that are not deleted; the options of a lesson edit count every lesson that
is not cancelled, so they show less when another kind of lesson is there. -/

namespace OSK

open Relational

variable {db : Db} {course : Course} {student : StudentProfile}

/-! ### The options -/

/-- What a lesson takes from the package in the options only. -/
def Lesson.optionsWeight (courseId studentId : Uuid) (l : Lesson) : ℤ :=
  if l.courseId = courseId ∧ l.studentId = studentId ∧ l.status ≠ .cancelled ∧
      l.countsFor courseId studentId = false then l.minutes else 0

theorem Lesson.minutes_nonneg (l : Lesson) : 0 ≤ l.minutes :=
  roundedMinutes_nonneg l.start_before_end.le

theorem Lesson.optionsWeight_nonneg (l : Lesson) (courseId studentId : Uuid) :
    0 ≤ l.optionsWeight courseId studentId := by
  unfold Lesson.optionsWeight
  split
  · exact l.minutes_nonneg
  · exact le_rfl

/-- The sum of the options is the one of the booking and what they count beyond it. -/
theorem usedMinutes_eq (courseId studentId exclude : Uuid) (totalHours : ℤ) :
    ((db.lessons.findMany fun l => decide (l.courseId = courseId ∧ l.studentId = studentId ∧
        l.status ≠ .cancelled ∧ l.id ≠ exclude)).map Lesson.minutes).sum =
      (getCoursePracticePackageBalance db courseId studentId totalHours
        (some exclude)).bookedMinutes +
      db.lessons.total fun l =>
        if l.id ≠ exclude then l.optionsWeight courseId studentId else 0 := by
  rw [bookedMinutes_eq_total, Table.total_filter, ← Table.total_add]
  refine Table.total_congr _ fun l _ => ?_
  by_cases hid : l.id = exclude
  · simp [hid]
  · have hid' : exclude ≠ l.id := fun h => hid h.symm
    simp only [ne_eq, hid, hid', Option.some.injEq, not_false_eq_true, if_true, and_true,
      Lesson.packageWeight, Lesson.optionsWeight]
    by_cases hcounts : l.countsFor courseId studentId = true
    · have hrule := hcounts
      simp only [Lesson.countsFor, decide_eq_true_eq] at hrule
      simp [hcounts, hrule.1, hrule.2.1, hrule.2.2.2.2]
    · simp [hcounts]

/-- Every other lesson of the student in the course that has not been cancelled is a practice
lesson that has not been deleted, or it rounds to no minutes. -/
def OnlyPackageLessons (db : Db) (courseId studentId exclude : Uuid) : Prop :=
  ∀ l ∈ db.lessons.rows, l.courseId = courseId → l.studentId = studentId →
    l.status ≠ .cancelled → l.id ≠ exclude →
      (l.lessonType = .practice ∧ l.deletedAt = none) ∨ l.minutes = 0

/-- The other practice lessons take all the hours of the course. -/
def PackageUsedUp (db : Db) (course : Course) (studentId exclude : Uuid) : Prop :=
  course.totalHours * 60 ≤ ((db.lessons.findMany fun l =>
    l.countsFor course.id studentId && decide (l.id ≠ exclude)).map Lesson.minutes).sum

theorem optionsWeight_eq_zero_iff {courseId studentId exclude : Uuid} :
    (db.lessons.total fun l =>
        if l.id ≠ exclude then l.optionsWeight courseId studentId else 0) = 0 ↔
      OnlyPackageLessons db courseId studentId exclude := by
  have hnonneg : ∀ l ∈ db.lessons.rows,
      0 ≤ if l.id ≠ exclude then l.optionsWeight courseId studentId else 0 := by
    intro l _
    split
    · exact l.optionsWeight_nonneg courseId studentId
    · exact le_rfl
  rw [Table.total_eq_zero_iff _ hnonneg]
  refine forall₂_congr fun l _ => ?_
  by_cases hid : l.id = exclude
  · simp [hid]
  · simp only [ne_eq, hid, not_false_eq_true, if_true, forall_const, Lesson.optionsWeight,
      Lesson.countsFor, ite_eq_right_iff, decide_eq_false_iff_not, and_imp]
    refine forall₃_congr fun hc hs hcancelled => ?_
    simp only [hc, hs, hcancelled, true_and, and_true, not_false_eq_true]
    exact imp_iff_not_or.trans (or_congr_left not_not)

theorem max_sub_eq_iff {total booked extra : ℤ} (h : 0 ≤ extra) :
    max 0 (total - (booked + extra)) = max 0 (total - booked) ↔ extra = 0 ∨ total ≤ booked := by
  omega

/-- The options agree with the booking exactly when nothing else is counted or nothing is left. -/
theorem resolveRemainingCourseMinutes_iff (hkind : course.kind.hasPackage) {exclude : Uuid} :
    resolveRemainingCourseMinutes db course.id student.id course.kind course.totalHours exclude =
        some (getCoursePracticePackageBalance db course.id student.id course.totalHours
          (some exclude)).remainingMinutes ↔
      OnlyPackageLessons db course.id student.id exclude ∨
        PackageUsedUp db course student.id exclude := by
  have hpackage : ¬(course.kind ≠ .practical ∧ course.kind ≠ .extra) :=
    fun h => hkind.elim h.1 h.2
  have hbooked : ((db.lessons.findMany fun l => l.countsFor course.id student.id &&
      decide (l.id ≠ exclude)).map Lesson.minutes).sum =
        (getCoursePracticePackageBalance db course.id student.id course.totalHours
          (some exclude)).bookedMinutes := by
    simp only [getCoursePracticePackageBalance, ne_eq, Option.some.injEq, eq_comm]
  rw [resolveRemainingCourseMinutes, if_neg hpackage]
  dsimp only
  rw [usedMinutes_eq _ _ _ course.totalHours, Option.some.injEq, PackageUsedUp, hbooked,
    ← optionsWeight_eq_zero_iff]
  refine max_sub_eq_iff ?_
  rw [Table.total]
  refine List.sum_nonneg (List.forall_mem_map.mpr fun l _ => ?_)
  split
  · exact l.optionsWeight_nonneg _ _
  · exact le_rfl

/-! ### The list of courses -/

theorem addMinutes_getD (m : MinutesByCourse) (l : Lesson) (courseId : Uuid) :
    (addMinutes m l courseId).getD 0 =
      (m courseId).getD 0 + if l.courseId = courseId then l.minutes else 0 := by
  have hnonneg := l.minutes_nonneg
  unfold addMinutes
  by_cases hm : l.minutes ≤ 0
  · simp [le_antisymm hm hnonneg]
  · by_cases hc : l.courseId = courseId
    · subst hc
      simp [hm]
    · simp [hm, hc, Function.update_of_ne (Ne.symm hc)]

/-- The loop adds the minutes of the course, by induction over the lessons. -/
theorem groupCompletedMinutesByCourse_eq (rows : List Lesson) (courseId : Uuid) :
    (groupCompletedMinutesByCourse rows courseId).getD 0 =
      ((rows.filter fun l => decide (l.courseId = courseId)).map Lesson.minutes).sum := by
  have hloop (m : MinutesByCourse) : (rows.foldl addMinutes m courseId).getD 0 =
      (m courseId).getD 0 +
        ((rows.filter fun l => decide (l.courseId = courseId)).map Lesson.minutes).sum := by
    induction rows generalizing m with
    | nil => simp
    | cons l rest ih =>
      rw [List.foldl_cons, ih, addMinutes_getD]
      by_cases hc : l.courseId = courseId <;> simp [hc, add_assoc]
  exact (hloop _).trans (zero_add _)

/-- The rows of the list are those of one student. -/
theorem currentUserCourseRows_student (hunique : UniqueProfiles db)
    (hstudent : student ∈ db.studentProfiles.rows) {row : CurrentUserCourseRow}
    (hrow : row ∈ currentUserCourseRows db student.userId) :
    row.studentId = student.id ∧ row.course ∈ db.courses.rows ∧ row.course.deletedAt = none := by
  obtain ⟨p, -, hp⟩ := List.mem_filterMap.mp hrow
  split at hp
  · next s c hs hc =>
    split at hp
    · next hwhere =>
      cases hp
      obtain rfl := hunique _ (Table.mem_of_findUnique hs) _ hstudent hwhere.1
      exact ⟨(Table.key_of_findUnique hs).symm, Table.mem_of_findUnique hc, hwhere.2⟩
    · cases hp
  · cases hp

/-- The minutes shown as booked are those of the booking. -/
theorem bookedMinutes_list (hunique : UniqueProfiles db)
    (hstudent : student ∈ db.studentProfiles.rows) (hkind : course.kind.hasPackage)
    {row : CurrentUserCourseRow} (hrow : row ∈ currentUserCourseRows db student.userId)
    (hcourse : row.course = course) :
    ((getCompletedDrivingMinutesByCourse db
        (currentUserCourseRows db student.userId)).booked course.id).getD 0 =
      packageMinutes db course.id student.id := by
  subst hcourse
  have hid : row.course.id ∈ ((currentUserCourseRows db student.userId).filter fun row =>
      decide (row.course.kind = .practical ∨ row.course.kind = .extra)).map
        fun row => row.course.id :=
    List.mem_map.mpr ⟨row, List.mem_filter.mpr ⟨hrow, decide_eq_true hkind⟩, rfl⟩
  have hstudents (id : Uuid) : id ∈ (currentUserCourseRows db student.userId).map
      CurrentUserCourseRow.studentId ↔ id = student.id := by
    rw [List.mem_map]
    refine ⟨?_, ?_⟩
    · rintro ⟨other, hother, rfl⟩
      exact (currentUserCourseRows_student hunique hstudent hother).1
    · rintro rfl
      exact ⟨row, hrow, (currentUserCourseRows_student hunique hstudent hrow).1⟩
  simp only [getCompletedDrivingMinutesByCourse, if_neg (List.ne_nil_of_mem hid),
    groupCompletedMinutesByCourse_eq, packageMinutes, Table.findMany, List.filter_filter, hstudents]
  congr 2
  refine List.filter_congr fun l _ => ?_
  by_cases hc : l.courseId = row.course.id
  · simp only [Lesson.countsFor, hc, hid, true_and, decide_true, Bool.true_and]
    exact decide_eq_decide.mpr (by tauto)
  · simp [Lesson.countsFor, hc]

theorem currentUserCourses_shown (hstudent : student ∈ db.studentProfiles.rows)
    (hcourse : course ∈ db.courses.rows) (hlive : course.deletedAt = none)
    (henrolled : (course.id, student.id) ∈ db.courseParticipants.keys) :
    ∃ shown ∈ listCoursesForCurrentUser db student.userId .student, shown.id = course.id := by
  obtain ⟨p, hp, hkey⟩ := (Table.mem_keys _ _).mp henrolled
  obtain ⟨hpc, hps⟩ := Prod.mk.inj hkey
  refine ⟨_, List.mem_map.mpr ⟨⟨p.studentId, p.status, course⟩, ?_, rfl⟩, rfl⟩
  refine List.mem_filterMap.mpr ⟨p, hp, ?_⟩
  rw [hps, hpc, Table.findUnique_of_mem hstudent, Table.findUnique_of_mem hcourse]
  simp [hlive]

/-! ### The three figures -/

/-- The figures of the booking, of the options of an edit and of the list agree. -/
structure OneRemainingFigure (db : Db) (course : Course) (student : StudentProfile)
    (exclude : Uuid) : Prop where
  options : resolveRemainingCourseMinutes db course.id student.id course.kind course.totalHours
      exclude =
    some (getCoursePracticePackageBalance db course.id student.id course.totalHours
      (some exclude)).remainingMinutes
  list : ∀ shown ∈ listCoursesForCurrentUser db student.userId .student, shown.id = course.id →
    shown.remainingBookableMinutes =
      (getCoursePracticePackageBalance db course.id student.id course.totalHours).remainingMinutes
  listed : course.deletedAt = none →
    ∃ shown ∈ listCoursesForCurrentUser db student.userId .student, shown.id = course.id

theorem remainingBookableMinutes_eq (hunique : UniqueProfiles db)
    (hstudent : student ∈ db.studentProfiles.rows) (hcourse : course ∈ db.courses.rows)
    (hkind : course.kind.hasPackage) {shown : CurrentUserCourse}
    (hshown : shown ∈ listCoursesForCurrentUser db student.userId .student)
    (hid : shown.id = course.id) :
    shown.remainingBookableMinutes =
      (getCoursePracticePackageBalance db course.id student.id
        course.totalHours).remainingMinutes := by
  obtain ⟨row, hrow, rfl⟩ := List.mem_map.mp hshown
  obtain ⟨-, hmem, -⟩ := currentUserCourseRows_student hunique hstudent hrow
  obtain rfl : row.course = course := db.courses.key_inj hmem hcourse hid
  have hbooked := bookedMinutes_eq_packageMinutes db row.course.id student.id row.course.totalHours
  have hcounted : row.course.kind = .practical ∨ row.course.kind = .extra := hkind
  simp only [currentUserCourse, if_pos hcounted,
    bookedMinutes_list hunique hstudent hkind hrow rfl, ← hbooked]
  rfl

/-- The figures agree unless a lesson of another kind is counted against a package that is not used
up. -/
theorem oneRemainingFigure_iff {exclude : Uuid} (hunique : UniqueProfiles db)
    (hstudent : student ∈ db.studentProfiles.rows) (hcourse : course ∈ db.courses.rows)
    (hkind : course.kind.hasPackage)
    (henrolled : (course.id, student.id) ∈ db.courseParticipants.keys) :
    OneRemainingFigure db course student exclude ↔
      OnlyPackageLessons db course.id student.id exclude ∨
        PackageUsedUp db course student.id exclude := by
  rw [← resolveRemainingCourseMinutes_iff hkind]
  refine ⟨fun h => h.options, fun h => ⟨h, fun _ hshown hid => ?_, fun hlive => ?_⟩⟩
  · exact remainingBookableMinutes_eq hunique hstudent hcourse hkind hshown hid
  · exact currentUserCourses_shown hstudent hcourse hlive henrolled

theorem SmallSchool.uniqueProfiles (lessonType : LessonType) :
    UniqueProfiles (withTuesdayLesson lessonType) := by
  intro p hp q hq h
  simp only [withTuesdayLesson, SmallSchool.db, List.mem_cons, List.not_mem_nil, or_false] at hp hq
  rcases hp with rfl | rfl <;> rcases hq with rfl | rfl <;> simp_all

open SmallSchool in
/-- A theory lesson takes an hour from the options of an edit, and from nothing else. -/
theorem not_oneRemainingFigure : ¬∀ (db : Db) (course : Course) (student : StudentProfile)
    (exclude : Uuid), UniqueProfiles db → student ∈ db.studentProfiles.rows →
      course ∈ db.courses.rows → course.kind.hasPackage →
        (course.id, student.id) ∈ db.courseParticipants.keys →
          OneRemainingFigure db course student exclude := by
  intro h
  have hone := h (withTuesdayLesson .theory) SmallSchool.course { id := 30, userId := 3 } 71
    (SmallSchool.uniqueProfiles .theory) List.mem_cons_self (List.mem_singleton_self _)
    (Or.inl rfl) (by decide)
  exact absurd hone.options (by decide +kernel)

open SmallSchool in
/-- With a practice lesson all three show twenty-nine hours. -/
theorem oneRemainingFigure_practice :
    OneRemainingFigure (withTuesdayLesson .practice) SmallSchool.course { id := 30, userId := 3 }
      71 :=
  (oneRemainingFigure_iff (SmallSchool.uniqueProfiles .practice) List.mem_cons_self
    (List.mem_singleton_self SmallSchool.course) (Or.inl rfl) (by decide)).mpr (Or.inl (by
      intro l hl _ _ _ _
      obtain rfl := List.mem_singleton.mp hl
      exact Or.inl ⟨rfl, rfl⟩))

end OSK
