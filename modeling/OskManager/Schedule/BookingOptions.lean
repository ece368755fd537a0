import OskManager.Model.LessonOptions
import OskManager.Schedule.EligibleStudents
import OskManager.Schedule.LessonPreflight
import OskManager.Students.ListFilters

/-! The students and courses that the form of a booking offers, against the booking. Page after page
the form has every student once, and with a student the courses for which a booking passes the rules
about its parties. -/

namespace OSK

open Relational Sql

variable {text : TextRules} {db : Db} {actor : Actor} {query : BookingOptionsQuery}
  {userId courseId student : Uuid} {course : CourseForBooking}

/-- The rules of a booking about its course, its student and its instructor. -/
structure PartiesAdmitted (db : Db) (courseId userId instructorId : Uuid)
    (course : CourseForBooking) (student : Uuid) : Prop where
  course_loaded : loadCourseForBooking db courseId = .ok course
  student_loaded : loadStudentProfileIdForUser db userId = .ok student
  participates : assertStudentParticipatesInCourse db course.id student true = .ok ()
  instructor : assertInstructorCanBookCourse db instructorId course true = .ok ()

/-- The rules of a booking about its time and its vehicle. -/
structure TimeAndVehicleAdmitted (env : Env) (db : Db) (body : BookLessonBody)
    (course : CourseForBooking) (student : Uuid) : Prop where
  time : assertLessonTimeIsBookable env db body.startTime course.schoolId = .ok ()
  duration : durationIssues (body.endTime - body.startTime)
    (resolveScheduleDurationPolicy db course.schoolId .practice) = []
  schedule : assertLessonSchedulingWindowAvailable env.zone db
    (course.window student body.instructorId body.startTime body.endTime) = .ok ()
  vehicle : Prog.Succeeds (bookedVehicle env body course) db

/-- Between parties that are admitted only the time and the vehicle decide. -/
theorem PartiesAdmitted.bookLesson_iff {env : Env} {body : BookLessonBody}
    (h : PartiesAdmitted db body.courseId body.studentId body.instructorId course student)
    (hactor : assertActorCanBookLessonForCourse db actor course.schoolId = .ok ()) :
    Prog.Succeeds (bookLesson env actor body) db ↔
      TimeAndVehicleAdmitted env db body course student := by
  have hrules (htime : assertLessonTimeIsBookable env db body.startTime course.schoolId = .ok ()) :
      BookLessonRules env actor body db course student :=
    ⟨h.course_loaded, htime, hactor, h.student_loaded, h.participates, h.instructor⟩
  constructor
  · intro hbooked
    obtain ⟨dto, t, hok⟩ := hbooked
    obtain ⟨course', student', hrules', -⟩ := (bookLesson_eq_ok ..).mp hok
    cases h.course_loaded.symm.trans hrules'.course_loaded
    obtain ⟨hduration, hschedule, hvehicle⟩ :=
      (bookLesson_succeeds (hrules hrules'.time)).mp ⟨dto, t, hok⟩
    exact ⟨hrules'.time, hduration, hschedule, hvehicle⟩
  · intro hrest
    exact (bookLesson_succeeds (hrules hrest.time)).mpr
      ⟨hrest.duration, hrest.schedule, hrest.vehicle⟩

/-! ### What is selected -/

def BookingOptionsQuery.qualifiedTypeIds (query : BookingOptionsQuery) (db : Db) : List Uuid :=
  ((query.instructors db).flatMap InstructorProfile.qualifiedCourseTypes).eraseDups

theorem canBookCourse_eq_ok {instructorId : Uuid} :
    assertInstructorCanBookCourse db instructorId course true = .ok () ↔
      (instructorLink db instructorId course.schoolId).isSome = true ∧
        ∃ p ∈ db.instructorProfiles.rows, p.id = instructorId ∧ p.hasActiveUser db = true ∧
          course.courseTypeId ∈ p.qualifiedCourseTypes := by
  simp only [assertInstructorCanBookCourse, assertInstructorQualifiedForCourseType,
    except_bind_eq_ok, throwIf_eq_ok, Bool.not_eq_true, Option.isNone_eq_false_iff,
    Table.findFirst_isSome, decide_eq_true_eq, exists_const, Bool.true_eq_false, false_and,
    not_false_eq_true, true_and]

/-- A type is asked for when one of the instructors may teach a course of it. -/
theorem mem_qualifiedTypeIds (course : CourseForBooking)
    (hschool : course.schoolId = query.schoolId) :
    course.courseTypeId ∈ query.qualifiedTypeIds db ↔
      ∃ instructorId ∈ query.instructorIds,
        assertInstructorCanBookCourse db instructorId course true = .ok () := by
  simp only [BookingOptionsQuery.qualifiedTypeIds, BookingOptionsQuery.instructors,
    List.mem_eraseDups, List.mem_flatMap, Table.mem_findMany, Bool.and_eq_true, decide_eq_true_eq,
    canBookCourse_eq_ok, hschool]
  constructor
  · intro h
    obtain ⟨p, ⟨hp, ⟨hid, hlink⟩, hactive⟩, hqualified⟩ := h
    exact ⟨p.id, hid, hlink, p, hp, rfl, hactive, hqualified⟩
  · intro h
    obtain ⟨_, hid, hlink, p, hp, rfl, hactive, hqualified⟩ := h
    exact ⟨p, ⟨hp, ⟨hid, hlink⟩, hactive⟩, hqualified⟩

/-- The user has the account of a student and is what is searched for. -/
structure BookingOptionsQuery.Finds (query : BookingOptionsQuery) (text : TextRules)
    (user : User) : Prop where
  role : user.role = .student
  active : user.isActive = true
  live : user.deletedAt = none
  searched : ∀ c ∈ query.searched text, Selects c user

/-- The enrolment is active, in a course of the school that can be booked. -/
structure BookingOptionsQuery.Offers (query : BookingOptionsQuery) (db : Db)
    (enrolment : CourseParticipant) (row : Course) : Prop where
  status : enrolment.status = .active
  found : db.courses.findUnique enrolment.courseId = some row
  school : row.schoolId = query.schoolId
  live : row.deletedAt = none
  active : row.status = "active"
  kind : row.kind ≠ .theoryGroup
  qualified : row.courseTypeId ∈ query.qualifiedTypeIds db

theorem selects_activeEnrolment {enrolment : CourseParticipant} :
    Selects (query.activeEnrolment db (query.qualifiedTypeIds db)) enrolment ↔
      ∃ row, query.Offers db enrolment row := by
  have hkind (row : Course) : row.kind ∈ [CourseKind.practical, CourseKind.extra] ↔
      row.kind ≠ .theoryGroup := by
    cases row.kind <;> decide
  simp only [BookingOptionsQuery.activeEnrolment, BookingOptionsQuery.eligibleCourse,
    courseOfEnrolment, selects_all, selects_column, selects_isNull, selects_toOne,
    List.forall_mem_cons, List.not_mem_nil, false_implies, implies_true, and_true,
    decide_eq_true_eq, hkind]
  constructor
  · intro h
    obtain ⟨hstatus, row, hfound, hschool, hlive, hactive, hkind, hqualified⟩ := h
    exact ⟨row, hstatus, hfound, hschool, hlive, hactive, hkind, hqualified⟩
  · intro h
    obtain ⟨row, h⟩ := h
    exact ⟨h.status, row, h.found, h.school, h.live, h.active, h.kind, h.qualified⟩

theorem mem_matched {s : StudentProfile} :
    s ∈ query.matched db text (query.qualifiedTypeIds db) ↔ s ∈ db.studentProfiles.rows ∧
      (∃ l ∈ db.studentSchools.rows, l.studentId = s.id ∧ l.schoolId = query.schoolId) ∧
      (∃ user, db.users.findUnique s.userId = some user ∧ query.Finds text user) ∧
      ∃ p ∈ db.courseParticipants.rows, p.studentId = s.id ∧ ∃ row, query.Offers db p row := by
  have hfinds (user : User) : Selects (all ([column User.role fun v => decide (v = .student),
      column User.isActive fun v => v, isNull User.deletedAt] ++ query.searched text)) user ↔
        query.Finds text user := by
    simp only [selects_all, List.forall_mem_append, List.forall_mem_cons, selects_column,
      selects_isNull, List.not_mem_nil, false_implies, implies_true, and_true, decide_eq_true_eq]
    exact ⟨fun h => ⟨h.1.1, h.1.2.1, h.1.2.2, h.2⟩,
      fun h => ⟨⟨h.role, h.active, h.live⟩, h.searched⟩⟩
  rw [BookingOptionsQuery.matched, mem_select, BookingOptionsQuery.studentWhere]
  simp only [selects_all, List.forall_mem_cons, List.not_mem_nil, false_implies, implies_true,
    and_true, userOf, selects_toOne, selects_present, selects_column, decide_eq_true_eq, hfinds,
    selects_activeEnrolment, schoolLinksOf, enrolmentsOf, Table.mem_findMany, and_assoc]

theorem mem_rows {row : StudentProfile × User} :
    row ∈ query.rows db text (query.qualifiedTypeIds db) ↔
      row.1 ∈ query.matched db text (query.qualifiedTypeIds db) ∧
        db.users.findUnique row.1.userId = some row.2 := by
  rw [BookingOptionsQuery.rows, List.mem_insertionSort, List.mem_filterMap]
  simp only [Option.map_eq_some_iff]
  constructor
  · rintro ⟨s, hs, user, huser, rfl⟩
    exact ⟨hs, huser⟩
  · intro h
    exact ⟨row.1, h.1, row.2, h.2, rfl⟩

theorem mem_coursesOf {s : StudentProfile} :
    (∃ c ∈ query.coursesOf db (query.qualifiedTypeIds db) s, c.id = courseId) ↔
      ∃ p ∈ db.courseParticipants.rows, p.studentId = s.id ∧ p.courseId = courseId ∧
        ∃ row, query.Offers db p row := by
  simp only [BookingOptionsQuery.coursesOf, List.mem_filterMap, mem_select, enrolmentsOf,
    Table.mem_findMany, decide_eq_true_eq, Option.map_eq_some_iff, selects_activeEnrolment]
  constructor
  · rintro ⟨_, ⟨p, ⟨⟨hp, hstudent⟩, hoffers⟩, row, hrow, rfl⟩, rfl⟩
    exact ⟨p, hp, hstudent, (Table.key_of_findUnique hrow).symm, hoffers⟩
  · rintro ⟨p, hp, hstudent, rfl, row, hoffers⟩
    have hid : row.id = p.courseId := Table.key_of_findUnique hoffers.found
    exact ⟨bookingOptionCourse row, ⟨p, ⟨⟨hp, hstudent⟩, row, hoffers⟩, row, hoffers.found, rfl⟩,
      hid⟩

/-! ### The student and the course -/

theorem loadStudent_eq_ok (hunique : UniqueProfiles db) :
    loadStudentProfileIdForUser db userId = .ok student ↔
      ∃ s ∈ db.studentProfiles.rows, s.userId = userId ∧ s.id = student ∧
        ∃ user, db.users.findUnique userId = some user ∧ user.deletedAt = none ∧
          user.isActive = true ∧ user.role = .student := by
  simp only [loadStudentProfileIdForUser, except_bind_eq_ok, orThrow_eq_ok, throwIf_eq_ok, ne_eq,
    not_not, Bool.not_eq_false, pure, Except.pure, Except.ok.injEq]
  constructor
  · rintro ⟨user, huser, -, hlive, -, hactive, -, hrole, s, hs, rfl⟩
    obtain ⟨hmem, hid⟩ := Table.mem_of_findFirst hs
    exact ⟨s, hmem, of_decide_eq_true hid, rfl, user, huser, hlive, hactive, hrole⟩
  · rintro ⟨s, hs, rfl, rfl, user, huser, hlive, hactive, hrole⟩
    exact ⟨user, huser, (), hlive, (), hactive, (), hrole, s, findFirst_profile hunique hs, rfl⟩

/-- A student of the school who is searched for, and a course of it that is not theory, whose
booking with one of the instructors passes the rules about the parties. -/
def BookingOptionsQuery.Bookable (query : BookingOptionsQuery) (text : TextRules) (db : Db)
    (userId courseId : Uuid) : Prop :=
  ∃ course student, (∃ instructorId ∈ query.instructorIds,
      PartiesAdmitted db courseId userId instructorId course student) ∧
    course.schoolId = query.schoolId ∧ course.kind ≠ .theoryGroup ∧
    (∃ l ∈ db.studentSchools.rows, l.studentId = student ∧ l.schoolId = query.schoolId) ∧
    ∃ user, db.users.findUnique userId = some user ∧ ∀ c ∈ query.searched text, Selects c user

theorem shown_iff_bookable (hunique : UniqueProfiles db) :
    (∃ row ∈ query.rows db text (query.qualifiedTypeIds db), row.1.userId = userId ∧
        ∃ c ∈ query.coursesOf db (query.qualifiedTypeIds db) row.1, c.id = courseId) ↔
      query.Bookable text db userId courseId := by
  constructor
  · rintro ⟨⟨s, user⟩, hrow, rfl, hcourse⟩
    obtain ⟨hmatched, huser⟩ := mem_rows.mp hrow
    obtain ⟨hs, hlink, ⟨user', huser', hfinds⟩, -⟩ := mem_matched.mp hmatched
    cases huser.symm.trans huser'
    obtain ⟨p, hp, hstudent, rfl, row, hoffers⟩ := mem_coursesOf.mp hcourse
    have hid : row.id = p.courseId := Table.key_of_findUnique hoffers.found
    have hloaded : loadCourseForBooking db p.courseId = .ok row.forBooking := by
      refine (loadCourseForBooking_eq_ok ..).mpr ⟨row, ?_, rfl⟩
      refine Table.findFirst_of_mem (Table.mem_of_findUnique hoffers.found)
        (decide_eq_true ⟨hid, hoffers.live, hoffers.active⟩) fun q hq => ?_
      exact (of_decide_eq_true hq).1.trans hid.symm
    obtain ⟨instructorId, hin, hinstructor⟩ :=
      (mem_qualifiedTypeIds row.forBooking hoffers.school).mp hoffers.qualified
    refine ⟨row.forBooking, s.id, ⟨instructorId, hin, hloaded, ?_, ?_, hinstructor⟩, hoffers.school,
      hoffers.kind, hlink, user, huser, hfinds.searched⟩
    · exact (loadStudent_eq_ok hunique).mpr
        ⟨s, hs, rfl, rfl, user, huser, hfinds.live, hfinds.active, hfinds.role⟩
    · exact participates_eq_ok.mpr ⟨p, hp, hid.symm, hstudent, fun _ => hoffers.status⟩
  · rintro ⟨course, student, ⟨instructorId, hin, hparties⟩, hschool, hkind, hlink, user, huser,
      hsearched⟩
    obtain ⟨row, hrow, rfl⟩ := (loadCourseForBooking_eq_ok ..).mp hparties.course_loaded
    obtain ⟨hmem, hwhere⟩ := Table.mem_of_findFirst hrow
    obtain ⟨rfl, hlive, hactive⟩ := of_decide_eq_true hwhere
    obtain ⟨s, hs, rfl, rfl, user', huser', hdeleted, hisActive, hrole⟩ :=
      (loadStudent_eq_ok hunique).mp hparties.student_loaded
    cases huser.symm.trans huser'
    obtain ⟨p, hp, hpcourse, hpstudent, hpactive⟩ := participates_eq_ok.mp hparties.participates
    have hoffers : query.Offers db p row :=
      ⟨hpactive rfl, hpcourse ▸ Table.findUnique_of_mem hmem, hschool, hlive, hactive, hkind,
        (mem_qualifiedTypeIds _ hschool).mpr ⟨instructorId, hin, hparties.instructor⟩⟩
    refine ⟨(s, user), mem_rows.mpr ⟨mem_matched.mpr ⟨hs, hlink, ⟨user, huser, ?_⟩, ?_⟩, huser⟩,
      rfl, mem_coursesOf.mpr ⟨p, hp, hpstudent, hpcourse, row, hoffers⟩⟩
    · exact ⟨hrole, hisActive, hdeleted, hsearched⟩
    · exact ⟨p, hp, hpstudent, row, hoffers⟩

/-! ### Pages -/

theorem rows_length : (query.rows db text (query.qualifiedTypeIds db)).length =
    (query.matched db text (query.qualifiedTypeIds db)).length := by
  rw [BookingOptionsQuery.rows, List.length_insertionSort, List.length_filterMap_eq_countP,
    List.countP_eq_length]
  intro s hs
  obtain ⟨-, -, ⟨user, huser, -⟩, -⟩ := mem_matched.mp hs
  rw [huser]
  rfl

theorem rows_nodup (hunique : UniqueProfiles db) :
    ((query.rows db text (query.qualifiedTypeIds db)).map fun row => row.1.userId).Nodup := by
  have hrows : db.studentProfiles.rows.Nodup := db.studentProfiles.nodup.of_map
  have hmatched : (query.matched db text (query.qualifiedTypeIds db)).Nodup := hrows.filter _
  rw [BookingOptionsQuery.rows]
  refine ((List.perm_insertionSort _ _).map _).nodup_iff.mpr ?_
  refine List.Nodup.map_on ?_ (hmatched.filterMap ?_)
  · intro a ha b hb hsame
    obtain ⟨s, hs, hauser⟩ := List.mem_filterMap.mp ha
    obtain ⟨s', hs', hbuser⟩ := List.mem_filterMap.mp hb
    obtain ⟨user, huser, rfl⟩ := Option.map_eq_some_iff.mp hauser
    obtain ⟨user', huser', rfl⟩ := Option.map_eq_some_iff.mp hbuser
    obtain rfl : s = s' := hunique s (mem_matched.mp hs).1 s' (mem_matched.mp hs').1 hsame
    cases huser.symm.trans huser'
    rfl
  · intro s s' row hrow hrow'
    obtain ⟨_, -, rfl⟩ := Option.map_eq_some_iff.mp (Option.mem_def.mp hrow)
    obtain ⟨_, -, hpair⟩ := Option.map_eq_some_iff.mp (Option.mem_def.mp hrow')
    exact (Prod.mk.inj hpair).1.symm

def BookingOptionsQuery.pageOf (query : BookingOptionsQuery) (db : Db)
    (rows : List (StudentProfile × User)) : BookingOptions where
  items := ((rows.drop ((query.page - 1) * query.limit)).take query.limit).map
    (query.item db (query.qualifiedTypeIds db))
  total := rows.length
  page := query.page
  limit := query.limit
  totalPages := (rows.length + query.limit - 1) / query.limit

theorem pageOf_items (hlimit : 0 < query.limit) (rows : List (StudentProfile × User)) :
    ((List.range (query.pageOf db rows).totalPages).flatMap fun k =>
        ({ query with page := k + 1 }.pageOf db rows).items) =
      rows.map (query.item db (query.qualifiedTypeIds db)) := by
  have hcut : (batches query.limit rows).flatten = rows := flatten_batches hlimit rows
  calc ((List.range (query.pageOf db rows).totalPages).flatMap fun k =>
        ({ query with page := k + 1 }.pageOf db rows).items)
      = ((batches query.limit rows).map
          (List.map (query.item db (query.qualifiedTypeIds db)))).flatten := by
        rw [List.flatMap_def, batches, List.map_map]
        rfl
    _ = rows.map (query.item db (query.qualifiedTypeIds db)) := by
        rw [← List.map_flatten, hcut]

/-- Without qualified instructors there is nothing to show, as the list is then empty. -/
theorem bookingOptions_ok (query : BookingOptionsQuery) (hlimit : 0 < query.limit)
    {options : BookingOptions} :
    getLessonBookingOptions text db actor query = .ok options ↔
      assertActorCanBookLessonForCourse db actor query.schoolId = .ok () ∧
      (query.instructors db).length = query.instructorIds.dedup.length ∧
      options = query.pageOf db (query.rows db text (query.qualifiedTypeIds db)) := by
  have hlength : (query.matched db text (query.qualifiedTypeIds db)).length =
    (query.rows db text (query.qualifiedTypeIds db)).length := rows_length.symm
  have hbody : (if query.qualifiedTypeIds db = [] then
        { items := [], total := 0, page := query.page, limit := query.limit, totalPages := 0 }
      else { query.pageOf db (query.rows db text (query.qualifiedTypeIds db)) with
        total := (query.matched db text (query.qualifiedTypeIds db)).length
        totalPages := ((query.matched db text (query.qualifiedTypeIds db)).length + query.limit -
          1) / query.limit }) =
      query.pageOf db (query.rows db text (query.qualifiedTypeIds db)) := by
    rw [hlength]
    split
    next h =>
      have hnone : query.rows db text (query.qualifiedTypeIds db) = [] := by
        rw [List.eq_nil_iff_forall_not_mem]
        intro row hrow
        obtain ⟨-, -, -, p, -, -, course, hoffers⟩ := mem_matched.mp (mem_rows.mp hrow).1
        have hqualified := hoffers.qualified
        rw [h] at hqualified
        cases hqualified
      have hpages : (0 + query.limit - 1) / query.limit = 0 := Nat.div_eq_of_lt (by omega)
      rw [hnone, BookingOptionsQuery.pageOf, List.length_nil, List.drop_nil, List.take_nil,
        List.map_nil, hpages]
    next => rfl
  rw [← hbody]
  simp only [getLessonBookingOptions, except_bind_eq_ok, throwIf_eq_ok, ne_eq, not_not]
  constructor
  · rintro ⟨_, hactor, _, hall, h⟩
    refine ⟨hactor, hall, ?_⟩
    split at h
    next hnil =>
      cases h
      exact (if_pos hnil).symm
    next hnil =>
      cases h
      exact (if_neg hnil).symm
  · rintro ⟨hactor, hall, rfl⟩
    refine ⟨(), hactor, (), hall, ?_⟩
    split
    next hnil => exact congrArg Except.ok (if_pos hnil).symm
    next hnil => exact congrArg Except.ok (if_neg hnil).symm

/-- The pages of the form together have every student once, and with a student the courses that can
be booked with one of the instructors: only the time and the vehicle are left to be refused. -/
theorem bookingOptions_exact (hunique : UniqueProfiles db) (hlimit : 0 < query.limit)
    {options : BookingOptions} (h : getLessonBookingOptions text db actor query = .ok options) :
    ∃ pages, (List.range options.totalPages).mapM (fun k =>
        getLessonBookingOptions text db actor { query with page := k + 1 }) = .ok pages ∧
      (pages.flatMap (·.items)).length = options.total ∧
      ((pages.flatMap (·.items)).map (·.userId)).Nodup ∧
      ∀ userId courseId, ((∃ item ∈ pages.flatMap (·.items), item.userId = userId ∧
          ∃ c ∈ item.courses, c.id = courseId) ↔ query.Bookable text db userId courseId) ∧
        (query.Bookable text db userId courseId → ∃ instructorId ∈ query.instructorIds,
          ∃ course student, ∀ env (body : BookLessonBody), body.courseId = courseId →
            body.studentId = userId → body.instructorId = instructorId →
              (Prog.Succeeds (bookLesson env actor body) db ↔
                TimeAndVehicleAdmitted env db body course student)) := by
  obtain ⟨hactor, hall, rfl⟩ := (bookingOptions_ok query hlimit).mp h
  let rows := query.rows db text (query.qualifiedTypeIds db)
  let page (k : ℕ) := { query with page := k + 1 }.pageOf db rows
  let pages := (List.range (query.pageOf db rows).totalPages).map page
  have hpages : pages.flatMap (·.items) = rows.map (query.item db (query.qualifiedTypeIds db)) := by
    rw [List.flatMap_map]
    exact pageOf_items hlimit rows
  refine ⟨pages, ?_, ?_, ?_, fun userId courseId => ⟨?_, fun hbookable => ?_⟩⟩
  · refine mapM_eq_ok_iff.mpr (List.forall₂_map_right_iff.mpr (List.forall₂_same.mpr ?_))
    exact fun k _ => (bookingOptions_ok { query with page := k + 1 } hlimit).mpr ⟨hactor, hall, rfl⟩
  · rw [hpages, List.length_map]
    rfl
  · rw [hpages, List.map_map]
    exact rows_nodup hunique
  · rw [hpages, ← shown_iff_bookable hunique]
    simp only [List.mem_map, exists_exists_and_eq_and]
    rfl
  · obtain ⟨course, student, ⟨instructorId, hin, hparties⟩, hschool, -⟩ := hbookable
    refine ⟨instructorId, hin, course, student, fun env body => ?_⟩
    rintro rfl rfl rfl
    exact hparties.bookLesson_iff (hschool ▸ hactor)

namespace SmallSchool

def bookingForm : BookingOptionsQuery where
  schoolId := 10
  instructorIds := [20]
  limit := 1

end SmallSchool

open SmallSchool in
/-- The second student is on one of two pages, with the course of the school. -/
theorem bookingOptions_exact_second :
    ∃ pages, (List.range 2).mapM (fun k => getLessonBookingOptions plainText SmallSchool.db manager
        { bookingForm with page := k + 1 }) = .ok pages ∧
      ((pages.flatMap (·.items)).map (·.userId)).Nodup ∧
      ∃ item ∈ pages.flatMap (·.items), item.userId = 4 ∧ ∃ c ∈ item.courses, c.id = 50 := by
  obtain ⟨options, h, htotal⟩ : ∃ options, getLessonBookingOptions plainText SmallSchool.db manager
      bookingForm = .ok options ∧ options.totalPages = 2 := ⟨_, rfl, by decide⟩
  have hunique : UniqueProfiles SmallSchool.db := by
    intro p hp q hq hsame
    simp only [SmallSchool.db, List.mem_cons, List.not_mem_nil, or_false] at hp hq
    rcases hp with rfl | rfl <;> rcases hq with rfl | rfl <;> simp_all
  obtain ⟨pages, hpages, -, hnodup, hshown⟩ := bookingOptions_exact hunique (by decide) h
  rw [htotal] at hpages
  refine ⟨pages, hpages, hnodup, (hshown 4 50).1.mpr ?_⟩
  refine ⟨SmallSchool.course.forBooking, 31, ⟨20, by decide, rfl, rfl, rfl, rfl⟩, rfl, by decide,
    by decide, ⟨_, rfl, ?_⟩⟩
  exact fun c hc => absurd hc List.not_mem_nil

end OSK
