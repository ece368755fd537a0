import OskManager.Model.Courses

/-! What the writes of courses do: a new course has an instructor that may teach it, and a course
keeps its structure once it has activity. -/

namespace OSK

open Relational

variable {db db' : Db}

theorem getSchoolOwnedByUser_isSome {userId schoolId : Uuid}
    (h : (getSchoolOwnedByUser db userId schoolId).isSome = true) :
    ∃ s ∈ db.drivingSchools.rows, s.id = schoolId ∧ s.deletedAt = none ∧ s.ownerId = userId := by
  obtain ⟨s, hs⟩ := Option.isSome_iff_exists.mp h
  obtain ⟨hfound, hs⟩ := Option.filter_eq_some_iff.mp hs
  obtain ⟨hdeleted, howner⟩ := of_decide_eq_true hs
  exact ⟨s, Table.mem_of_findUnique hfound, Table.key_of_findUnique hfound, hdeleted, howner⟩

/-! ### Adding -/

section Adding

variable {env : Env} {userId : Uuid} {body : CreateCourseBody}

/-- The rules of a new course that speak of its school and its instructor. -/
structure CreateCourseRules (userId : Uuid) (body : CreateCourseBody) (db : Db)
    (courseType : CourseType) : Prop where
  school : (getSchoolOwnedByUser db userId body.schoolId).isSome = true
  qualified : ∀ instructorId, body.instructorId = some instructorId →
    assertInstructorQualifiedForCourseType db instructorId courseType.id = .ok ()

theorem createCourseForUser_ok {dto : CreatedCourseDto}
    (h : createCourseForUser env userId body db = (.ok dto, db')) :
    ∃ courseType, CreateCourseRules userId body db courseType ∧
      db' = db.insertCourse env body courseType := by
  simp only [createCourseForUser, Prog.query_bind_eq_ok] at h
  obtain ⟨_, hschool, _, _, _, _, courseType, _, _, hqualified, _, _, h⟩ := h
  simp only [Prog.bind_eq_ok, Prog.write_eq_ok, Prog.pure_eq_ok] at h
  obtain ⟨_, _, rfl, _, rfl⟩ := h
  simp only [throwIf_eq_ok, Bool.not_eq_true, Option.isNone_eq_false_iff] at hschool
  rw [forSome_eq_ok] at hqualified
  exact ⟨courseType, ⟨hschool, hqualified⟩, rfl⟩

theorem mem_insertCourse {courseType : CourseType} {c : Course} :
    c ∈ (db.insertCourse env body courseType).courses.rows ↔
      c ∈ db.courses.rows ∨ c = db.nextCourse env body courseType :=
  Table.mem_insert db.courses _ (db.fresh_course_key env) c

theorem findUnique_insertCourse (courseType : CourseType) (id : Uuid) :
    (db.insertCourse env body courseType).courses.findUnique id =
      if id = (db.nextCourse env body courseType).id then some (db.nextCourse env body courseType)
      else db.courses.findUnique id :=
  Table.findUnique_insert _ _ (db.fresh_course_key env) _

theorem findUnique_insertCourse_of_some {courseType : CourseType} {id : Uuid} {c : Course}
    (h : db.courses.findUnique id = some c) :
    (db.insertCourse env body courseType).courses.findUnique id = some c := by
  rw [findUnique_insertCourse, if_neg, h]
  intro hid
  have hkey := (Table.mem_keys _ _).mpr ⟨c, Table.mem_of_findUnique h, Table.key_of_findUnique h⟩
  rw [hid] at hkey
  exact db.fresh_course_key env hkey

/-- Nobody is enrolled in a new course. -/
theorem no_enrolment_of_fresh {courseType : CourseType} {p : CourseParticipant}
    (hp : p ∈ db.courseParticipants.rows) :
    p.courseId ≠ (db.nextCourse env body courseType).id := by
  intro hid
  have hused : p.courseId ∈ db.takenCourseIds :=
    List.mem_append_right _ (List.mem_append_left _ (List.mem_map_of_mem hp))
  rw [hid] at hused
  exact env.uuid_fresh db.takenCourseIds hused

theorem createCourseForUser_fails (env : Env) (userId : Uuid) (body : CreateCourseBody) :
    Prog.FailsWithin (fun s t => t = s) (createCourseForUser env userId body) := by
  have hquery {α β : Type} {f : Db → Except Failure α} {g : α → Service β}
      (hg : ∀ a, Prog.FailsWithin (fun s t => t = s) (g a)) :
      Prog.FailsWithin (fun s t => t = s) (Prog.query f >>= g) :=
    Prog.FailsWithin.query_bind (R := fun s t => t = s) (fun _ => rfl) hg
  refine hquery fun _ => hquery fun _ => hquery fun _ => ?_
  refine hquery fun _ => hquery fun _ => hquery fun _ => ?_
  exact Prog.FailsWithin.map (Prog.FailsWithin.write _) _

end Adding

/-! ### Editing -/

section Editing

variable {userId courseId : Uuid} {body : PatchCourseBody}

/-- The rules of an edit. -/
structure PatchCourseRules (userId : Uuid) (body : PatchCourseBody) (courseId : Uuid) (db : Db)
    (row : Course) (courseTypeId : Uuid) : Prop where
  owned : findOwnedCourse db userId courseId = .ok row
  allowed : assertCoursePatchAllowed db row body = .ok ()
  courseType : patchedCourseTypeId db row body = .ok courseTypeId
  kind : assertCourseKindEnabled db row body = .ok ()
  instructor : assertCourseInstructorAllowed db row body courseTypeId = .ok ()

theorem findOwnedCourse_ok {row : Course} (h : findOwnedCourse db userId courseId = .ok row) :
    db.courses.findUnique courseId = some row ∧ row.deletedAt = none := by
  simp only [findOwnedCourse, except_bind_eq_ok, orThrow_eq_ok, throwIf_eq_ok, ne_eq,
    not_not] at h
  obtain ⟨row', hfound, _, hlive, _, _, _, _, h⟩ := h
  cases h
  exact ⟨hfound, hlive⟩

theorem PatchCourseRules.found {courseTypeId : Uuid} {row : Course}
    (h : PatchCourseRules userId body courseId db row courseTypeId) :
    db.courses.findUnique courseId = some row := (findOwnedCourse_ok h.owned).1

theorem PatchCourseRules.live {courseTypeId : Uuid} {row : Course}
    (h : PatchCourseRules userId body courseId db row courseTypeId) : row.deletedAt = none :=
  (findOwnedCourse_ok h.owned).2

theorem writeCoursePatch_ok (h : writeCoursePatch userId courseId body db = (.ok (), db')) :
    ∃ row courseTypeId, PatchCourseRules userId body courseId db row courseTypeId ∧
      db' = db.patchCourse courseId body courseTypeId := by
  simp only [writeCoursePatch, Prog.transaction_eq_ok, Prog.query_bind_eq_ok,
    Prog.write_eq_ok] at h
  obtain ⟨row, hrow, _, hallowed, courseTypeId, htype, _, hkind, _, hinstructor, rfl⟩ := h
  exact ⟨row, courseTypeId, ⟨hrow, hallowed, htype, hkind, hinstructor⟩, rfl⟩

theorem writeCoursePatch_fails (userId courseId : Uuid) (body : PatchCourseBody) :
    Prog.FailsWithin (fun s t => t = s) (writeCoursePatch userId courseId body) :=
  Prog.FailsWithin.unchanged _

/-- A call leaves the courses as they were, or edits one of them. -/
theorem patchCourseForOwner_store (userId courseId : Uuid) (body : PatchCourseBody) (db : Db) :
    (patchCourseForOwner userId courseId body db).2 = db ∨
      ∃ row courseTypeId, PatchCourseRules userId body courseId db row courseTypeId ∧
        (patchCourseForOwner userId courseId body db).2 =
          db.patchCourse courseId body courseTypeId := by
  have hwrite : (patchCourseForOwner userId courseId body db).2 =
      (Prog.when (!body.isEmpty) (writeCoursePatch userId courseId body) db).2 := by
    rw [patchCourseForOwner, Prog.bind_run]
    rcases Prog.when (!body.isEmpty) (writeCoursePatch userId courseId body) db with ⟨_ | _, _⟩
    · rfl
    · rfl
  rw [hwrite]
  cases !body.isEmpty with
  | false => exact Or.inl rfl
  | true =>
    rcases (writeCoursePatch_fails userId courseId body).cases db with ⟨_, h⟩ | h
    · obtain ⟨row, courseTypeId, hrules, hdb⟩ := writeCoursePatch_ok h
      exact Or.inr ⟨row, courseTypeId, hrules, hdb⟩
    · exact Or.inl h

theorem findUnique_patchCourse (courseId courseTypeId : Uuid) (body : PatchCourseBody) (id : Uuid) :
    (db.patchCourse courseId body courseTypeId).courses.findUnique id =
      if id = courseId then (db.courses.findUnique id).map (Course.patched body courseTypeId)
      else db.courses.findUnique id :=
  Table.findUnique_update _ _ _ (Course.id_patched body courseTypeId) _

/-- The row of an edit, and the others as they were. -/
theorem PatchCourseRules.mem_cases {courseTypeId : Uuid} {row c : Course}
    (h : PatchCourseRules userId body courseId db row courseTypeId)
    (hc : c ∈ (db.patchCourse courseId body courseTypeId).courses.rows) :
    (c ∈ db.courses.rows ∧ c.id ≠ courseId) ∨ c = row.patched body courseTypeId :=
  Table.mem_update_cases (Course.id_patched body courseTypeId) h.found hc

/-- The structure changes only before there is activity. -/
theorem PatchCourseRules.no_activity {courseTypeId : Uuid} {row : Course}
    (h : PatchCourseRules userId body courseId db row courseTypeId)
    (hchange : body.structuralChange row = true) : courseHasActivity db courseId = false := by
  have hallowed := h.allowed
  simp only [assertCoursePatchAllowed, except_bind_eq_ok, throwIf_eq_ok, not_and,
    Bool.not_eq_true] at hallowed
  obtain ⟨_, _, _, _, _, hactivity, _⟩ := hallowed
  rw [Table.key_of_findUnique h.found] at hactivity
  exact hactivity hchange

/-- The category is part of the structure. -/
theorem PatchCourseRules.courseType_kept {courseTypeId : Uuid} {row : Course}
    (h : PatchCourseRules userId body courseId db row courseTypeId) :
    courseTypeId = row.courseTypeId ∨ courseHasActivity db courseId = false := by
  have htype := h.courseType
  unfold patchedCourseTypeId at htype
  split at htype
  · next hcategory =>
    refine Or.inr (h.no_activity ?_)
    rw [PatchCourseBody.structuralChange, decide_eq_true_eq]
    exact Or.inr (Or.inl hcategory)
  · cases htype
    exact Or.inl rfl

theorem PatchCourseRules.courseTypeId_patched {courseTypeId : Uuid} {row : Course}
    (h : PatchCourseRules userId body courseId db row courseTypeId) :
    (row.patched body courseTypeId).courseTypeId = courseTypeId := by
  by_cases hcategory : body.category ≠ none
  · exact if_pos hcategory
  · have htype := h.courseType
    have hsame : body.nextCategory row = row.category := by
      rw [PatchCourseBody.nextCategory, not_not.mp hcategory, Option.getD_none]
    rw [patchedCourseTypeId, if_neg (not_not.mpr hsame)] at htype
    cases htype
    exact if_neg hcategory

/-- The instructor after an edit has passed the rule, or has the course with the same category. -/
theorem PatchCourseRules.instructor_patched {courseTypeId instructorId : Uuid} {row : Course}
    (h : PatchCourseRules userId body courseId db row courseTypeId)
    (hi : (row.patched body courseTypeId).instructorId = some instructorId) :
    assertInstructorQualifiedForCourseType db instructorId courseTypeId = .ok () ∨
      (row.instructorId = some instructorId ∧ courseTypeId = row.courseTypeId) := by
  have hallowed := h.instructor
  have hi' : body.instructorId.getD row.instructorId = some instructorId := hi
  unfold assertCourseInstructorAllowed at hallowed
  rcases hbody : body.instructorId with _ | nextInstructorId
  · rw [hbody, Option.getD_none] at hi'
    rw [hbody] at hallowed
    simp only [onlyIf_eq_ok, forSome_eq_ok] at hallowed
    by_cases htype : courseTypeId = row.courseTypeId
    · exact Or.inr ⟨hi', htype⟩
    · exact Or.inl (hallowed htype instructorId hi')
  · rw [hbody, Option.getD_some] at hi'
    rw [hbody] at hallowed
    simp only [forSome_eq_ok, except_bind_eq_ok] at hallowed
    obtain ⟨_, _, hqualified⟩ := hallowed instructorId hi'
    exact Or.inl hqualified

theorem no_lesson_of_no_activity (h : courseHasActivity db courseId = false) {l : Lesson}
    (hl : l ∈ db.lessons.rows) (hdeleted : l.deletedAt = none) : l.courseId ≠ courseId := by
  simp only [courseHasActivity, Bool.or_eq_false_iff, decide_eq_false_iff_not, ne_eq, not_not,
    Table.count, List.length_eq_zero_iff, Table.findMany, List.filter_eq_nil_iff,
    decide_eq_true_eq] at h
  exact fun hcourse => h.1.2 l hl ⟨hcourse, hdeleted⟩

theorem no_event_of_no_activity (h : courseHasActivity db courseId = false) {e : InstructorEvent}
    (he : e ∈ db.instructorEvents.rows) : e.courseId ≠ some courseId := by
  simp only [courseHasActivity, Bool.or_eq_false_iff, decide_eq_false_iff_not, ne_eq, not_not,
    Table.count, List.length_eq_zero_iff, Table.findMany, List.filter_eq_nil_iff,
    decide_eq_true_eq] at h
  exact h.2 e he

end Editing

/-! ### Deleting -/

theorem findUnique_deleteCourse (now : Instant) (courseId id : Uuid) :
    (db.deleteCourse now courseId).courses.findUnique id =
      if id = courseId then (db.courses.findUnique id).map (Course.deleted now)
      else db.courses.findUnique id :=
  Table.findUnique_update _ _ _ (Course.id_deleted now) _

/-- A call deletes a course without lessons and events, or leaves everything as it was. -/
theorem deleteEmptyCourseForOwner_store (env : Env) (userId courseId : Uuid) (db : Db) :
    (deleteEmptyCourseForOwner env userId courseId db).2 = db ∨
      (∀ l ∈ db.lessons.rows, l.courseId ≠ courseId) ∧
        (deleteEmptyCourseForOwner env userId courseId db).2 =
          db.deleteCourse env.now courseId := by
  rcases Prog.transaction_cases (deleteEmptyCourseForOwner env userId courseId) rfl db with
    ⟨_, h⟩ | h
  · rw [deleteEmptyCourseForOwner, Prog.transaction_eq_ok] at h
    simp only [Prog.query_bind_eq_ok, Prog.write_eq_ok] at h
    obtain ⟨_, _, _, hempty, hdb⟩ := h
    simp only [assertCourseEmpty, except_bind_eq_ok, throwIf_eq_ok, ne_eq, not_not, Table.count,
      List.length_eq_zero_iff, Table.findMany, List.filter_eq_nil_iff, decide_eq_true_eq] at hempty
    obtain ⟨_, _, _, hlessons, _⟩ := hempty
    exact Or.inr ⟨hlessons, hdb.symm⟩
  · exact Or.inl h

end OSK
