import OskManager.Model.InstructorCommands
import OskManager.Schedule.WriteEffects

/-! What editing an instructor leaves: the qualifications it does not take away, and it takes away
none that an obligation needs. -/

namespace OSK

open Relational

variable {env : Env} {db db' : Db}

/-- Lessons and courses are as before, and no instructor has lost a qualification, apart from those
of one instructor that are not among the given ones. -/
structure KeepsQualifications (db db' : Db) (instructorId : Uuid) (ids : Option (List Uuid)) :
    Prop where
  lessons : db'.lessons = db.lessons
  events : db'.instructorEvents = db.instructorEvents
  courses : db'.courses = db.courses
  qualified : ∀ i t, QualifiedFor db i t →
    (i = instructorId → ∀ selectedIds, ids = some selectedIds → t ∈ selectedIds) →
    QualifiedFor db' i t

theorem KeepsQualifications.refl (db : Db) (instructorId : Uuid) :
    KeepsQualifications db db instructorId none := ⟨rfl, rfl, rfl, fun _ _ h _ => h⟩

theorem KeepsQualifications.trans {a b c : Db} {instructorId : Uuid} {ids : Option (List Uuid)}
    (hab : KeepsQualifications a b instructorId none)
    (hbc : KeepsQualifications b c instructorId ids) : KeepsQualifications a c instructorId ids where
  lessons := hbc.lessons.trans hab.lessons
  events := hbc.events.trans hab.events
  courses := hbc.courses.trans hab.courses
  qualified i t h hkept := hbc.qualified i t (hab.qualified i t h nofun) hkept

theorem writeInstructorProfile_ok {instructorId : Uuid} {patch : InstructorPatchInput}
    (h : writeInstructorProfile instructorId patch db = (.ok (), db')) :
    KeepsQualifications db db' instructorId none := by
  rw [writeInstructorProfile, Prog.query_bind_eq_ok] at h
  obtain ⟨_, _, h⟩ := h
  cases Prog.write_eq_ok.mp h
  refine ⟨rfl, rfl, rfl, fun i t hq _ => ?_⟩
  obtain ⟨p, hp, hid, htype⟩ := hq
  refine ⟨_, (Table.mem_updateMany _ _ _ (InstructorProfile.id_patched patch) _).mpr
    ⟨p, hp, rfl⟩, ?_, ?_⟩
  · split
    · exact hid
    · exact hid
  · split
    · exact htype
    · exact htype

theorem writeInstructorUser_ok {userId instructorId : Uuid} {patch : InstructorPatchInput}
    (h : writeInstructorUser userId patch db = (.ok (), db')) :
    KeepsQualifications db db' instructorId none := by
  rw [writeInstructorUser, Prog.query_bind_eq_ok] at h
  obtain ⟨_, _, h⟩ := h
  cases Prog.write_eq_ok.mp h
  exact ⟨rfl, rfl, rfl, fun i t hq _ => hq⟩

theorem writeQualifications_ok {instructorId : Uuid} {ids : List Uuid}
    (h : writeQualifications instructorId ids db = (.ok (), db')) :
    KeepsQualifications db db' instructorId (some ids) := by
  cases Prog.write_eq_ok.mp h
  refine ⟨rfl, rfl, rfl, fun i t hq hkept => ?_⟩
  obtain ⟨p, hp, rfl, htype⟩ := hq
  refine ⟨_, (Table.mem_updateMany _ _ _ (InstructorProfile.id_withQualifications ids) _).mpr
    ⟨p, hp, rfl⟩, ?_, ?_⟩
  · split
    · exact InstructorProfile.id_withQualifications ids p
    · rfl
  · split
    · next hid => exact hkept (of_decide_eq_true hid) ids rfl
    · exact htype

theorem writeInstructorPatch_ok {actor : Actor} {profile : InstructorProfile}
    {patch : InstructorPatchInput} {result : InstructorPatchResult}
    (h : writeInstructorPatch env actor profile patch db = (.ok result, db')) :
    ∃ current, activeInstructorProfile db profile.id = some current ∧
      assertQualificationsCanChange env db current patch.qualifiedCourseTypeIds = .ok () ∧
      KeepsQualifications db db' profile.id patch.qualifiedCourseTypeIds := by
  simp only [writeInstructorPatch, Prog.transaction_eq_ok, Prog.query_bind_eq_ok,
    orThrow_eq_ok] at h
  obtain ⟨current, hcurrent, _, _, _, hguard, h⟩ := h
  refine ⟨current, hcurrent, hguard, ?_⟩
  simp only [Prog.bind_eq_ok, Prog.when_eq_ok, Prog.whenSome_eq_ok, Prog.query_eq_ok] at h
  obtain ⟨_, s, hs, _, t, ht, _, u, hu, _, rfl⟩ := h
  have hprofile : KeepsQualifications db s profile.id none := by
    rcases hs with ⟨_, hs⟩ | ⟨_, rfl⟩
    · exact writeInstructorProfile_ok hs
    · exact KeepsQualifications.refl db _
  have huser : KeepsQualifications s t profile.id none := by
    rcases ht with ⟨_, ht⟩ | ⟨_, rfl⟩
    · exact writeInstructorUser_ok ht
    · exact KeepsQualifications.refl s _
  refine (hprofile.trans huser).trans ?_
  rcases hu with ⟨hnone, rfl⟩ | ⟨ids, hids, hu⟩
  · rw [hnone]
    exact KeepsQualifications.refl t _
  · rw [hids]
    exact writeQualifications_ok hu

/-- The checks of an edit of an instructor pass, and `current` is his row. -/
structure InstructorEditPasses (env : Env) (actor : Actor) (instructorId : Uuid)
    (patch : InstructorPatchInput) (db : Db) (current : InstructorProfile) : Prop where
  staff : assertActorCanManageInstructors actor = .ok ()
  found : activeInstructorProfile db instructorId = some current
  owned : assertManagerOwnsInstructorSchool db actor current.id = .ok ()
  types_exist : assertQualifiedCourseTypeIdsExist db patch.qualifiedCourseTypeIds = .ok ()
  guard : assertQualificationsCanChange env db current patch.qualifiedCourseTypeIds = .ok ()

theorem InstructorEditPasses.mem {actor : Actor} {instructorId : Uuid}
    {patch : InstructorPatchInput} {current : InstructorProfile}
    (h : InstructorEditPasses env actor instructorId patch db current) :
    current ∈ db.instructorProfiles.rows ∧ current.id = instructorId := by
  obtain ⟨hmem, hwhere⟩ := Table.mem_of_findFirst h.found
  exact ⟨hmem, (of_decide_eq_true hwhere).1⟩

theorem updateInstructor_store (env : Env) (actor : Actor) (instructorId : Uuid)
    (patch : InstructorPatchInput) (db : Db) :
    (updateInstructorForManagerOrAdmin env actor instructorId patch db).2 = db ∨
      ∃ current, InstructorEditPasses env actor instructorId patch db current ∧
        KeepsQualifications db (updateInstructorForManagerOrAdmin env actor instructorId patch db).2
          current.id patch.qualifiedCourseTypeIds := by
  rw [updateInstructorForManagerOrAdmin, Prog.query_bind_run]
  split
  · next profile hprofile =>
    simp only [except_bind_eq_ok, orThrow_eq_ok] at hprofile
    obtain ⟨_, hstaff, found, hfound, _, howned, heq⟩ := hprofile
    cases heq
    have hid : profile.id = instructorId :=
      (of_decide_eq_true (Table.mem_of_findFirst hfound).2).1
    split
    · rw [Prog.query_bind_run]
      split
      · next _ hexist =>
        rcases Prog.transaction_cases (writeInstructorPatch env actor profile patch) rfl db with
          ⟨_, h⟩ | h
        · obtain ⟨current, hcurrent, hguard, hkeeps⟩ := writeInstructorPatch_ok h
          rw [hid, hfound] at hcurrent
          cases hcurrent
          exact Or.inr ⟨profile, ⟨hstaff, hfound, howned, hexist, hguard⟩, hkeeps⟩
        · exact Or.inl h
      · exact Or.inl rfl
    · exact Or.inl rfl
  · exact Or.inl rfl

/-! ### The guard -/

/-- What needs the instructor to be qualified for the course: pending lessons, or the course. -/
inductive QualificationNeeded (now : Instant) (db : Db) (instructorId : Uuid) (c : Course) :
    Prop where
  | lesson (l : Lesson) (hl : l ∈ db.lessons.rows) (hinstructor : l.instructorId = instructorId)
      (hpending : l.isPending now = true) (hcourse : db.courses.findUnique l.courseId = some c)
      (hopen : c.deletedAt = none)
  | course (hc : c ∈ db.courses.rows) (hinstructor : c.instructorId = some instructorId)
      (hopen : c.deletedAt = none) (hactive : c.status = "active")

/-- What the guard has found of a category that is taken away: no lesson, no event and no course
that needs it, where the course is not deleted. -/
theorem removedQualification_unused {current : InstructorProfile} {ids : List Uuid} {t : Uuid}
    (hguard : assertQualificationsCanChange env db current (some ids) = .ok ())
    (hqualified : t ∈ current.qualifiedCourseTypes) (hremoved : t ∉ ids) :
    (∀ l ∈ db.lessons.rows, l.instructorId = current.id → l.isPending env.now = true →
      db.openCourseIsOfTypes [t] l.courseId = false) ∧
    (∀ e ∈ db.instructorEvents.rows, e.instructorId = current.id → e.isPending env.now = true →
      e.courseId.any (db.openCourseIsOfTypes [t]) = false) ∧
    ∀ c ∈ db.courses.rows, c.instructorId = some current.id → c.courseTypeId = t →
      c.deletedAt = none → c.status ≠ "active" := by
  simp only [assertQualificationsCanChange, forSome, Option.elim_some, throwIf_eq_ok, not_and,
    not_or, ne_eq, not_not, Table.count, List.length_eq_zero_iff, Table.findMany] at hguard
  have hmem : t ∈ current.qualifiedCourseTypes.filter fun t => decide (t ∉ ids) :=
    List.mem_filter.mpr ⟨hqualified, decide_eq_true hremoved⟩
  obtain ⟨hlessons, hevents, hcourses⟩ := hguard (List.ne_nil_of_mem hmem)
  rw [List.filter_eq_nil_iff] at hlessons hevents hcourses
  generalize (current.qualifiedCourseTypes.filter fun t => decide (t ∉ ids)) = removed at *
  have hof {courseId : Uuid} (h : db.openCourseIsOfTypes [t] courseId = true) :
      db.openCourseIsOfTypes removed courseId = true := by
    simp only [Db.openCourseIsOfTypes, Option.any_eq_true, decide_eq_true_eq,
      List.mem_singleton] at h ⊢
    obtain ⟨c, hc, rfl, hopen⟩ := h
    exact ⟨c, hc, hmem, hopen⟩
  refine ⟨fun l hl hinstructor hpending => ?_, fun e he hinstructor hpending => ?_,
    fun c hc hinstructor htype hopen hactive => ?_⟩
  · rw [Bool.eq_false_iff]
    intro h
    exact hlessons l hl (by simp [hinstructor, hpending, hof h])
  · rw [Bool.eq_false_iff, ne_eq, Option.any_eq_true]
    intro h
    obtain ⟨courseId, hcourse, h⟩ := h
    exact hevents e he (by simp [hinstructor, hpending, hcourse, hof h])
  · subst htype
    exact hcourses c hc (decide_eq_true ⟨hinstructor, hmem, hopen, hactive⟩)

theorem neededQualification_kept {current : InstructorProfile} {ids : List Uuid} {c : Course}
    (hguard : assertQualificationsCanChange env db current (some ids) = .ok ())
    (hqualified : c.courseTypeId ∈ current.qualifiedCourseTypes)
    (hneeded : QualificationNeeded env.now db current.id c) : c.courseTypeId ∈ ids := by
  by_contra hremoved
  obtain ⟨hlessons, _, hcourses⟩ := removedQualification_unused hguard hqualified hremoved
  cases hneeded with
  | lesson l hl hinstructor hpending hcourse hopen =>
    have hunused := hlessons l hl hinstructor hpending
    rw [Db.openCourseIsOfTypes, hcourse, Option.any_some] at hunused
    exact of_decide_eq_false hunused ⟨List.mem_singleton_self _, hopen⟩
  | course hc hinstructor hopen hactive => exact hcourses c hc hinstructor rfl hopen hactive

end OSK
