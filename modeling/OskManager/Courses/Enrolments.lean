import OskManager.Model.CourseParticipants

/-! What the writes of enrolments do: a call adds one active enrolment, or changes the status of one
that is there. -/

namespace OSK

open Relational

variable {db : Db} {actor : Actor} {studentUserId courseId : Uuid}

/-- An enrolment adds the active row it has prepared, or leaves everything as it was. -/
theorem assignStudentToCourseForStaff_store (actor : Actor) (studentUserId courseId : Uuid)
    (db : Db) : (assignStudentToCourseForStaff actor studentUserId courseId db).2 = db ∨
      ∃ (p : CourseParticipant) (hfresh : (p.courseId, p.studentId) ∉ db.courseParticipants.keys),
        prepareEnrolment db actor studentUserId courseId = .ok p ∧
        (assignStudentToCourseForStaff actor studentUserId courseId db).2 =
          { db with courseParticipants := db.courseParticipants.insert p hfresh } := by
  simp only [assignStudentToCourseForStaff, Prog.bind_run, Prog.query]
  cases hp : prepareEnrolment db actor studentUserId courseId with
  | error e => exact Or.inl rfl
  | ok p =>
    dsimp only [createCourseParticipant]
    split
    · exact Or.inl rfl
    · next hfresh => exact Or.inr ⟨p, hfresh, rfl, rfl⟩

theorem prepareEnrolment_ok {p : CourseParticipant}
    (h : prepareEnrolment db actor studentUserId courseId = .ok p) :
    ∃ studentId, loadActiveStudentProfileId db studentUserId = .ok studentId ∧
      p = { courseId, studentId } := by
  simp only [prepareEnrolment, except_bind_eq_ok, pure, Except.pure, Except.ok.injEq] at h
  obtain ⟨_, _, studentId, hstudent, _, _, _, _, _, _, rfl⟩ := h
  exact ⟨studentId, hstudent, rfl⟩

/-- A change of status rewrites the enrolment it has found, or leaves everything as it was. -/
theorem patchCourseParticipantStatusForStaff_store (actor : Actor) (studentUserId courseId : Uuid)
    (status : CourseParticipantStatus) (db : Db) :
    (patchCourseParticipantStatusForStaff actor studentUserId courseId status db).2 = db ∨
      ∃ existing, prepareParticipantStatus db actor studentUserId courseId = .ok existing ∧
        (patchCourseParticipantStatusForStaff actor studentUserId courseId status db).2 =
          db.setParticipantStatus courseId existing.studentId status := by
  simp only [patchCourseParticipantStatusForStaff, Prog.bind_run, Prog.query]
  cases hp : prepareParticipantStatus db actor studentUserId courseId with
  | error e => exact Or.inl rfl
  | ok existing => exact Or.inr ⟨existing, rfl, rfl⟩

/-- The enrolment found is stored, and its student has a profile of the user. -/
theorem prepareParticipantStatus_ok {existing : CourseParticipant}
    (h : prepareParticipantStatus db actor studentUserId courseId = .ok existing) :
    existing ∈ db.courseParticipants.rows ∧ existing.courseId = courseId ∧
      ∃ profile ∈ db.studentProfiles.rows, profile.userId = studentUserId ∧
        profile.id = existing.studentId := by
  simp only [prepareParticipantStatus, except_bind_eq_ok, orThrow_eq_ok] at h
  obtain ⟨_, _, _, _, _, _, profile, hprofile, _, _, _, _, hfound⟩ := h
  obtain ⟨hmem, hwhere⟩ := Table.mem_of_findFirst hprofile
  have hkey := Table.key_of_findUnique hfound
  rw [Prod.mk.injEq] at hkey
  exact ⟨Table.mem_of_findUnique hfound, hkey.1, profile, hmem, of_decide_eq_true hwhere,
    hkey.2.symm⟩

end OSK
