import OskManager.Accounts.AccountWrites
import OskManager.Accounts.LiveStudents
import OskManager.Lib.Timeline
import OskManager.Schedule.WriteEffects

/-! The obligations of an account: work that lies ahead, and courses that go on. What one write
may give to whom, so that no archived account has any, and what the guard of archiving finds. -/

namespace OSK

open Relational

/-! ### Obligations -/

/-- A profile of an account, by its id. -/
inductive Profile where
  | student (id : Uuid)
  | instructor (id : Uuid)

def Profile.BelongsTo (db : Db) (userId : Uuid) : Profile → Prop
  | .student id => ∃ p ∈ db.studentProfiles.rows, p.id = id ∧ p.userId = userId
  | .instructor id => ∃ p ∈ db.instructorProfiles.rows, p.id = id ∧ p.userId = userId

/-- The profile that the archiving of an account of the role looks at. -/
def Profile.OfRole (role : Role) : Profile → Prop
  | .student _ => role = .student
  | .instructor _ => role ≠ .student

def Profile.Archived (db : Db) (p : Profile) : Prop :=
  ∃ u ∈ db.users.rows, u.deletedAt ≠ none ∧ p.BelongsTo db u.id

def Lesson.LiesAhead (now : Instant) (l : Lesson) : Prop :=
  l.deletedAt = none ∧ l.status ≠ .cancelled ∧ now < l.startTime

def InstructorEvent.LiesAhead (now : Instant) (e : InstructorEvent) : Prop :=
  e.isActive = true ∧ e.status ≠ .cancelled ∧ now < e.startTime

/-- The work that keeps an account from being archived. -/
inductive Obliged (now : Instant) (db : Db) : Profile → Prop where
  | lessonStudent (l : Lesson) (hl : l ∈ db.lessons.rows) (ahead : l.LiesAhead now) :
      Obliged now db (.student l.studentId)
  | lessonInstructor (l : Lesson) (hl : l ∈ db.lessons.rows) (ahead : l.LiesAhead now) :
      Obliged now db (.instructor l.instructorId)
  | eventInstructor (e : InstructorEvent) (he : e ∈ db.instructorEvents.rows)
      (ahead : e.LiesAhead now) : Obliged now db (.instructor e.instructorId)
  | eventParticipant (e : InstructorEvent) (he : e ∈ db.instructorEvents.rows)
      (ahead : e.LiesAhead now) (s : Uuid) (hs : (e.id, s) ∈ db.eventParticipants.keys) :
      Obliged now db (.student s)
  | courseParticipant (p : CourseParticipant) (hp : p ∈ db.courseParticipants.rows)
      (active : p.status = .active) (c : Course)
      (found : db.courses.findUnique p.courseId = some c) (live : c.deletedAt = none) :
      Obliged now db (.student p.studentId)
  | courseInstructor (c : Course) (hc : c ∈ db.courses.rows) (live : c.deletedAt = none)
      (active : c.status = "active") (i : Uuid) (hi : c.instructorId = some i) :
      Obliged now db (.instructor i)

/-- No archived account has work ahead. -/
def ArchivedFree (now : Instant) (db : Db) : Prop :=
  ∀ p : Profile, p.Archived db → ¬Obliged now db p

/-- All rows are of one school, and what the schema says of the rows. -/
structure OneSchool (schoolId : Uuid) (db : Db) : Prop where
  schools : ∀ s ∈ db.drivingSchools.rows, s.id = schoolId
  studentLinks : ∀ l ∈ db.studentSchools.rows, l.schoolId = schoolId
  instructorLinks : ∀ l ∈ db.instructorSchools.rows, l.schoolId = schoolId
  courses : ∀ c ∈ db.courses.rows, c.schoolId = schoolId
  events : ∀ e ∈ db.instructorEvents.rows, e.schoolId = schoolId
  lessonCourses : ∀ l ∈ db.lessons.rows, ∃ c, db.courses.findUnique l.courseId = some c
  oneStudent : (db.studentProfiles.rows.map StudentProfile.userId).Nodup
  oneInstructor : (db.instructorProfiles.rows.map InstructorProfile.userId).Nodup

/-! ### Time -/

theorem Obliged.earlier {now t : Instant} {db : Db} {p : Profile} (hle : now ≤ t)
    (h : Obliged t db p) : Obliged now db p := by
  cases h with
  | lessonStudent l hl ahead =>
    exact .lessonStudent l hl ⟨ahead.1, ahead.2.1, hle.trans_lt ahead.2.2⟩
  | lessonInstructor l hl ahead =>
    exact .lessonInstructor l hl ⟨ahead.1, ahead.2.1, hle.trans_lt ahead.2.2⟩
  | eventInstructor e he ahead =>
    exact .eventInstructor e he ⟨ahead.1, ahead.2.1, hle.trans_lt ahead.2.2⟩
  | eventParticipant e he ahead s hs =>
    exact .eventParticipant e he ⟨ahead.1, ahead.2.1, hle.trans_lt ahead.2.2⟩ s hs
  | courseParticipant p hp active c found live => exact .courseParticipant p hp active c found live
  | courseInstructor c hc live active i hi => exact .courseInstructor c hc live active i hi

section Work

variable {env : Env} {now : Instant} {schoolId : Uuid} {db db' : Db}

theorem StudentLive.not_archived {studentId : Uuid} (h : StudentLive db studentId) :
    ¬(Profile.student studentId).Archived db := by
  intro harchived
  obtain ⟨p, hp, rfl, u, hu, hlive⟩ := h
  obtain ⟨v, hv, hdeleted, q, hq, hid, huser⟩ := harchived
  obtain rfl := db.studentProfiles.key_inj hq hp hid
  have huv : v = u := Option.some_inj.mp ((Table.findUnique_of_mem hv).symm.trans (huser ▸ hu))
  exact hdeleted (huv ▸ hlive)

theorem InstructorActive.not_archived {instructorId : Uuid} (h : InstructorActive db instructorId) :
    ¬(Profile.instructor instructorId).Archived db := by
  intro harchived
  obtain ⟨p, hp, rfl, hactive⟩ := h
  obtain ⟨v, hv, hdeleted, q, hq, hid, huser⟩ := harchived
  obtain rfl := db.instructorProfiles.key_inj hq hp hid
  rw [InstructorProfile.hasActiveUser, huser, Table.findUnique_of_mem hv, Option.any_some] at hactive
  exact hdeleted (of_decide_eq_true hactive).2.1

/-- The profile has such work already, or is of an account that is not archived. -/
def MayWork (now : Instant) (db : Db) (p : Profile) : Prop := Obliged now db p ∨ ¬p.Archived db

theorem Lesson.mayWork {l : Lesson} (hl : l ∈ db.lessons.rows) (ahead : l.LiesAhead now) :
    MayWork now db (.student l.studentId) ∧ MayWork now db (.instructor l.instructorId) :=
  ⟨Or.inl (.lessonStudent l hl ahead), Or.inl (.lessonInstructor l hl ahead)⟩

theorem InstructorEvent.mayWork {e : InstructorEvent} (he : e ∈ db.instructorEvents.rows)
    (ahead : e.LiesAhead now) : MayWork now db (.instructor e.instructorId) ∧
      ∀ s, (e.id, s) ∈ db.eventParticipants.keys → MayWork now db (.student s) :=
  ⟨Or.inl (.eventInstructor e he ahead), fun s hs => Or.inl (.eventParticipant e he ahead s hs)⟩

/-- The accounts are as they were, still in one school, and the work that is there now is of those
who may have it. -/
structure Harmless (schoolId : Uuid) (now : Instant) (db db' : Db) : Prop where
  users : db'.users = db.users
  studentProfiles : db'.studentProfiles = db.studentProfiles
  instructorProfiles : db'.instructorProfiles = db.instructorProfiles
  school : OneSchool schoolId db'
  lessons : ∀ l ∈ db'.lessons.rows, l.LiesAhead now →
    MayWork now db (.student l.studentId) ∧ MayWork now db (.instructor l.instructorId)
  events : ∀ e ∈ db'.instructorEvents.rows, e.LiesAhead now →
    MayWork now db (.instructor e.instructorId) ∧
      ∀ s, (e.id, s) ∈ db'.eventParticipants.keys → MayWork now db (.student s)
  enrolments : ∀ p ∈ db'.courseParticipants.rows, p.status = .active →
    ∀ c, db'.courses.findUnique p.courseId = some c → c.deletedAt = none →
      MayWork now db (.student p.studentId)
  courses : ∀ c ∈ db'.courses.rows, c.deletedAt = none → c.status = "active" →
    ∀ i, c.instructorId = some i → MayWork now db (.instructor i)

theorem Harmless.refl (h : OneSchool schoolId db) : Harmless schoolId now db db where
  users := rfl
  studentProfiles := rfl
  instructorProfiles := rfl
  school := h
  lessons _ hl ahead := Lesson.mayWork hl ahead
  events _ he ahead := InstructorEvent.mayWork he ahead
  enrolments p hp active c found live := Or.inl (.courseParticipant p hp active c found live)
  courses c hc live active i hi := Or.inl (.courseInstructor c hc live active i hi)

theorem Harmless.obliged (h : Harmless schoolId now db db') {p : Profile}
    (hp : Obliged now db' p) : MayWork now db p := by
  cases hp with
  | lessonStudent l hl ahead => exact (h.lessons l hl ahead).1
  | lessonInstructor l hl ahead => exact (h.lessons l hl ahead).2
  | eventInstructor e he ahead => exact (h.events e he ahead).1
  | eventParticipant e he ahead s hs => exact (h.events e he ahead).2 s hs
  | courseParticipant p hp active c found live => exact h.enrolments p hp active c found live
  | courseInstructor c hc live active i hi => exact h.courses c hc live active i hi

theorem Profile.archived_congr {p : Profile} (husers : db'.users = db.users)
    (hstudents : db'.studentProfiles = db.studentProfiles)
    (hinstructors : db'.instructorProfiles = db.instructorProfiles) :
    p.Archived db' ↔ p.Archived db := by
  cases p with
  | student id => simp only [Archived, BelongsTo, husers, hstudents]
  | instructor id => simp only [Archived, BelongsTo, husers, hinstructors]

theorem Harmless.keeps (h : Harmless schoolId now db db') (hfree : ArchivedFree now db) :
    OneSchool schoolId db' ∧ ArchivedFree now db' := by
  refine ⟨h.school, fun p hp hobliged => ?_⟩
  rw [Profile.archived_congr h.users h.studentProfiles h.instructorProfiles] at hp
  rcases h.obliged hobliged with hbefore | hlive
  · exact hfree p hp hbefore
  · exact hlive hp

/-- Vehicles are no matter here. -/
theorem Harmless.refreshed (h : Harmless schoolId now db db') (p : Vehicle → Bool) :
    Harmless schoolId now db (db'.refreshed p) where
  users := h.users
  studentProfiles := h.studentProfiles
  instructorProfiles := h.instructorProfiles
  school := { h.school with }
  lessons := h.lessons
  events := h.events
  enrolments := h.enrolments
  courses := h.courses

/-! ### One table changes -/

theorem OneSchool.schoolLinks (h : OneSchool schoolId db) {u : User} {s : Uuid}
    (hs : s ∈ u.schoolLinks db) : s = schoolId := by
  unfold User.schoolLinks at hs
  split at hs
  · rcases hp : db.studentProfiles.findFirst (fun p => decide (p.userId = u.id)) with _ | p
    · rw [hp] at hs
      cases hs
    · rw [hp] at hs
      obtain ⟨l, hl, rfl⟩ := List.mem_map.mp hs
      exact h.studentLinks l ((Table.mem_findMany _ _ _).mp hl).1
  · rcases hp : db.instructorProfiles.findFirst (fun p => decide (p.userId = u.id)) with _ | p
    · rw [hp] at hs
      cases hs
    · rw [hp] at hs
      obtain ⟨l, hl, rfl⟩ := List.mem_map.mp hs
      exact h.instructorLinks l ((Table.mem_findMany _ _ _).mp hl).1
  · cases hs

end Work

end OSK
