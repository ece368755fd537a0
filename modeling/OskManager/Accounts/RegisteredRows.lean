import OskManager.Lib.Regions
import OskManager.Model.Registration

/-! What the transactions of a registration write. They keep to the rows of one account, and when
one of them succeeds, the account stands with all that has been asked for. -/

namespace OSK

open Relational

variable {env : Env} {id : Uuid} {s s' s'' t : AccountTables} {input : PersistRegisteredUserInput}

/-! ### The rows of an account -/

def StudentOfUser (s : AccountTables) (id studentId : Uuid) : Prop :=
  ∃ p ∈ s.db.studentProfiles.rows, p.userId = id ∧ p.id = studentId

def InstructorOfUser (s : AccountTables) (id instructorId : Uuid) : Prop :=
  ∃ p ∈ s.db.instructorProfiles.rows, p.userId = id ∧ p.id = instructorId

/-- The rows of the account are the same in both. -/
structure SameRows (id : Uuid) (s s' : AccountTables) : Prop where
  user : Table.SameOn (fun u => u.id = id) s.db.users s'.db.users
  profile : Table.SameOn (fun p => p.userId = id) s.db.userProfiles s'.db.userProfiles
  students : Table.SameOn (fun p => p.userId = id) s.db.studentProfiles s'.db.studentProfiles
  instructors :
    Table.SameOn (fun p => p.userId = id) s.db.instructorProfiles s'.db.instructorProfiles
  papers : Table.SameOn (fun q => InstructorOfUser s id q.instructorId) s.papers s'.papers
  studentLinks :
    Table.SameOn (fun l => StudentOfUser s id l.studentId) s.db.studentSchools s'.db.studentSchools
  instructorLinks :
    Table.SameOn (fun l => InstructorOfUser s id l.instructorId) s.db.instructorSchools
      s'.db.instructorSchools
  hours :
    Table.SameOn (fun h => InstructorOfUser s id h.instructorId) s.db.workingHoursDefault
      s'.db.workingHoursDefault

theorem SameRows.refl (id : Uuid) (s : AccountTables) : SameRows id s s :=
  ⟨.refl _ _, .refl _ _, .refl _ _, .refl _ _, .refl _ _, .refl _ _, .refl _ _, .refl _ _⟩

theorem SameRows.student_iff (h : SameRows id s s') (studentId : Uuid) :
    StudentOfUser s' id studentId ↔ StudentOfUser s id studentId :=
  h.students.exists_iff fun p => p.id = studentId

theorem SameRows.instructor_iff (h : SameRows id s s') (instructorId : Uuid) :
    InstructorOfUser s' id instructorId ↔ InstructorOfUser s id instructorId :=
  h.instructors.exists_iff fun p => p.id = instructorId

theorem SameRows.trans (h : SameRows id s s') (h' : SameRows id s' s'') : SameRows id s s'' where
  user := h.user.trans h'.user
  profile := h.profile.trans h'.profile
  students := h.students.trans h'.students
  instructors := h.instructors.trans h'.instructors
  papers := h.papers.trans (h'.papers.mono fun _ => (h.instructor_iff _).mpr)
  studentLinks := h.studentLinks.trans (h'.studentLinks.mono fun _ => (h.student_iff _).mpr)
  instructorLinks :=
    h.instructorLinks.trans (h'.instructorLinks.mono fun _ => (h.instructor_iff _).mpr)
  hours := h.hours.trans (h'.hours.mono fun _ => (h.instructor_iff _).mpr)

/-- What a transaction about an account leaves alone: the rows of all others and what is no row of
an account. No instructor and no link of one is taken away. -/
structure OnlyRows (id : Uuid) (s s' : AccountTables) : Prop where
  others : ∀ id', id' ≠ id → SameRows id' s s'
  schools : s'.db.drivingSchools = s.db.drivingSchools
  settings : s'.db.schoolSettings = s.db.schoolSettings
  instructors : s.db.instructorProfiles.rows ⊆ s'.db.instructorProfiles.rows
  links : s.db.instructorSchools.rows ⊆ s'.db.instructorSchools.rows

theorem OnlyRows.refl (id : Uuid) (s : AccountTables) : OnlyRows id s s :=
  ⟨fun id' _ => .refl id' s, rfl, rfl, fun _ h => h, fun _ h => h⟩

theorem OnlyRows.trans (h : OnlyRows id s s') (h' : OnlyRows id s' s'') : OnlyRows id s s'' where
  others := fun id' hne => (h.others id' hne).trans (h'.others id' hne)
  schools := h'.schools.trans h.schools
  settings := h'.settings.trans h.settings
  instructors := fun _ hp => h'.instructors (h.instructors hp)
  links := fun _ hl => h'.links (h.links hl)

/-- The account stands as it has been asked for. -/
structure WholeAccount (s : AccountTables) (input : PersistRegisteredUserInput) : Prop where
  user : ∃ u ∈ s.db.users.rows, u.id = input.authUserId ∧
    u.registered (registerDbProfileFromRequest input.toRegistrationRequest) = u
  profile : ∃ p ∈ s.db.userProfiles.rows, p.userId = input.authUserId
  student : input.targetRole = .student →
    ∃ p ∈ s.db.studentProfiles.rows, p.userId = input.authUserId
  instructor : input.targetRole = .instructor → ∃ q ∈ s.papers.rows,
    InstructorOfUser s input.authUserId q.instructorId ∧
      ∀ d, input.instructorBirthDate = some d → q.birthDate = some d
  studentSchool : input.targetRole = .student → ∀ k, input.validatedStudentSchoolId = some k →
    ∃ l ∈ s.db.studentSchools.rows, StudentOfUser s input.authUserId l.studentId ∧ l.schoolId = k
  instructorSchool : input.targetRole = .instructor →
    ∀ k, input.validatedInstructorSchoolId = some k →
      ∃ l ∈ s.db.instructorSchools.rows, InstructorOfUser s input.authUserId l.instructorId ∧
        l.schoolId = k ∧ ∃ h ∈ s.db.workingHoursDefault.rows, h.instructorId = l.instructorId

/-- Every instructor has the columns of its papers. -/
def PapersComplete (s : AccountTables) : Prop :=
  ∀ p ∈ s.db.instructorProfiles.rows, ∃ q ∈ s.papers.rows, q.instructorId = p.id

/-- No two accounts that are not deleted have one e-mail. -/
def UniqueEmails (db : Db) : Prop :=
  ∀ u ∈ db.users.rows, ∀ v ∈ db.users.rows, u.deletedAt = none → v.deletedAt = none →
    u.email = v.email → u.id = v.id

theorem WholeAccount.same (h : WholeAccount s input) (hsame : SameRows input.authUserId s s') :
    WholeAccount s' input where
  user := by
    obtain ⟨u, hu, hid, hmatches⟩ := h.user
    exact ⟨u, (hsame.user u hid).mpr hu, hid, hmatches⟩
  profile := by
    obtain ⟨p, hp, hid⟩ := h.profile
    exact ⟨p, (hsame.profile p hid).mpr hp, hid⟩
  student := by
    intro hrole
    obtain ⟨p, hp, hid⟩ := h.student hrole
    exact ⟨p, (hsame.students p hid).mpr hp, hid⟩
  instructor := by
    intro hrole
    obtain ⟨q, hq, hof, hbirth⟩ := h.instructor hrole
    exact ⟨q, (hsame.papers q hof).mpr hq, (hsame.instructor_iff _).mpr hof, hbirth⟩
  studentSchool := by
    intro hrole k hk
    obtain ⟨l, hl, hof, hschool⟩ := h.studentSchool hrole k hk
    exact ⟨l, (hsame.studentLinks l hof).mpr hl, (hsame.student_iff _).mpr hof, hschool⟩
  instructorSchool := by
    intro hrole k hk
    obtain ⟨l, hl, hof, hschool, w, hw, hid⟩ := h.instructorSchool hrole k hk
    have hhours : InstructorOfUser s input.authUserId w.instructorId := by
      rw [hid]
      exact hof
    exact ⟨l, (hsame.instructorLinks l hof).mpr hl, (hsame.instructor_iff _).mpr hof, hschool, w,
      (hsame.hours w hhours).mpr hw, hid⟩

/-! ### Single writes -/

/-- Rows of the account are added; its user stays as it is. -/
structure AddsRows (id : Uuid) (s t : AccountTables) : Prop where
  only : OnlyRows id s t
  users : t.db.users = s.db.users
  profiles : s.db.userProfiles.rows ⊆ t.db.userProfiles.rows
  students : s.db.studentProfiles.rows ⊆ t.db.studentProfiles.rows
  papers : PapersComplete s → PapersComplete t

theorem AddsRows.refl (id : Uuid) (s : AccountTables) : AddsRows id s s :=
  ⟨.refl id s, rfl, fun _ h => h, fun _ h => h, fun h => h⟩

theorem AddsRows.trans (h : AddsRows id s s') (h' : AddsRows id s' s'') : AddsRows id s s'' where
  only := h.only.trans h'.only
  users := h'.users.trans h.users
  profiles := fun _ hp => h'.profiles (h.profiles hp)
  students := fun _ hp => h'.students (h.students hp)
  papers := fun hs => h'.papers (h.papers hs)

theorem StudentOfUser.sole {id' studentId : Uuid} (h : StudentOfUser s id studentId)
    (h' : StudentOfUser s id' studentId) : id = id' := by
  obtain ⟨p, hp, hid, hkey⟩ := h
  obtain ⟨p', hp', hid', hkey'⟩ := h'
  obtain rfl := s.db.studentProfiles.key_inj hp hp' (hkey.trans hkey'.symm)
  exact hid.symm.trans hid'

theorem InstructorOfUser.sole {id' instructorId : Uuid} (h : InstructorOfUser s id instructorId)
    (h' : InstructorOfUser s id' instructorId) : id = id' := by
  obtain ⟨p, hp, hid, hkey⟩ := h
  obtain ⟨p', hp', hid', hkey'⟩ := h'
  obtain rfl := s.db.instructorProfiles.key_inj hp hp' (hkey.trans hkey'.symm)
  exact hid.symm.trans hid'

theorem emailTaken_eq_false {db : Db} {u : User} {email : String} :
    db.emailTaken u email = false ↔ (u.deletedAt = none →
      ∀ v ∈ db.users.rows, v.deletedAt = none → v.email = email → v.id = u.id) := by
  rw [Db.emailTaken, Bool.and_eq_false_imp, decide_eq_true_eq, List.any_eq_false]
  simp only [decide_eq_true_eq, ne_eq, not_and]
  constructor
  · intro h hu v hv hdeleted hemail
    by_contra hne
    exact h hu v hv hne hemail hdeleted
  · intro h hu v hv hne hemail hdeleted
    exact hne (h hu v hv hdeleted hemail)

theorem createUserRow_ok {row : User} (h : createUserRow row s = (.ok (), t)) :
    OnlyRows row.id s t ∧ (∀ u, u ∈ t.db.users.rows ↔ u ∈ s.db.users.rows ∨ u = row) ∧
      s.db.emailTaken row row.email = false ∧ (PapersComplete s → PapersComplete t) := by
  unfold createUserRow at h
  split at h
  · cases h
  · next hfresh =>
    split at h
    · cases h
    · next hfree =>
      cases h
      refine ⟨⟨fun id' hne => ?_, rfl, rfl, fun _ h => h, fun _ h => h⟩, fun u => ?_,
        Bool.eq_false_iff.mpr hfree, fun h => h⟩
      · exact { SameRows.refl id' s with
          user := Table.sameOn_insert (h := hfresh) (Ne.symm hne) }
      · exact Table.mem_insert _ _ hfresh _

theorem createUserProfile_ok {userId : Uuid} (h : createUserProfile userId s = (.ok (), t)) :
    AddsRows userId s t ∧ ∃ p ∈ t.db.userProfiles.rows, p.userId = userId := by
  unfold createUserProfile at h
  split at h
  · cases h
  · next hfresh =>
    cases h
    have hadded := Table.mem_insert s.db.userProfiles { userId } hfresh
    refine ⟨⟨⟨fun id' hne => ?_, rfl, rfl, fun _ h => h, fun _ h => h⟩, rfl,
      fun p hp => (hadded p).mpr (Or.inl hp), fun _ h => h, fun h => h⟩, _,
      (hadded _).mpr (Or.inr rfl), rfl⟩
    exact { SameRows.refl id' s with
      profile := Table.sameOn_insert (h := hfresh) (Ne.symm hne) }

theorem createStudentProfile_ok {userId : Uuid}
    (h : createStudentProfile env userId s = (.ok (), t)) :
    AddsRows userId s t ∧ ∃ p ∈ t.db.studentProfiles.rows, p.userId = userId := by
  unfold createStudentProfile at h
  split at h
  · cases h
  · cases h
    have hfresh := env.uuid_fresh s.db.studentProfiles.keys
    have hadded := Table.mem_insert s.db.studentProfiles
      { id := env.uuid s.db.studentProfiles.keys, userId, createdAt := env.now } hfresh
    refine ⟨⟨⟨fun id' hne => ?_, rfl, rfl, fun _ h => h, fun _ h => h⟩, rfl, fun _ h => h,
      fun p hp => (hadded p).mpr (Or.inl hp), fun h => h⟩, _, (hadded _).mpr (Or.inr rfl), rfl⟩
    exact { SameRows.refl id' s with
      students := Table.sameOn_insert (h := hfresh) (Ne.symm hne) }

/-- A new instructor has an identifier that no row of an account has. -/
theorem createInstructorProfile_ok {userId : Uuid} {licenseNumber : String} {birthDate : Option Day}
    (h : createInstructorProfile env userId licenseNumber birthDate s = (.ok (), t)) :
    AddsRows userId s t ∧ ∃ q ∈ t.papers.rows,
      InstructorOfUser t userId q.instructorId ∧ q.birthDate = birthDate := by
  unfold createInstructorProfile at h
  split at h
  · cases h
  · cases h
    obtain ⟨hprofile, hpapers⟩ := s.nextInstructorId_fresh env
    have hadded := Table.mem_insert s.db.instructorProfiles
      { id := s.nextInstructorId env, userId, qualifiedCourseTypes := [], createdAt := env.now }
      hprofile
    have hwritten := Table.mem_insert s.papers
      { instructorId := s.nextInstructorId env, licenseNumber, birthDate } hpapers
    refine ⟨⟨⟨fun id' hne => ?_, rfl, rfl, fun p hp => (hadded p).mpr (Or.inl hp), fun _ h => h⟩,
      rfl, fun _ h => h, fun _ h => h, fun hcomplete p hp => ?_⟩, _, (hwritten _).mpr (Or.inr rfl),
      ⟨_, (hadded _).mpr (Or.inr rfl), rfl, rfl⟩, rfl⟩
    · refine { SameRows.refl id' s with
        instructors := Table.sameOn_insert (h := hprofile) (Ne.symm hne)
        papers := Table.sameOn_insert (h := hpapers) ?_ }
      intro hof
      obtain ⟨p, hp, _, hid⟩ := hof
      exact hprofile ((Table.mem_keys _ _).mpr ⟨p, hp, hid⟩)
    · rcases (hadded p).mp hp with hold | rfl
      · obtain ⟨q, hq, hid⟩ := hcomplete p hold
        exact ⟨q, (hwritten q).mpr (Or.inl hq), hid⟩
      · exact ⟨_, (hwritten _).mpr (Or.inr rfl), rfl⟩

theorem areOf_iff {q : InstructorPapers} :
    q.areOf s.db id = true ↔ InstructorOfUser s id q.instructorId := by
  rw [InstructorPapers.areOf, Option.any_eq_true]
  constructor
  · intro h
    obtain ⟨p, hp, huser⟩ := h
    exact ⟨p, Table.mem_of_findUnique hp, of_decide_eq_true huser, Table.key_of_findUnique hp⟩
  · intro h
    obtain ⟨p, hp, huser, hid⟩ := h
    refine ⟨p, ?_, decide_eq_true huser⟩
    rw [← hid]
    exact Table.findUnique_of_mem hp

/-- The row of the papers that has no other date gets this one. -/
theorem setBirthDate_ok {birthDate : Day} (h : setBirthDate id birthDate s = (.ok (), t)) :
    AddsRows id s t ∧ ∃ q ∈ t.papers.rows,
      InstructorOfUser t id q.instructorId ∧ q.birthDate = some birthDate := by
  unfold setBirthDate at h
  obtain ⟨count, s₁, hquery, h⟩ := Prog.bind_eq_ok.mp h
  obtain ⟨hcount, rfl⟩ := Prog.query_eq_ok.mp hquery
  obtain ⟨_, s₂, hwrite, h⟩ := Prog.bind_eq_ok.mp h
  obtain rfl := Prog.write_eq_ok.mp hwrite
  obtain ⟨hone, rfl⟩ := Prog.lift_eq_ok.mp h
  rw [throwIf_eq_ok, not_not] at hone
  rw [Except.ok.injEq, hone, Table.count, List.length_eq_one_iff] at hcount
  obtain ⟨q, hq⟩ := hcount
  have hfound := (Table.mem_findMany _ _ q).mp (hq.symm ▸ List.mem_singleton_self q)
  have hborn := InstructorPapers.instructorId_born birthDate
  refine ⟨⟨⟨fun id' hne => ?_, rfl, rfl, fun _ h => h, fun _ h => h⟩, rfl, fun _ h => h,
    fun _ h => h, fun hcomplete p hp => ?_⟩, ?_⟩
  · refine { SameRows.refl id' s with papers := ?_ }
    refine @Table.sameOn_updateMany _ _ _ _ _ _ _ hborn fun q _ hwhere => ?_
    have hof := areOf_iff.mp (Bool.and_eq_true_iff.mp hwhere).1
    exact ⟨fun h => hne (h.sole hof), fun h => hne (h.sole hof)⟩
  · obtain ⟨q, hq, hid⟩ := hcomplete p hp
    refine ⟨_, (Table.mem_updateMany _ _ _ hborn _).mpr ⟨q, hq, rfl⟩, ?_⟩
    split
    · exact hid
    · exact hid
  · refine ⟨_, (Table.mem_updateMany _ _ _ hborn _).mpr ⟨q, hfound.1, if_pos hfound.2⟩, ?_, rfl⟩
    exact areOf_iff.mp (Bool.and_eq_true_iff.mp hfound.2).1

/-! ### The school -/

/-- The tables of people stay as they are. -/
structure LinksOnly (s s' : AccountTables) : Prop where
  users : s'.db.users = s.db.users
  profiles : s'.db.userProfiles = s.db.userProfiles
  students : s'.db.studentProfiles = s.db.studentProfiles
  instructors : s'.db.instructorProfiles = s.db.instructorProfiles
  papers : s'.papers = s.papers

theorem LinksOnly.refl (s : AccountTables) : LinksOnly s s := ⟨rfl, rfl, rfl, rfl, rfl⟩

theorem LinksOnly.trans (h : LinksOnly s s') (h' : LinksOnly s' s'') : LinksOnly s s'' where
  users := h'.users.trans h.users
  profiles := h'.profiles.trans h.profiles
  students := h'.students.trans h.students
  instructors := h'.instructors.trans h.instructors
  papers := h'.papers.trans h.papers

theorem LinksOnly.instructor_iff (h : LinksOnly s s') (instructorId : Uuid) :
    InstructorOfUser s' id instructorId ↔ InstructorOfUser s id instructorId := by
  unfold InstructorOfUser
  rw [h.instructors]

theorem LinksOnly.student_iff (h : LinksOnly s s') (studentId : Uuid) :
    StudentOfUser s' id studentId ↔ StudentOfUser s id studentId := by
  unfold StudentOfUser
  rw [h.students]

section Instructor

variable {instructorId schoolId : Uuid}

theorem createInstructorLink_ok (hof : InstructorOfUser s id instructorId)
    (h : createInstructorLink instructorId schoolId s = (.ok (), t)) :
    OnlyRows id s t ∧ LinksOnly s t ∧ ∃ l ∈ t.db.instructorSchools.rows,
      l.instructorId = instructorId ∧ l.schoolId = schoolId := by
  unfold createInstructorLink at h
  split at h
  · cases h
  · next hfresh =>
    cases h
    refine ⟨⟨fun id' hne => ?_, rfl, rfl, fun _ h => h, fun l hl => ?_⟩, ⟨rfl, rfl, rfl, rfl, rfl⟩,
      _, (Table.mem_insert _ _ hfresh _).mpr (Or.inr rfl), rfl, rfl⟩
    · refine { SameRows.refl id' s with
        instructorLinks := Table.sameOn_insert (h := hfresh) fun h => hne (h.sole hof) }
    · exact (Table.mem_insert _ _ hfresh _).mpr (Or.inl hl)

/-- The hours of an instructor are added to. -/
structure AddsHours (id instructorId : Uuid) (s t : AccountTables) : Prop where
  only : OnlyRows id s t
  links : LinksOnly s t
  schools : t.db.instructorSchools = s.db.instructorSchools
  hours : s.db.workingHoursDefault.rows ⊆ t.db.workingHoursDefault.rows

theorem AddsHours.trans (h : AddsHours id instructorId s s')
    (h' : AddsHours id instructorId s' s'') :
    AddsHours id instructorId s s'' where
  only := h.only.trans h'.only
  links := h.links.trans h'.links
  schools := h'.schools.trans h.schools
  hours := fun _ hw => h'.hours (h.hours hw)

theorem createDefaultHours_ok {row : DefaultHourRow} (hof : InstructorOfUser s id instructorId)
    (h : createDefaultHours instructorId row s = (.ok (), t)) :
    AddsHours id instructorId s t ∧
      ∃ w ∈ t.db.workingHoursDefault.rows, w.instructorId = instructorId := by
  unfold createDefaultHours at h
  split at h
  · cases h
  · next hfresh =>
    cases h
    refine ⟨⟨⟨fun id' hne => ?_, rfl, rfl, fun _ h => h, fun _ h => h⟩, ⟨rfl, rfl, rfl, rfl, rfl⟩,
      rfl, fun w hw => ?_⟩, _, (Table.mem_insert _ _ hfresh _).mpr (Or.inr rfl), rfl⟩
    · exact { SameRows.refl id' s with
        hours := Table.sameOn_insert (h := hfresh) fun h => hne (h.sole hof) }
    · exact (Table.mem_insert _ _ hfresh _).mpr (Or.inl hw)

theorem createManyDefaultHours_ok {rows : List DefaultHourRow}
    (hof : InstructorOfUser s id instructorId)
    (h : createManyDefaultHours instructorId rows s = (.ok (), t)) :
    AddsHours id instructorId s t ∧ (rows ≠ [] →
      ∃ w ∈ t.db.workingHoursDefault.rows, w.instructorId = instructorId) := by
  induction rows generalizing s with
  | nil =>
    obtain ⟨_, rfl⟩ := Prog.pure_eq_ok.mp h
    exact ⟨⟨.refl id s, .refl s, rfl, fun _ h => h⟩, fun hne => absurd rfl hne⟩
  | cons row rows ih =>
    obtain ⟨_, s₁, hfirst, hrest⟩ := Prog.bind_eq_ok.mp h
    obtain ⟨hadds, w, hw, hid⟩ := createDefaultHours_ok hof hfirst
    obtain ⟨hadds', _⟩ := ih ((hadds.links.instructor_iff _).mpr hof) hrest
    exact ⟨hadds.trans hadds', fun _ => ⟨w, hadds'.hours hw, hid⟩⟩

theorem defaultRows_ne_nil (settings : Option SchoolSettings) (hours : Option SchoolHours) :
    buildInstructorWorkingHoursDefaultRows settings hours ≠ [] := by
  unfold buildInstructorWorkingHoursDefaultRows
  split
  · next settings hours =>
    have hdays {f : ℤ → DefaultHourRow}
        (h : ¬(daysOfWeekFromWorkingMask settings.workingDaysMask).length = 0) :
        (daysOfWeekFromWorkingMask settings.workingDaysMask).map f ≠ [] := by
      intro hnil
      exact h (List.length_eq_zero_iff.mpr (List.map_eq_nil_iff.mp hnil))
    dsimp only
    split
    · exact List.cons_ne_nil _ _
    · next hlength =>
      split
      · exact hdays hlength
      · exact hdays hlength
  · exact List.cons_ne_nil _ _

/-- An instructor that comes to a school has working hours there. -/
theorem addInstructorToSchool_ok (hof : InstructorOfUser s id instructorId)
    (h : addInstructorToSchoolInTx instructorId schoolId s = (.ok (), t)) :
    OnlyRows id s t ∧ LinksOnly s t ∧ ∃ l ∈ t.db.instructorSchools.rows,
      l.instructorId = instructorId ∧ l.schoolId = schoolId ∧
        ∃ w ∈ t.db.workingHoursDefault.rows, w.instructorId = instructorId := by
  unfold addInstructorToSchoolInTx at h
  obtain ⟨rows, hrows, h⟩ := Prog.query_bind_eq_ok.mp h
  obtain ⟨_, s₁, hlink, h⟩ := Prog.bind_eq_ok.mp h
  obtain ⟨count, hcount, h⟩ := Prog.query_bind_eq_ok.mp h
  obtain ⟨honly, hlinks, l, hl, hid, hschool⟩ := createInstructorLink_ok hof hlink
  have hof₁ : InstructorOfUser s₁ id instructorId := (hlinks.instructor_iff _).mpr hof
  simp only [except_bind_eq_ok] at hrows
  obtain ⟨_, _, _, _, hrows⟩ := hrows
  cases hrows
  cases hcount
  rcases Prog.when_eq_ok.mp h with ⟨_, hmany⟩ | ⟨hsome, rfl⟩
  · obtain ⟨hadds, hhours⟩ := createManyDefaultHours_ok hof₁ hmany
    refine ⟨honly.trans hadds.only, hlinks.trans hadds.links, l, ?_, hid, hschool,
      hhours (defaultRows_ne_nil _ _)⟩
    rw [hadds.schools]
    exact hl
  · rw [decide_eq_false_iff_not, Table.count, List.length_eq_zero_iff] at hsome
    obtain ⟨w, hw⟩ := List.exists_mem_of_ne_nil _ hsome
    obtain ⟨hmem, hwhere⟩ := (Table.mem_findMany _ _ w).mp hw
    exact ⟨honly, hlinks, l, hl, hid, hschool, w, hmem, of_decide_eq_true hwhere⟩

theorem attachInstructorToSchool_ok
    (h : attachInstructorToSchoolWithDefaultsInTx id schoolId s = (.ok (), t)) :
    OnlyRows id s t ∧ LinksOnly s t ∧ ∃ l ∈ t.db.instructorSchools.rows,
      InstructorOfUser t id l.instructorId ∧ l.schoolId = schoolId ∧
        ∃ w ∈ t.db.workingHoursDefault.rows, w.instructorId = l.instructorId := by
  unfold attachInstructorToSchoolWithDefaultsInTx at h
  obtain ⟨p, hprofile, h⟩ := Prog.query_bind_eq_ok.mp h
  simp only [except_bind_eq_ok, orThrow_eq_ok] at hprofile
  obtain ⟨_, hfound, _, _, hprofile⟩ := hprofile
  cases hprofile
  obtain ⟨hp, huser⟩ := Table.mem_of_findFirst hfound
  have hof : InstructorOfUser s id p.id := ⟨p, hp, of_decide_eq_true huser, rfl⟩
  obtain ⟨honly, hlinks, l, hl, hid, hschool, w, hw, hw'⟩ := addInstructorToSchool_ok hof h
  refine ⟨honly, hlinks, l, hl, ?_, hschool, w, hw, hw'.trans hid.symm⟩
  rw [hid]
  exact (hlinks.instructor_iff _).mpr hof

end Instructor

theorem mem_replaceStudentSchool {db : Db} {studentId schoolId : Uuid} {l : StudentSchool} :
    l ∈ (db.replaceStudentSchool studentId schoolId).studentSchools.rows ↔
      (l ∈ db.studentSchools.rows ∧ l.studentId ≠ studentId) ∨ l = ⟨studentId, schoolId⟩ := by
  unfold Db.replaceStudentSchool
  rw [Table.mem_insert, Table.mem_deleteMany, decide_eq_false_iff_not]

theorem attachStudentToSchool_ok {schoolId : Uuid}
    (h : onDb (attachStudentToSchoolReplaceInTx id schoolId) s = (.ok (), t)) :
    OnlyRows id s t ∧ LinksOnly s t ∧ ∃ l ∈ t.db.studentSchools.rows,
      StudentOfUser t id l.studentId ∧ l.schoolId = schoolId := by
  have hrun : attachStudentToSchoolReplaceInTx id schoolId s.db = (.ok (), t.db) ∧
      t = { s with db := t.db } := by
    rw [onDb, Prod.mk.injEq] at h
    obtain ⟨hresult, rfl⟩ := h
    exact ⟨Prod.ext hresult rfl, rfl⟩
  obtain ⟨hrun, ht⟩ := hrun
  unfold attachStudentToSchoolReplaceInTx at hrun
  obtain ⟨p, hprofile, hwrite⟩ := Prog.query_bind_eq_ok.mp hrun
  simp only [except_bind_eq_ok, orThrow_eq_ok] at hprofile
  obtain ⟨_, _, hfound⟩ := hprofile
  obtain ⟨hp, huser⟩ := Table.mem_of_findFirst hfound
  have hof : StudentOfUser s id p.id := ⟨p, hp, of_decide_eq_true huser, rfl⟩
  have hdb := Prog.write_eq_ok.mp hwrite
  rw [ht, ← hdb]
  refine ⟨⟨fun id' hne => ?_, rfl, rfl, fun _ h => h, fun _ h => h⟩, ⟨rfl, rfl, rfl, rfl, rfl⟩,
    ⟨p.id, schoolId⟩, mem_replaceStudentSchool.mpr (Or.inr rfl), hof, rfl⟩
  refine { SameRows.refl id' s with
    studentLinks := fun l (hother : StudentOfUser s id' l.studentId) => ?_ }
  have hid : l.studentId ≠ p.id := by
    intro hid
    rw [hid] at hother
    exact hne (hother.sole hof)
  rw [mem_replaceStudentSchool]
  constructor
  · intro hmem
    rcases hmem with ⟨hold, _⟩ | rfl
    · exact hold
    · exact absurd rfl hid
  · exact fun hold => Or.inl ⟨hold, hid⟩

/-- Whatever is asked for, the school of an account is attached to that account only. -/
theorem attachRoleSchool_ok (h : attachRoleSchoolInTx input s = (.ok (), t)) :
    OnlyRows input.authUserId s t ∧ LinksOnly s t ∧
      (input.targetRole = .student → ∀ k, input.validatedStudentSchoolId = some k →
        ∃ l ∈ t.db.studentSchools.rows,
          StudentOfUser t input.authUserId l.studentId ∧ l.schoolId = k) ∧
      (input.targetRole = .instructor → ∀ k, input.validatedInstructorSchoolId = some k →
        ∃ l ∈ t.db.instructorSchools.rows,
          InstructorOfUser t input.authUserId l.instructorId ∧ l.schoolId = k ∧
            ∃ w ∈ t.db.workingHoursDefault.rows, w.instructorId = l.instructorId) := by
  unfold attachRoleSchoolInTx at h
  obtain ⟨_, s₁, hinstructor, hstudent⟩ := Prog.bind_eq_ok.mp h
  rw [Prog.when_eq_ok, decide_eq_true_eq, decide_eq_false_iff_not] at hinstructor hstudent
  rcases hinstructor with ⟨hrole, hattach⟩ | ⟨hrole, rfl⟩
  · have hother : ¬input.targetRole = .student := by rw [hrole]; exact Role.noConfusion
    rcases hstudent with ⟨hrole', _⟩ | ⟨_, rfl⟩
    · exact absurd hrole' hother
    · cases hschool : input.validatedInstructorSchoolId with
      | none =>
        rw [hschool] at hattach
        obtain ⟨_, rfl⟩ := Prog.pure_eq_ok.mp hattach
        exact ⟨.refl _ _, .refl _, fun h => absurd h hother, fun _ _ h => nomatch h⟩
      | some k =>
        rw [hschool] at hattach
        obtain ⟨honly, hlinks, hlink⟩ := attachInstructorToSchool_ok hattach
        refine ⟨honly, hlinks, fun h => absurd h hother, fun _ k' hk' => ?_⟩
        cases hk'
        exact hlink
  · rcases hstudent with ⟨hrole', hattach⟩ | ⟨hrole', rfl⟩
    · cases hschool : input.validatedStudentSchoolId with
      | none =>
        rw [hschool] at hattach
        obtain ⟨_, rfl⟩ := Prog.pure_eq_ok.mp hattach
        exact ⟨.refl _ _, .refl _, fun _ _ h => (nomatch h), fun h => absurd h hrole⟩
      | some k =>
        rw [hschool] at hattach
        obtain ⟨honly, hlinks, hlink⟩ := attachStudentToSchool_ok hattach
        refine ⟨honly, hlinks, fun _ k' hk' => ?_, fun h => absurd h hrole⟩
        cases hk'
        exact hlink
    · exact ⟨.refl _ _, .refl _, fun h => absurd h hrole', fun h => absurd h hrole⟩

/-! ### The transactions -/

/-- The people of the account, without its school. -/
structure PeopleOf (s : AccountTables) (input : PersistRegisteredUserInput) : Prop where
  user : ∃ u ∈ s.db.users.rows, u.id = input.authUserId ∧
    u.registered (registerDbProfileFromRequest input.toRegistrationRequest) = u
  profile : ∃ p ∈ s.db.userProfiles.rows, p.userId = input.authUserId
  student : input.targetRole = .student →
    ∃ p ∈ s.db.studentProfiles.rows, p.userId = input.authUserId
  instructor : input.targetRole = .instructor → ∃ q ∈ s.papers.rows,
    InstructorOfUser s input.authUserId q.instructorId ∧
      ∀ d, input.instructorBirthDate = some d → q.birthDate = some d

/-- What a successful transaction about an account has done. -/
structure Registered (input : PersistRegisteredUserInput) (s t : AccountTables) : Prop where
  only : OnlyRows input.authUserId s t
  whole : WholeAccount t input
  papers : PapersComplete s → PapersComplete t
  emails : UniqueEmails s.db → UniqueEmails t.db

theorem PeopleOf.attached (h : PeopleOf s input)
    (hattach : attachRoleSchoolInTx input s = (.ok (), t)) :
    OnlyRows input.authUserId s t ∧ WholeAccount t input ∧ LinksOnly s t := by
  obtain ⟨honly, hlinks, hstudent, hinstructor⟩ := attachRoleSchool_ok hattach
  refine ⟨honly, ⟨?_, ?_, ?_, ?_, hstudent, hinstructor⟩, hlinks⟩
  · rw [hlinks.users]
    exact h.user
  · rw [hlinks.profiles]
    exact h.profile
  · rw [hlinks.students]
    exact h.student
  · intro hrole
    obtain ⟨q, hq, hof, hbirth⟩ := h.instructor hrole
    rw [hlinks.papers]
    exact ⟨q, hq, (hlinks.instructor_iff _).mpr hof, hbirth⟩

theorem LinksOnly.papersComplete (h : LinksOnly s t) (hs : PapersComplete s) :
    PapersComplete t := by
  unfold PapersComplete
  rw [h.instructors, h.papers]
  exact hs

theorem LinksOnly.uniqueEmails (h : LinksOnly s t) (hs : UniqueEmails s.db) :
    UniqueEmails t.db := by
  unfold UniqueEmails
  rw [h.users]
  exact hs

theorem registered_row (input : PersistRegisteredUserInput) (u : User) :
    (u.registered (registerDbProfileFromRequest input.toRegistrationRequest)).registered
      (registerDbProfileFromRequest input.toRegistrationRequest) =
    u.registered (registerDbProfileFromRequest input.toRegistrationRequest) := rfl

theorem uniqueEmails_insert {row : User} (hs : UniqueEmails s.db)
    (hrows : ∀ u, u ∈ t.db.users.rows ↔ u ∈ s.db.users.rows ∨ u = row)
    (hfree : s.db.emailTaken row row.email = false) (hrow : row.deletedAt = none) :
    UniqueEmails t.db := by
  have hother := emailTaken_eq_false.mp hfree hrow
  intro u hu v hv hu' hv' hemail
  rcases (hrows u).mp hu with hold | rfl
  · rcases (hrows v).mp hv with hold' | rfl
    · exact hs u hold v hold' hu' hv' hemail
    · exact hother u hold hu' hemail
  · rcases (hrows v).mp hv with hold' | rfl
    · exact (hother v hold' hv' hemail.symm).symm
    · rfl

/-- What the steps that make the people of an account have done. -/
structure MakesPeople (input : PersistRegisteredUserInput) (s t : AccountTables) : Prop where
  only : OnlyRows input.authUserId s t
  people : PeopleOf t input
  papers : PapersComplete s → PapersComplete t
  emails : UniqueEmails s.db → UniqueEmails t.db

theorem UniqueEmails.of_users {db db' : Db} (h : db'.users = db.users) (hs : UniqueEmails db) :
    UniqueEmails db' := by
  unfold UniqueEmails
  rw [h]
  exact hs

theorem createUserWithRoleProfiles_ok
    (h : createUserWithRoleProfiles env input s = (.ok (), t)) : MakesPeople input s t := by
  unfold createUserWithRoleProfiles at h
  obtain ⟨_, s₁, huser, h⟩ := Prog.bind_eq_ok.mp h
  obtain ⟨_, s₂, hprofile, h⟩ := Prog.bind_eq_ok.mp h
  obtain ⟨honly, hrows, hfree, hpapers⟩ := createUserRow_ok huser
  obtain ⟨hadds, p, hp, hid⟩ := createUserProfile_ok hprofile
  have hmakes (hadds' : AddsRows input.authUserId s₁ t)
      (hstudent : input.targetRole = .student →
        ∃ p ∈ t.db.studentProfiles.rows, p.userId = input.authUserId)
      (hinstructor : input.targetRole = .instructor → ∃ q ∈ t.papers.rows,
        InstructorOfUser t input.authUserId q.instructorId ∧
          ∀ d, input.instructorBirthDate = some d → q.birthDate = some d)
      (hp : p ∈ t.db.userProfiles.rows) : MakesPeople input s t := by
    refine ⟨OnlyRows.trans honly hadds'.only, ⟨?_, ⟨p, hp, hid⟩, hstudent, hinstructor⟩,
      fun hs => hadds'.papers (hpapers hs),
      fun hs => .of_users hadds'.users (uniqueEmails_insert hs hrows hfree rfl)⟩
    rw [hadds'.users]
    exact ⟨_, (hrows _).mpr (Or.inr rfl), rfl, registered_row input _⟩
  split at h
  · next hstudent =>
    obtain ⟨hadds', hfound⟩ := createStudentProfile_ok h
    refine hmakes (hadds.trans hadds') (fun _ => hfound) (fun hi => ?_) (hadds'.profiles hp)
    rw [hstudent] at hi
    cases hi
  · next hstudent =>
    obtain ⟨license, s₃, hlift, h⟩ := Prog.bind_eq_ok.mp h
    obtain ⟨_, rfl⟩ := Prog.lift_eq_ok.mp hlift
    obtain ⟨hadds', q, hq, hof, hbirth⟩ := createInstructorProfile_ok h
    exact hmakes (hadds.trans hadds') (fun hs => absurd hs hstudent)
      (fun _ => ⟨q, hq, hof, fun d hd => hbirth.trans hd⟩) (hadds'.profiles hp)

theorem MakesPeople.attached (h : MakesPeople input s s')
    (hattach : attachRoleSchoolInTx input s' = (.ok (), t)) : Registered input s t := by
  obtain ⟨honly, hwhole, hlinks⟩ := h.people.attached hattach
  exact {
    only := h.only.trans honly
    whole := hwhole
    papers := fun hs => hlinks.papersComplete (h.papers hs)
    emails := fun hs => hlinks.uniqueEmails (h.emails hs) }

theorem createRegisteredUser_ok (h : createRegisteredUser env input s = (.ok (), t)) :
    Registered input s t := by
  obtain ⟨_, s₁, hpeople, hattach⟩ := Prog.bind_eq_ok.mp (Prog.transaction_eq_ok.mp h)
  exact (createUserWithRoleProfiles_ok hpeople).attached hattach

/-! ### An account that is there already -/

theorem updateUserRow_ok (h : updateUserRow input s = (.ok (), t)) :
    OnlyRows input.authUserId s t ∧ (∃ u ∈ t.db.users.rows, u.id = input.authUserId ∧
      u.registered (registerDbProfileFromRequest input.toRegistrationRequest) = u) ∧
      (PapersComplete s → PapersComplete t) ∧ (UniqueEmails s.db → UniqueEmails t.db) := by
  unfold updateUserRow at h
  obtain ⟨_, hchecked, hwrite⟩ := Prog.query_bind_eq_ok.mp h
  simp only [except_bind_eq_ok, orThrow_eq_ok, throwIf_eq_ok, Bool.not_eq_true] at hchecked
  obtain ⟨user, hfound, hfree⟩ := hchecked
  obtain rfl := Prog.write_eq_ok.mp hwrite
  have hf := User.id_registered (registerDbProfileFromRequest input.toRegistrationRequest)
  have hmem := Table.mem_of_findUnique hfound
  have hkey := Table.key_of_findUnique hfound
  refine ⟨⟨fun id' hne => ?_, rfl, rfl, fun _ h => h, fun _ h => h⟩, ?_, fun h => h, ?_⟩
  · refine { SameRows.refl id' s with user := ?_ }
    refine @Table.sameOn_update _ _ _ _ _ _ _ _ hf fun u _ hid => ?_
    exact ⟨fun h => hne (h.symm.trans hid), fun h => hne (h.symm.trans hid)⟩
  · refine ⟨_, (Table.mem_updateMany _ _ _ hf _).mpr ⟨user, hmem, if_pos (decide_eq_true hkey)⟩,
      hkey, registered_row input user⟩
  · intro hs u hu v hv hu' hv' hemail
    have hfree := emailTaken_eq_false.mp hfree
    rcases Table.mem_update_cases hf hfound hu with ⟨hold, _⟩ | rfl
    · rcases Table.mem_update_cases hf hfound hv with ⟨hold', _⟩ | rfl
      · exact hs u hold v hold' hu' hv' hemail
      · exact hfree hv' u hold hu' hemail
    · rcases Table.mem_update_cases hf hfound hv with ⟨hold', _⟩ | rfl
      · exact (hfree hu' v hold' hv' hemail.symm).symm
      · rfl

/-- Each profile that is missing is made. -/
theorem completeRoleProfiles_ok (hcomplete : PapersComplete s)
    (h : completeRoleProfiles env input (roleProfiles s.db input.authUserId) s = (.ok (), t)) :
    AddsRows input.authUserId s t ∧ (∃ p ∈ t.db.userProfiles.rows, p.userId = input.authUserId) ∧
      (input.targetRole = .student →
        ∃ p ∈ t.db.studentProfiles.rows, p.userId = input.authUserId) ∧
      (input.targetRole = .instructor → ∃ q ∈ t.papers.rows,
        InstructorOfUser t input.authUserId q.instructorId ∧
          ∀ d, input.instructorBirthDate = some d → q.birthDate = some d) := by
  unfold completeRoleProfiles at h
  obtain ⟨_, s₁, hprofile, h⟩ := Prog.bind_eq_ok.mp h
  obtain ⟨_, s₂, hstudent, h⟩ := Prog.bind_eq_ok.mp h
  obtain ⟨_, s₃, hinstructor, hbirth⟩ := Prog.bind_eq_ok.mp h
  have h₁ : AddsRows input.authUserId s s₁ ∧
      ∃ p ∈ s₁.db.userProfiles.rows, p.userId = input.authUserId := by
    rcases Prog.when_eq_ok.mp hprofile with ⟨_, hmade⟩ | ⟨hthere, rfl⟩
    · exact createUserProfile_ok hmade
    · rw [Bool.not_eq_false'] at hthere
      obtain ⟨p, hp⟩ := Option.isSome_iff_exists.mp hthere
      exact ⟨.refl _ _, p, Table.mem_of_findUnique hp, Table.key_of_findUnique hp⟩
  have h₂ : AddsRows input.authUserId s₁ s₂ ∧ (input.targetRole = .student →
      ∃ p ∈ s₂.db.studentProfiles.rows, p.userId = input.authUserId) := by
    rcases Prog.when_eq_ok.mp hstudent with ⟨_, hmade⟩ | ⟨hthere, rfl⟩
    · obtain ⟨hadds, hfound⟩ := createStudentProfile_ok hmade
      exact ⟨hadds, fun _ => hfound⟩
    · refine ⟨.refl _ _, fun hrole => ?_⟩
      have hmissing := Bool.and_eq_false_imp.mp hthere (decide_eq_true hrole)
      rw [Bool.not_eq_false'] at hmissing
      obtain ⟨p, hp, huser⟩ := (Table.findFirst_isSome _ _).mp hmissing
      exact ⟨p, h₁.1.students hp, of_decide_eq_true huser⟩
  have h₃ : AddsRows input.authUserId s₂ t ∧ (input.targetRole = .instructor →
      ∃ q ∈ t.papers.rows, InstructorOfUser t input.authUserId q.instructorId ∧
        ∀ d, input.instructorBirthDate = some d → q.birthDate = some d) := by
    have hprofiles := h₁.1.only.trans h₂.1.only
    rcases Prog.when_eq_ok.mp hinstructor with ⟨hmissing, hmade⟩ | ⟨hthere, rfl⟩
    · obtain ⟨license, s', hlift, hmade⟩ := Prog.bind_eq_ok.mp hmade
      obtain ⟨_, rfl⟩ := Prog.lift_eq_ok.mp hlift
      obtain ⟨hadds, q, hq, hof, hdate⟩ := createInstructorProfile_ok hmade
      rw [Bool.and_eq_true_iff, Bool.not_eq_true'] at hmissing
      rw [hmissing.2, Bool.and_false] at hbirth
      obtain ⟨_, rfl⟩ := Prog.pure_eq_ok.mp hbirth
      exact ⟨hadds, fun _ => ⟨q, hq, hof, fun d hd => hdate.trans hd⟩⟩
    · rcases Prog.when_eq_ok.mp hbirth with ⟨hthere', hset⟩ | ⟨hnot, rfl⟩
      · cases hdate : input.instructorBirthDate with
        | none =>
          rw [hdate] at hset
          obtain ⟨_, rfl⟩ := Prog.pure_eq_ok.mp hset
          obtain ⟨p, hp, huser⟩ :=
            (Table.findFirst_isSome _ _).mp (Bool.and_eq_true_iff.mp hthere').2
          have hp₂ := hprofiles.instructors hp
          obtain ⟨q, hq, hid⟩ := h₂.1.papers (h₁.1.papers hcomplete) p hp₂
          exact ⟨.refl _ _, fun _ => ⟨q, hq, ⟨p, hp₂, of_decide_eq_true huser, hid.symm⟩, nofun⟩⟩
        | some d =>
          rw [hdate] at hset
          obtain ⟨hadds, q, hq, hof, hbirth⟩ := setBirthDate_ok hset
          refine ⟨hadds, fun _ => ⟨q, hq, hof, fun d' hd' => ?_⟩⟩
          cases hd'
          exact hbirth
      · refine ⟨.refl _ _, fun hrole => ?_⟩
        have hmissing := Bool.and_eq_false_imp.mp hthere (decide_eq_true hrole)
        rw [Bool.and_eq_false_imp.mp hnot (decide_eq_true hrole)] at hmissing
        cases hmissing
  have hprofile' := h₂.1.trans h₃.1
  obtain ⟨p, hp, hid⟩ := h₁.2
  refine ⟨h₁.1.trans hprofile', ⟨p, hprofile'.profiles hp, hid⟩, fun hrole => ?_, h₃.2⟩
  obtain ⟨p, hp, hid⟩ := h₂.2 hrole
  exact ⟨p, h₃.1.students hp, hid⟩

theorem updateExistingRegisteredUser_ok (hcomplete : PapersComplete s)
    (h : updateExistingRegisteredUser env input s = (.ok (), t)) : Registered input s t := by
  obtain ⟨_, s₁, hupdate, h⟩ := Prog.bind_eq_ok.mp (Prog.transaction_eq_ok.mp h)
  obtain ⟨_, s₂, hensure, hattach⟩ := Prog.bind_eq_ok.mp h
  obtain ⟨honly, ⟨u, hu, hid, hmatches⟩, hpapers, hemails⟩ := updateUserRow_ok hupdate
  unfold ensureRoleProfilesAfterUserUpsert at hensure
  obtain ⟨found, hfound, hensure⟩ := Prog.query_bind_eq_ok.mp hensure
  rw [← hid, Table.findUnique_of_mem hu, Except.ok.injEq] at hfound
  subst hfound
  rw [Option.map_some, Prog.whenSome_some, hid] at hensure
  obtain ⟨hadds, hprofile, hstudent, hinstructor⟩ :=
    completeRoleProfiles_ok (hpapers hcomplete) hensure
  have hmakes : MakesPeople input s s₂ := by
    refine ⟨honly.trans hadds.only, ⟨⟨u, ?_, hid, hmatches⟩, hprofile, hstudent, hinstructor⟩,
      fun hs => hadds.papers (hpapers hs), fun hs => .of_users hadds.users (hemails hs)⟩
    rw [hadds.users]
    exact hu
  exact hmakes.attached hattach

end OSK
