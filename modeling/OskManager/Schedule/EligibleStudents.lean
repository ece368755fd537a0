import OskManager.Model.EventEligibility
import OskManager.Sample.SmallSchool
import OskManager.Schedule.ParticipantWrites

/-! The list of students that can be assigned to a theory event, against the assignment. The list
asks for a seat and a free schedule, the assignment also for the account and the school: they agree
exactly when the active participants of the course pass both. -/

namespace OSK

open Relational

variable {env : Env} {db db' : Db} {actor : Actor} {eventId : Uuid} {event : InstructorEvent}

/-! ### The assignment of one student -/

/-- The unique index on the user of a student profile. -/
def UniqueProfiles (db : Db) : Prop :=
  ∀ p ∈ db.studentProfiles.rows, ∀ q ∈ db.studentProfiles.rows, p.userId = q.userId → p = q

/-- The student has a usable account and a school that the actor may use for the instructor. -/
structure StudentAccepted (db : Db) (actor : Actor) (instructorId : Uuid)
    (student : StudentProfile) : Prop where
  account : ∃ u, db.users.findUnique student.userId = some u ∧ u.deletedAt = none ∧
    u.role = .student
  school : ∃ ids, getSchoolIdsForEventParticipantValidation db actor instructorId = .ok ids ∧
    ∃ l ∈ db.studentSchools.rows, l.studentId = student.id ∧ l.schoolId ∈ ids

/-- The student does not attend the event yet, is free, and finds a seat. -/
structure OpenFor (db : Db) (event : InstructorEvent) (studentId : Uuid) : Prop where
  new : (event.id, studentId) ∉ db.eventParticipants.keys
  free : studentId ∉ findStudentProfileIdsWithScheduleConflictsForEventWindow db event.id
    event.startTime event.endTime [studentId]
  seat : ∀ c, event.capacity = some c → ((eventStudentIds db event.id).length : ℤ) < c

theorem findFirst_profile (hunique : UniqueProfiles db) {student : StudentProfile}
    (hstudent : student ∈ db.studentProfiles.rows) :
    db.studentProfiles.findFirst (fun p => decide (p.userId = student.userId)) = some student := by
  cases h : db.studentProfiles.findFirst (fun p => decide (p.userId = student.userId)) with
  | none =>
    have hmiss := (Table.findFirst_eq_none _ _).mp h student hstudent
    simp at hmiss
  | some p =>
    obtain ⟨hp, huser⟩ := Table.mem_of_findFirst h
    rw [hunique p hp student hstudent (of_decide_eq_true huser)]

theorem resolveStudentProfileIds_one_iff (hunique : UniqueProfiles db) {student : StudentProfile}
    (hstudent : student ∈ db.studentProfiles.rows) {ids : List Uuid} :
    resolveStudentProfileIdsOrThrow db [student.userId] = .ok ids ↔
      (∃ u, db.users.findUnique student.userId = some u ∧ u.deletedAt = none ∧
        u.role = .student) ∧ ids = [student.id] := by
  have husers : db.users.findMany (fun u => decide (u.id ∈ [student.userId])) =
      (db.users.findUnique student.userId).toList := by
    simp only [List.mem_singleton]
    exact db.users.findMany_key student.userId
  have hprofile := findFirst_profile hunique hstudent
  simp only [resolveStudentProfileIdsOrThrow, loadActiveStudentUserIdToProfileIdMap, husers]
  cases hu : db.users.findUnique student.userId with
  | none => simp [throwIf, bind, Except.bind]
  | some u =>
    have hid : u.id = student.userId := Table.key_of_findUnique hu
    simp only [Option.toList_some, List.mapM_cons, List.mapM_nil, except_bind_eq_ok, throwIf_eq_ok,
      hid, hprofile, orThrow_eq_ok, pure, Except.pure, Except.ok.injEq, Option.some.injEq]
    refine ⟨?_, ?_⟩
    · intro h
      obtain ⟨_, ⟨_, _, _, ⟨_, hlive, _, rfl, rfl⟩, _, rfl, rfl⟩, _, hlookup, _, rfl, rfl⟩ := h
      simp only [not_or, not_not, ne_eq] at hlive
      simp only [List.lookup_cons, beq_self_eq_true, Option.some.injEq] at hlookup
      exact ⟨⟨u, rfl, hlive.1, hlive.2⟩, by rw [hlookup]⟩
    · intro h
      obtain ⟨⟨_, rfl, hlive, hrole⟩, rfl⟩ := h
      refine ⟨_, ⟨(), ?_, _, ⟨(), ?_, _, rfl, rfl⟩, _, rfl, rfl⟩, _, ?_, _, rfl, rfl⟩
      · simp
      · simp [hlive, hrole]
      · simp

theorem assertStudentAllowed_one_iff {instructorId studentId : Uuid} :
    assertStudentProfilesAllowedForEvent db actor instructorId [studentId] true = .ok () ↔
      ∃ ids, getSchoolIdsForEventParticipantValidation db actor instructorId = .ok ids ∧
        ∃ l ∈ db.studentSchools.rows, l.studentId = studentId ∧ l.schoolId ∈ ids := by
  simp only [assertStudentProfilesAllowedForEvent, assertStudentProfilesInAllowedSchools,
    onlyIf_eq_ok, except_bind_eq_ok, throwIf_eq_ok, forEach_eq_ok, List.mem_singleton,
    forall_eq, ne_eq, Option.isNone_iff_eq_none]
  refine ⟨?_, ?_⟩
  · intro h
    obtain ⟨ids, hids, _, _, hcovered⟩ := h (Or.inr trivial)
    obtain ⟨_, _, hlink⟩ := hcovered (List.cons_ne_nil _ _)
    obtain ⟨l, hl, hwhere⟩ := (Table.findFirst_isSome _ _).mp (Option.isSome_iff_ne_none.mpr hlink)
    exact ⟨ids, hids, l, hl, of_decide_eq_true hwhere⟩
  · intro h _
    obtain ⟨ids, hids, l, hl, hstudent, hschool⟩ := h
    have hsome : ¬ids = [] := List.ne_nil_of_mem hschool
    refine ⟨ids, hids, (), hsome, fun _ => ⟨(), hsome, ?_⟩⟩
    exact Option.isSome_iff_ne_none.mp
      ((Table.findFirst_isSome _ _).mpr ⟨l, hl, decide_eq_true ⟨hstudent, hschool⟩⟩)

theorem prepareAssignStudents_one_iff (hunique : UniqueProfiles db) {student : StudentProfile}
    (hstudent : student ∈ db.studentProfiles.rows)
    (hevent : ParticipantEvent db actor eventId event) {prepared : PreparedAssignment} :
    prepareAssignStudents db actor eventId [student.userId] = .ok prepared ↔
      StudentAccepted db actor event.instructorId student ∧ prepared = ⟨event, [student.id]⟩ := by
  rw [prepareAssignStudents_eq_ok]
  have honce : [student.userId].eraseDups = [student.userId] := rfl
  rw [honce, resolveStudentProfileIds_one_iff hunique hstudent]
  refine ⟨?_, ?_⟩
  · intro h
    obtain ⟨_, hfound, ⟨haccount, hids⟩, hallowed⟩ := h
    obtain ⟨event', ids⟩ := prepared
    cases hfound.found.symm.trans hevent.found
    obtain rfl : ids = [student.id] := hids
    exact ⟨⟨haccount, assertStudentAllowed_one_iff.mp hallowed⟩, rfl⟩
  · intro h
    obtain ⟨haccepted, rfl⟩ := h
    exact ⟨rfl, hevent, ⟨haccepted.account, rfl⟩,
      assertStudentAllowed_one_iff.mpr haccepted.school⟩

theorem OpenFor.written (env : Env) {studentId : Uuid} (h : OpenFor db event studentId) :
    ∃ r db', writeAssignStudents env event.id ⟨event, [studentId]⟩ db = (.ok r, db') ∧
      (event.id, studentId) ∈ db'.eventParticipants.keys := by
  have hadded : newProfileIds db event.id [studentId] = [studentId] := by
    simp [newProfileIds, mem_eventStudentIds, h.new]
  have hallowed : assertAssignmentAllowed db event.id ⟨event, [studentId]⟩ = .ok () := by
    simp only [assertAssignmentAllowed, hadded, except_bind_eq_ok, forSome_eq_ok, throwIf_eq_ok,
      forEach_eq_ok, List.mem_singleton, forall_eq, assertNewParticipant_eq_ok,
      List.length_singleton]
    refine ⟨(), fun c hc => ?_, h.free⟩
    have hseat := h.seat c hc
    omega
  have hwrite : writeAssignStudents env event.id ⟨event, [studentId]⟩ db =
      (.ok ⟨1, 0⟩, db.insertParticipant env event.id studentId h.new) := by
    simp only [writeAssignStudents, Prog.transaction_eq_ok, Prog.query_bind_eq_ok]
    refine ⟨_, rfl, (), hallowed, ?_⟩
    rw [hadded, Prog.bind_eq_ok]
    refine ⟨(), _, ?_, rfl⟩
    rw [createParticipants, Prog.bind_eq_ok]
    exact ⟨(), _, dif_neg h.new, rfl⟩
  refine ⟨_, _, hwrite, ?_⟩
  exact (Table.mem_keys_insert _ _ h.new _).mpr (Or.inr rfl)

theorem assigned_openFor {userIds : List Uuid} {studentId : Uuid}
    (hfound : db.instructorEvents.findUnique eventId = some event)
    (hnew : (eventId, studentId) ∉ db.eventParticipants.keys)
    (hassigned : (eventId, studentId) ∈
      (assignStudentsToEvent env actor eventId userIds db).2.eventParticipants.keys) :
    OpenFor db event studentId := by
  obtain rfl : event.id = eventId := Table.key_of_findUnique hfound
  rcases (assignStudentsToEvent_fails env actor event.id userIds).cases db with ⟨r, hok⟩ | hs
  · obtain ⟨prepared, hprepared, hwrite⟩ := assignStudentsToEvent_eq_ok.mp hok
    obtain ⟨_, hevent, _⟩ := prepareAssignStudents_eq_ok.mp hprepared
    obtain ⟨_, rfl, hseats, hfree, hb⟩ := writeAssignStudents_ok hwrite
    have hadded := ((hb.event studentId).mp hassigned).resolve_left hnew
    rw [Option.some_inj.mp (hevent.found.symm.trans hfound)] at hseats hfree
    refine ⟨hnew, hfree studentId hadded, fun c hc => ?_⟩
    have hfits := hseats c hc
    have hpos := List.length_pos_of_mem hadded
    omega
  · rw [hs] at hassigned
    exact absurd hassigned hnew

/-! ### The list -/

theorem remainingSeats_all_pos {limit : Option ℤ} {used : ℕ} :
    (remainingSeats limit used).all (fun n => decide (0 < n)) = true ↔
      ∀ c, limit = some c → (used : ℤ) < c := by
  cases limit <;> simp [remainingSeats]

/-- The row is about the participant of the course, and is marked exactly when the event is open to
the student. -/
def RowOf (db : Db) (event : InstructorEvent) (p : CourseParticipant)
    (row : TheoryEventEligibleStudentRowDto) : Prop :=
  ∃ student ∈ db.studentProfiles.rows, student.id = p.studentId ∧ row.id = student.id ∧
    row.userId = student.userId ∧ (row.canAssign = true ↔ OpenFor db event student.id)

theorem eligibleStudentRow_ok {candidates : List Uuid} {p : CourseParticipant}
    {row : TheoryEventEligibleStudentRowDto} (hcandidate : p.studentId ∈ candidates)
    (h : eligibleStudentRow db (eventStudentIds db event.id)
      (findStudentProfileIdsWithScheduleConflictsForEventWindow db event.id event.startTime
        event.endTime candidates)
      (remainingSeats event.capacity (eventStudentIds db event.id).length) p = .ok row) :
    RowOf db event p row := by
  simp only [eligibleStudentRow, except_bind_eq_ok, orThrow_eq_ok, pure, Except.pure,
    Except.ok.injEq] at h
  obtain ⟨student, hstudent, user, _, rfl⟩ := h
  have hid : student.id = p.studentId := Table.key_of_findUnique hstudent
  refine ⟨student, Table.mem_of_findUnique hstudent, hid, rfl, rfl, ?_⟩
  have hconflict : student.id ∉ findStudentProfileIdsWithScheduleConflictsForEventWindow db event.id
      event.startTime event.endTime candidates ↔
      student.id ∉ findStudentProfileIdsWithScheduleConflictsForEventWindow db event.id
        event.startTime event.endTime [student.id] := by
    simp only [mem_conflictingStudents, hid, hcandidate, List.mem_singleton]
  simp only [Bool.and_eq_true, Bool.not_eq_true', decide_eq_false_iff_not,
    remainingSeats_all_pos, hconflict, mem_eventStudentIds, and_assoc]
  exact ⟨fun h => ⟨h.1, h.2.1, h.2.2⟩, fun h => ⟨h.new, h.free, h.seat⟩⟩

/-- What the list is about: the event, and one row for every active participant of its course. -/
structure EligibleList (db : Db) (actor : Actor) (eventId : Uuid) (event : InstructorEvent)
    (courseId : Uuid) (dto : ListTheoryEventEligibleStudentsResult) : Prop where
  managed : ParticipantEvent db actor eventId event
  course : event.courseId = some courseId
  row : ∀ row ∈ dto.students, ∃ p ∈ db.courseParticipants.rows, p.courseId = courseId ∧
    p.status = .active ∧ RowOf db event p row
  listed : ∀ p ∈ db.courseParticipants.rows, p.courseId = courseId → p.status = .active →
    ∃ row ∈ dto.students, RowOf db event p row

theorem listTheoryEventEligibleStudents_ok {textLE : String → String → Bool}
    {dto : ListTheoryEventEligibleStudentsResult}
    (h : listTheoryEventEligibleStudents textLE db actor eventId = .ok dto) :
    ∃ event courseId, EligibleList db actor eventId event courseId dto := by
  simp only [listTheoryEventEligibleStudents, except_bind_eq_ok, orThrow_eq_ok, throwIf_eq_ok,
    ne_eq, not_not, Bool.not_eq_false, Option.getD_none, pure, Except.pure, Except.ok.injEq] at h
  obtain ⟨event, hfound, _, hactive, _, htheory, courseId, hcourse, _, hmanageable, students, hrows,
    rfl⟩ := h
  refine ⟨event, courseId, ⟨hfound, hactive, hmanageable, htheory⟩, hcourse, ?_, ?_⟩
  · intro row hrow
    obtain ⟨p, hp, hok⟩ := mem_of_mapM_ok hrows ((List.mem_insertionSort _).mp hrow)
    obtain ⟨hmem, hwhere⟩ := (Table.mem_findMany _ _ _).mp hp
    obtain ⟨hpcourse, hpactive⟩ := of_decide_eq_true hwhere
    exact ⟨p, hmem, hpcourse, hpactive, eligibleStudentRow_ok (List.mem_map_of_mem hp) hok⟩
  · intro p hp hpcourse hpactive
    have hmem := (Table.mem_findMany db.courseParticipants
      (fun p => decide (p.courseId = courseId ∧ p.status = .active)) p).mpr
        ⟨hp, decide_eq_true ⟨hpcourse, hpactive⟩⟩
    obtain ⟨row, hrow, hok⟩ := exists_of_mapM_ok hrows hmem
    exact ⟨row, (List.mem_insertionSort _).mpr hrow,
      eligibleStudentRow_ok (List.mem_map_of_mem hmem) hok⟩

/-! ### The list against the assignment -/

/-- A student marked as assignable is assigned by the same actor in the same state, and one that is
not marked does not become a participant. -/
def MarksAssignable (env : Env) (db : Db) (actor : Actor) (eventId : Uuid)
    (dto : ListTheoryEventEligibleStudentsResult) : Prop :=
  ∀ row ∈ dto.students,
    (row.canAssign = true → ∃ r db', assignStudentsToEvent env actor eventId [row.userId] db =
      (.ok r, db') ∧ (eventId, row.id) ∈ db'.eventParticipants.keys) ∧
    (row.canAssign = false → (eventId, row.id) ∈
        (assignStudentsToEvent env actor eventId [row.userId] db).2.eventParticipants.keys →
      (eventId, row.id) ∈ db.eventParticipants.keys)

/-- The active participants of the course that are open to the event have usable accounts and
schools. -/
def MembersAccepted (db : Db) (actor : Actor) (eventId : Uuid) : Prop :=
  ∀ event, db.instructorEvents.findUnique eventId = some event →
    ∀ p ∈ db.courseParticipants.rows, event.courseId = some p.courseId → p.status = .active →
      OpenFor db event p.studentId → ∀ student ∈ db.studentProfiles.rows,
        student.id = p.studentId → StudentAccepted db actor event.instructorId student

/-- Where the event is open to a student, the rest is up to the account and the school. -/
theorem OpenFor.assigned_iff {student : StudentProfile} (h : OpenFor db event student.id)
    (hunique : UniqueProfiles db) (hstudent : student ∈ db.studentProfiles.rows)
    (hevent : ParticipantEvent db actor eventId event) :
    (∃ r db', assignStudentsToEvent env actor eventId [student.userId] db = (.ok r, db') ∧
        (eventId, student.id) ∈ db'.eventParticipants.keys) ↔
      StudentAccepted db actor event.instructorId student := by
  refine ⟨?_, ?_⟩
  · intro hassigned
    obtain ⟨r, db', hok, _⟩ := hassigned
    obtain ⟨prepared, hprepared, _⟩ := assignStudentsToEvent_eq_ok.mp hok
    exact ((prepareAssignStudents_one_iff hunique hstudent hevent).mp hprepared).1
  · intro haccepted
    obtain rfl : event.id = eventId := Table.key_of_findUnique hevent.found
    obtain ⟨r, db', hwrite, hassigned⟩ := h.written env
    have hprepared := (prepareAssignStudents_one_iff hunique hstudent hevent).mpr ⟨haccepted, rfl⟩
    exact ⟨r, db', assignStudentsToEvent_eq_ok.mpr ⟨_, hprepared, hwrite⟩, hassigned⟩

namespace ReopenedMember

open SmallSchool

/-- A theory event of the course, on Tuesday at noon. -/
def lecture : InstructorEvent where
  id := 61
  instructorId := 20
  schoolId := 10
  courseId := some 50
  type := .theory
  startTime := clock 5 12 0
  endTime := clock 5 13 0

/-- The school with the event, where the account of the second student may be archived. -/
def start (deletedAt : Option Instant) : Db :=
  { SmallSchool.db .empty ⟨[lecture], List.nodup_singleton _⟩ with
    users := ⟨[{ id := 1, role := .manager }, { id := 2, role := .instructor },
      { id := 3, role := .student }, { id := 4, role := .student, deletedAt },
      { id := 5, role := .instructor }], by simp⟩ }

def list (deletedAt : Option Instant) : Except Failure ListTheoryEventEligibleStudentsResult :=
  listTheoryEventEligibleStudents (fun _ _ => true) (start deletedAt) manager 61

theorem uniqueProfiles (deletedAt : Option Instant) : UniqueProfiles (start deletedAt) := by
  intro p hp q hq h
  simp only [start, SmallSchool.db, List.mem_cons, List.not_mem_nil, or_false] at hp hq
  rcases hp with rfl | rfl <;> rcases hq with rfl | rfl <;> simp_all

/-- The students on the list, with their marks. -/
def marks (deletedAt : Option Instant) : List (Uuid × Uuid × Bool) :=
  match list deletedAt with
  | .ok dto => dto.students.map fun row => (row.id, row.userId, row.canAssign)
  | .error _ => []

theorem list_ok (deletedAt : Option Instant) (mark : Uuid × Uuid × Bool)
    (h : mark ∈ marks deletedAt) : ∃ dto, list deletedAt = .ok dto ∧
      ∃ row ∈ dto.students, (row.id, row.userId, row.canAssign) = mark := by
  unfold marks at h
  split at h
  · next dto hdto => exact ⟨dto, hdto, List.mem_map.mp h⟩
  · cases h

theorem membersAccepted : MembersAccepted (start none) manager 61 := by
  intro event hfound p _ _ _ _ student hstudent _
  cases Option.some_inj.mp (hfound.symm.trans (show _ = some lecture from rfl))
  have hschools : getSchoolIdsForEventParticipantValidation (start none) manager 20 = .ok [10] := rfl
  simp only [start, SmallSchool.db, List.mem_cons, List.not_mem_nil, or_false] at hstudent
  rcases hstudent with rfl | rfl
  · exact ⟨⟨_, rfl, rfl, rfl⟩, [10], hschools, ⟨30, 10⟩, List.mem_cons_self, rfl,
      List.mem_cons_self⟩
  · exact ⟨⟨_, rfl, rfl, rfl⟩, [10], hschools, ⟨31, 10⟩, List.mem_cons_of_mem _ List.mem_cons_self,
      rfl, List.mem_cons_self⟩

end ReopenedMember

open ReopenedMember in
/-- An archived student, whose enrolment is active, is marked but cannot be assigned. -/
theorem not_marksAssignable : ¬∀ (textLE : String → String → Bool) (env : Env) (db : Db)
    (actor : Actor) (eventId : Uuid) (dto : ListTheoryEventEligibleStudentsResult),
    UniqueProfiles db → listTheoryEventEligibleStudents textLE db actor eventId = .ok dto →
      MarksAssignable env db actor eventId dto := by
  intro h
  obtain ⟨dto, hlist, row, hrow, hmark⟩ :=
    list_ok (some 0) (31, 4, true) (by decide +kernel)
  simp only [Prod.mk.injEq] at hmark
  obtain ⟨hid, huser, hmarked⟩ := hmark
  obtain ⟨r, db', hok, _⟩ := (h (fun _ _ => true) (SmallSchool.envAt 0) _ _ _ _
    (uniqueProfiles _) hlist row hrow).1 hmarked
  rw [huser] at hok
  have hfails : (assignStudentsToEvent (SmallSchool.envAt 0) SmallSchool.manager 61 [4]
      (start (some 0))).1 = .error (.notFound "One or more students not found") := by
    decide +kernel
  rw [hok] at hfails
  cases hfails

/-- The list marks exactly who can be assigned, when every active participant of the course that the
event is open to has a usable account and school. -/
theorem marksAssignable_iff {textLE : String → String → Bool}
    {dto : ListTheoryEventEligibleStudentsResult} (hunique : UniqueProfiles db)
    (hlist : listTheoryEventEligibleStudents textLE db actor eventId = .ok dto) :
    MarksAssignable env db actor eventId dto ↔ MembersAccepted db actor eventId := by
  obtain ⟨event, courseId, hdto⟩ := listTheoryEventEligibleStudents_ok hlist
  have hevent := hdto.managed
  refine ⟨?_, ?_⟩
  · intro h event' hfound p hp hcourse hactive hopen student hstudent hid
    cases hevent.found.symm.trans hfound
    have hcourse : p.courseId = courseId := Option.some_inj.mp (hcourse.symm.trans hdto.course)
    obtain ⟨row, hrow, listed, hlisted, hlistedId, hrowId, hrowUser, hmark⟩ :=
      hdto.listed p hp hcourse hactive
    obtain rfl : listed = student :=
      db.studentProfiles.key_inj hlisted hstudent (hlistedId.trans hid.symm)
    rw [← hid] at hopen
    have hassigned := (h row hrow).1 (hmark.mpr hopen)
    rw [hrowId, hrowUser] at hassigned
    exact (hopen.assigned_iff hunique hstudent hevent).mp hassigned
  · intro h row hrow
    obtain ⟨p, hp, hcourse, hactive, student, hstudent, hid, hrowId, hrowUser, hmark⟩ :=
      hdto.row row hrow
    rw [hrowId, hrowUser]
    refine ⟨fun hmarked => ?_, fun hunmarked hassigned => ?_⟩
    · have hopen := hmark.mp hmarked
      apply (hopen.assigned_iff hunique hstudent hevent).mpr
      refine h event hevent.found p hp ?_ hactive (hid ▸ hopen) student hstudent hid
      rw [hdto.course, hcourse]
    · by_contra hnew
      rw [hmark.mpr (assigned_openFor hevent.found hnew hassigned)] at hunmarked
      cases hunmarked

open ReopenedMember in
theorem marksAssignable_iff_members : ∃ dto, list none = .ok dto ∧ dto.students ≠ [] ∧
    MarksAssignable (SmallSchool.envAt 0) (start none) SmallSchool.manager 61 dto := by
  obtain ⟨dto, hlist, row, hrow, _⟩ :=
    list_ok none (31, 4, true) (by decide +kernel)
  exact ⟨dto, hlist, List.ne_nil_of_mem hrow,
    (marksAssignable_iff (uniqueProfiles none) hlist).mpr membersAccepted⟩

end OSK
