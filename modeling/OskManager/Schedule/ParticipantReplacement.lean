import Mathlib.Data.List.Perm.Lattice
import OskManager.Sample.SmallSchool
import OskManager.Schedule.ParticipantWrites

/-! Replacing the participants of an event is an assignment of a set. The write deletes one
difference and inserts another, so what stays has to be followed row by row, and a repetition has
to pass the same checks on the state the first run left. -/

namespace OSK

open Relational

variable {env : Env} {db db' : Db} {actor : Actor} {eventId : Uuid}

/-! ### Lists without repetitions -/

theorem nodup_eraseDups {α : Type} [DecidableEq α] (l : List α) : l.eraseDups.Nodup := by
  induction hn : l.length using Nat.strong_induction_on generalizing l with
  | _ n ih =>
    subst hn
    cases l with
    | nil => simp
    | cons a rest =>
      have hshort : (rest.filter fun b => !b == a).length < (a :: rest).length :=
        Nat.lt_succ_of_le (List.length_filter_le _ rest)
      rw [List.eraseDups_cons, List.nodup_cons]
      exact ⟨by simp, ih _ hshort _ rfl⟩

theorem eraseDups_of_nodup {α : Type} [DecidableEq α] {l : List α} (h : l.Nodup) :
    l.eraseDups = l := by
  induction l with
  | nil => rfl
  | cons a rest ih =>
    obtain ⟨hnew, hrest⟩ := List.nodup_cons.mp h
    have hkeep : (rest.filter fun b => !b == a) = rest :=
      List.filter_eq_self.mpr fun b hb => by
        rw [Bool.not_eq_true', beq_eq_false_iff_ne]
        rintro rfl
        exact hnew hb
    rw [List.eraseDups_cons, hkeep, ih hrest]

/-- The request is taken exactly when nobody is named twice. -/
theorem length_eraseDups_iff {α : Type} [DecidableEq α] {l : List α} :
    l.eraseDups.length = l.length ↔ l.Nodup := by
  refine ⟨fun h => ?_, fun h => by rw [eraseDups_of_nodup h]⟩
  have hsub : l.eraseDups.Subperm l :=
    List.subperm_of_subset (nodup_eraseDups l) fun a ha => List.mem_eraseDups.mp ha
  exact (hsub.perm_of_length_le h.ge).nodup_iff.mp (nodup_eraseDups l)

theorem insertionSort_of_perm {l l' : List Uuid} (h : l.Perm l') :
    l.insertionSort (· ≤ ·) = l'.insertionSort (· ≤ ·) :=
  List.Perm.eq_of_pairwise (fun _ _ _ _ hab hba => le_antisymm hab hba)
    (List.pairwise_insertionSort _ l) (List.pairwise_insertionSort _ l')
    ((List.perm_insertionSort _ l).trans (h.trans (List.perm_insertionSort _ l').symm))

/-! ### The read phase, whatever the order of the request -/

/-- The student is the profile of one of the users. -/
def RequestedStudent (db : Db) (studentIds : List Uuid) (s : Uuid) : Prop :=
  ∃ userId ∈ studentIds, ∃ p,
    db.studentProfiles.findFirst (fun p => decide (p.userId = userId)) = some p ∧ p.id = s

/-- A lookup in the table of the request finds the profile of that user. -/
theorem lookup_profile {ids : List Uuid} {pairs : List (Uuid × Uuid)}
    (hpairs : loadActiveStudentUserIdToProfileIdMap db ids = .ok pairs) {userId s : Uuid}
    (h : pairs.lookup userId = some s) :
    ∃ p, db.studentProfiles.findFirst (fun p => decide (p.userId = userId)) = some p ∧
      p.id = s := by
  obtain ⟨before, after, rfl, -⟩ := List.lookup_eq_some_iff.mp h
  have hmem : (userId, s) ∈ before ++ (userId, s) :: after :=
    List.mem_append_right _ List.mem_cons_self
  simp only [loadActiveStudentUserIdToProfileIdMap, except_bind_eq_ok] at hpairs
  obtain ⟨_, _, hpairs⟩ := hpairs
  obtain ⟨u, -, hrow⟩ := mem_of_mapM_ok hpairs hmem
  simp only [except_bind_eq_ok, orThrow_eq_ok] at hrow
  obtain ⟨_, _, p, hp, hrow⟩ := hrow
  cases hrow
  exact ⟨p, hp, rfl⟩

theorem mem_resolved_iff {studentIds profileIds : List Uuid}
    (h : resolveStudentProfileIdsOrThrow db studentIds = .ok profileIds) (s : Uuid) :
    s ∈ profileIds ↔ RequestedStudent db studentIds s := by
  simp only [resolveStudentProfileIdsOrThrow, except_bind_eq_ok] at h
  obtain ⟨pairs, hpairs, h⟩ := h
  refine ⟨?_, ?_⟩
  · intro hs
    obtain ⟨userId, hmem, hlookup⟩ := mem_of_mapM_ok h hs
    rw [orThrow_eq_ok] at hlookup
    exact ⟨userId, hmem, lookup_profile hpairs hlookup⟩
  · intro hs
    obtain ⟨userId, hmem, p, hp, rfl⟩ := hs
    obtain ⟨s, hs, hlookup⟩ := exists_of_mapM_ok h hmem
    rw [orThrow_eq_ok] at hlookup
    obtain ⟨q, hq, rfl⟩ := lookup_profile hpairs hlookup
    cases hp.symm.trans hq
    exact hs

theorem everyone_resolved {studentIds profileIds : List Uuid}
    (h : resolveStudentProfileIdsOrThrow db studentIds = .ok profileIds) {userId : Uuid}
    (hmem : userId ∈ studentIds) : ∃ p,
      db.studentProfiles.findFirst (fun p => decide (p.userId = userId)) = some p ∧
        p.id ∈ profileIds := by
  simp only [resolveStudentProfileIdsOrThrow, except_bind_eq_ok] at h
  obtain ⟨pairs, hpairs, h⟩ := h
  obtain ⟨s, hs, hlookup⟩ := exists_of_mapM_ok h hmem
  rw [orThrow_eq_ok] at hlookup
  obtain ⟨p, hp, rfl⟩ := lookup_profile hpairs hlookup
  exact ⟨p, hp, hs⟩

theorem resolve_perm {ids again profileIds : List Uuid} (hp : ids.Perm again)
    (h : resolveStudentProfileIdsOrThrow db ids = .ok profileIds) :
    ∃ profileIds', resolveStudentProfileIdsOrThrow db again = .ok profileIds' ∧
      profileIds.Perm profileIds' := by
  have hmap : loadActiveStudentUserIdToProfileIdMap db again =
      loadActiveStudentUserIdToProfileIdMap db ids := by
    simp only [loadActiveStudentUserIdToProfileIdMap, hp.mem_iff, hp.length_eq]
  simp only [resolveStudentProfileIdsOrThrow, except_bind_eq_ok, hmap] at h ⊢
  obtain ⟨pairs, hpairs, h⟩ := h
  obtain ⟨profileIds', h', hperm⟩ := mapM_perm hp h
  exact ⟨profileIds', ⟨pairs, hpairs, h'⟩, hperm⟩

theorem allowedForEvent_perm {instructorId : Uuid} {ids again : List Uuid} (hp : ids.Perm again)
    (h : assertStudentProfilesAllowedForEvent db actor instructorId ids = .ok ()) :
    assertStudentProfilesAllowedForEvent db actor instructorId again = .ok () := by
  have hnil : ids = [] ↔ again = [] :=
    ⟨fun h => List.perm_nil.mp (h ▸ hp.symm), fun h => List.perm_nil.mp (h ▸ hp)⟩
  simp only [assertStudentProfilesAllowedForEvent, assertStudentProfilesInAllowedSchools,
    onlyIf_eq_ok, except_bind_eq_ok, forEach_eq_ok, ne_eq, hnil, hp.mem_iff] at h ⊢
  exact h

theorem inEventCourse_perm {courseId : Option Uuid} {ids again : List Uuid} (hp : ids.Perm again)
    (h : assertStudentProfilesInEventCourse db ids courseId = .ok ()) :
    assertStudentProfilesInEventCourse db again courseId = .ok () := by
  simp only [assertStudentProfilesInEventCourse, forSome_eq_ok, forEach_eq_ok, hp.mem_iff] at h ⊢
  exact h

theorem prepareEventStudentReplacement_eq_ok {studentIds : List Uuid}
    {prepared : PreparedEventStudentReplacement} :
    prepareEventStudentReplacement db actor eventId studentIds = .ok prepared ↔
      studentIds.Nodup ∧ ReplacementRules db actor eventId prepared ∧
        prepared.studentUserIds = studentIds ∧
        assertStudentProfilesAllowedForEvent db actor prepared.event.instructorId
          prepared.studentProfileIds = .ok () := by
  refine ⟨?_, ?_⟩
  · intro h
    have hrules := prepareEventStudentReplacement_ok h
    simp only [prepareEventStudentReplacement, getUniqueStudentIdsOrThrow, except_bind_eq_ok,
      throwIf_eq_ok, pure, Except.pure, Except.ok.injEq, ne_eq, not_not] at h
    obtain ⟨_, ⟨_, honce, rfl⟩, event, _, _, _, _, _, _, hallowed, _, _, rfl⟩ := h
    have hnodup := length_eraseDups_iff.mp honce
    exact ⟨hnodup, hrules, eraseDups_of_nodup hnodup, hallowed⟩
  · intro h
    obtain ⟨hnodup, hrules, rfl, hallowed⟩ := h
    obtain ⟨hload, hmanage⟩ := participantEvent_iff.mp hrules.event
    have hwindow : ({ prepared with
        start := prepared.event.startTime, stop := prepared.event.endTime } :
        PreparedEventStudentReplacement) = prepared := by
      rw [← hrules.start, ← hrules.stop]
    simp only [prepareEventStudentReplacement, getUniqueStudentIdsOrThrow,
      eraseDups_of_nodup hnodup, except_bind_eq_ok, throwIf_eq_ok, pure, Except.pure,
      Except.ok.injEq, ne_eq, not_true, not_false_eq_true, true_and]
    exact ⟨_, ⟨(), rfl⟩, _, hload, (), hmanage, _, hrules.resolved, (), hallowed, (),
      hrules.members, hwindow⟩

/-- The same students in another order are read as the same students in that order. -/
theorem prepare_perm {studentIds again : List Uuid} {prepared : PreparedEventStudentReplacement}
    (hp : studentIds.Perm again)
    (h : prepareEventStudentReplacement db actor eventId studentIds = .ok prepared) :
    ∃ profileIds, prepared.studentProfileIds.Perm profileIds ∧
      prepareEventStudentReplacement db actor eventId again =
        .ok { prepared with studentUserIds := again, studentProfileIds := profileIds } := by
  obtain ⟨hnodup, hrules, rfl, hallowed⟩ := prepareEventStudentReplacement_eq_ok.mp h
  obtain ⟨profileIds, hresolved, hperm⟩ := resolve_perm hp hrules.resolved
  refine ⟨profileIds, hperm, prepareEventStudentReplacement_eq_ok.mpr
    ⟨hp.nodup_iff.mp hnodup, ?_, rfl, allowedForEvent_perm hperm hallowed⟩⟩
  exact {
    event := hrules.event
    start := hrules.start
    stop := hrules.stop
    resolved := hresolved
    members := inEventCourse_perm hperm hrules.members }

/-! ### The rows of the write phase -/

theorem createParticipants_rows {l : List Uuid}
    (h : createParticipants env eventId l db = (.ok (), db')) :
    ∃ added, db'.eventParticipants.rows = db.eventParticipants.rows ++ added ∧
      ∀ p ∈ added, p.eventId = eventId := by
  induction l generalizing db with
  | nil =>
    cases h
    exact ⟨[], (List.append_nil _).symm, by simp⟩
  | cons studentId rest ih =>
    rw [createParticipants, Prog.bind_eq_ok] at h
    obtain ⟨_, db1, h1, h2⟩ := h
    obtain ⟨added, hrows, hevent⟩ := ih h2
    unfold createParticipant at h1
    split at h1
    · cases h1
    · cases h1
      simp only [Db.insertParticipant, Table.insert, List.append_assoc,
        List.singleton_append] at hrows
      exact ⟨_, hrows, List.forall_mem_cons.mpr ⟨rfl, hevent⟩⟩

/-- Only the participants of the event differ, and they are the requested students: those that
stay are the rows they were. -/
structure ParticipantsReplaced (db db' : Db) (eventId : Uuid) (studentIds : List Uuid) : Prop where
  only : ∃ t, db' = { db with eventParticipants := t }
  exact : ∀ s, (eventId, s) ∈ db'.eventParticipants.keys ↔ RequestedStudent db studentIds s
  everyone : ∀ userId ∈ studentIds, ∃ p,
    db.studentProfiles.findFirst (fun p => decide (p.userId = userId)) = some p ∧
      (eventId, p.id) ∈ db'.eventParticipants.keys
  kept : ∀ p ∈ db.eventParticipants.rows, p.eventId = eventId →
    RequestedStudent db studentIds p.studentId → p ∈ db'.eventParticipants.rows
  others : (db'.eventParticipants.findMany fun p => decide (p.eventId ≠ eventId)) =
    db.eventParticipants.findMany fun p => decide (p.eventId ≠ eventId)

theorem writeReplaceStudents_rows {prepared : PreparedEventStudentReplacement}
    (h : writeReplaceStudents env eventId prepared db = (.ok (), db')) :
    (∀ p ∈ db.eventParticipants.rows, p.eventId = eventId →
      p.studentId ∈ prepared.studentProfileIds → p ∈ db'.eventParticipants.rows) ∧
    (db'.eventParticipants.findMany fun p => decide (p.eventId ≠ eventId)) =
      db.eventParticipants.findMany fun p => decide (p.eventId ≠ eventId) := by
  simp only [writeReplaceStudents, Prog.bind_eq_ok, Prog.transaction_eq_ok, Prog.query_eq_ok,
    Prog.write_eq_ok, Except.ok.injEq] at h
  obtain ⟨_, _, ⟨-, rfl⟩, _, _, ⟨rfl, rfl⟩, _, _, rfl, hc⟩ := h
  obtain ⟨added, hrows, hevent⟩ := createParticipants_rows hc
  refine ⟨fun p hp hpe hstay => ?_, ?_⟩
  · rw [hrows]
    refine List.mem_append_left _ ?_
    simp [Db.removeParticipants, hp, hstay]
  · have hnone : added.filter (fun p => decide (p.eventId ≠ eventId)) = [] :=
      List.filter_eq_nil_iff.mpr fun p hp => by simp [hevent p hp]
    simp only [Table.findMany, hrows, List.filter_append, hnone, List.append_nil]
    simp only [Db.removeParticipants, Table.deleteMany, List.filter_filter]
    refine List.filter_congr fun p _ => ?_
    by_cases hpe : p.eventId = eventId <;> simp [hpe]

/-- A replacement by the students that are there already writes nothing. -/
theorem writeReplaceStudents_same {prepared : PreparedEventStudentReplacement}
    (hallowed : assertReplacementAllowed db prepared = .ok ())
    (hsame : ∀ s, (eventId, s) ∈ db.eventParticipants.keys ↔ s ∈ prepared.studentProfileIds) :
    writeReplaceStudents env eventId prepared db = (.ok (), db) := by
  have hremove : ((eventStudentIds db eventId).filter fun id =>
      decide (id ∉ prepared.studentProfileIds)) = [] :=
    List.filter_eq_nil_iff.mpr fun s hs => by
      simpa using (hsame s).mp ((mem_eventStudentIds db eventId s).mp hs)
  have hadd : (prepared.studentProfileIds.filter fun id =>
      decide (id ∉ eventStudentIds db eventId)) = [] :=
    List.filter_eq_nil_iff.mpr fun s hs => by
      simpa using (mem_eventStudentIds db eventId s).mpr ((hsame s).mpr hs)
  have hkeep : db.removeParticipants eventId [] = db := by
    simp [Db.removeParticipants, Table.deleteMany]
  simp only [writeReplaceStudents, Prog.transaction_eq_ok, Prog.query_bind_eq_ok]
  refine ⟨(), hallowed, _, rfl, ?_⟩
  rw [hremove, hadd, Prog.bind_eq_ok]
  exact ⟨(), db, Prog.write_eq_ok.mpr hkeep, rfl⟩

/-- The conflicts of a student lie outside the event, so the write does not change them. -/
theorem conflicts_of_participants {p : Uuid → Prop} (h : ParticipantsBecome db db' eventId p)
    (hothers : (db'.eventParticipants.findMany fun p => decide (p.eventId ≠ eventId)) =
      db.eventParticipants.findMany fun p => decide (p.eventId ≠ eventId))
    {start stop : Instant} {ids ids' : List Uuid} (hperm : ids.Perm ids')
    (hfree : findStudentProfileIdsWithScheduleConflictsForEventWindow db eventId start stop ids =
      []) :
    findStudentProfileIdsWithScheduleConflictsForEventWindow db' eventId start stop ids' = [] := by
  obtain ⟨t, rfl⟩ := h.only
  have hrow (p : EventParticipant) (hp : p.eventId ≠ eventId) :
      p ∈ t.rows ↔ p ∈ db.eventParticipants.rows := by
    have hmem : p ∈ (t.findMany fun p => decide (p.eventId ≠ eventId)) ↔
        p ∈ db.eventParticipants.findMany fun p => decide (p.eventId ≠ eventId) := by rw [hothers]
    simpa [Table.mem_findMany, hp] using hmem
  rw [List.eq_nil_iff_forall_not_mem] at hfree ⊢
  intro s hs
  refine hfree s (mem_conflictingStudents.mpr ?_)
  obtain ⟨hmem, hbusy⟩ := mem_conflictingStudents.mp hs
  refine ⟨hperm.mem_iff.mpr hmem, hbusy.imp_right fun h => ?_⟩
  obtain ⟨p, hp, hps, hpe, hb⟩ := h
  exact ⟨p, (hrow p hpe).mp hp, hps, hpe, hb⟩

theorem replaced_again {again : List Uuid} {env' : Env}
    {prepared : PreparedEventStudentReplacement}
    (hprepared : prepareEventStudentReplacement db actor eventId prepared.studentUserIds =
      .ok prepared)
    (hwrite : writeReplaceStudents env eventId prepared db = (.ok (), db'))
    (hp : prepared.studentUserIds.Perm again) :
    replaceEventStudents env' actor eventId again db' =
      (.ok (again.insertionSort (· ≤ ·)), db') := by
  obtain ⟨hcapacity, hfree, hbecome⟩ := writeReplaceStudents_ok hwrite
  obtain ⟨-, hothers⟩ := writeReplaceStudents_rows hwrite
  obtain ⟨profileIds, hperm, hagain⟩ := prepare_perm hp hprepared
  have hid : prepared.event.id = eventId :=
    Table.key_of_findUnique (prepareEventStudentReplacement_ok hprepared).event.found
  refine replaceEventStudents_eq_ok.mpr
    ⟨{ prepared with studentUserIds := again, studentProfileIds := profileIds }, ?_, ?_, rfl⟩
  · obtain ⟨t, rfl⟩ := hbecome.only
    exact hagain
  · refine writeReplaceStudents_same (assertReplacementAllowed_eq_ok.mpr ⟨?_, ?_⟩) fun s => ?_
    · intro c hc
      rw [← hp.length_eq]
      exact hcapacity c hc
    · rw [hid] at hfree ⊢
      exact conflicts_of_participants hbecome hothers hperm hfree
    · exact (hbecome.event s).trans hperm.mem_iff

/-- Replacing the participants has set semantics, and a refusal writes nothing. -/
theorem replaceEventStudents_set (env : Env) (actor : Actor) (eventId : Uuid)
    (studentIds : List Uuid) (db : Db) :
    (∀ r db', replaceEventStudents env actor eventId studentIds db = (.ok r, db') →
      ParticipantsReplaced db db' eventId studentIds ∧
      r = studentIds.insertionSort (· ≤ ·) ∧
      ∀ (env' : Env) (again : List Uuid), studentIds.Perm again →
        replaceEventStudents env' actor eventId again db' = (.ok r, db')) ∧
    ∀ e db', replaceEventStudents env actor eventId studentIds db = (.error e, db') → db' = db := by
  refine ⟨?_, ?_⟩
  · intro r db' h
    obtain ⟨prepared, hprepared, hwrite, rfl⟩ := replaceEventStudents_eq_ok.mp h
    obtain ⟨-, hrules, rfl, -⟩ := prepareEventStudentReplacement_eq_ok.mp hprepared
    obtain ⟨-, -, hbecome⟩ := writeReplaceStudents_ok hwrite
    obtain ⟨hkept, hothers⟩ := writeReplaceStudents_rows hwrite
    have hresolved := mem_resolved_iff hrules.resolved
    refine ⟨?_, rfl, fun env' again hp => ?_⟩
    · exact {
        only := hbecome.only
        exact := fun s => (hbecome.event s).trans (hresolved s)
        everyone := by
          intro userId hmem
          obtain ⟨p, hp, hmem⟩ := everyone_resolved hrules.resolved hmem
          exact ⟨p, hp, (hbecome.event p.id).mpr hmem⟩
        kept := fun p hp hpe hstay => hkept p hp hpe ((hresolved _).mpr hstay)
        others := hothers }
    · rw [insertionSort_of_perm hp]
      exact replaced_again hprepared hwrite hp
  · intro e db' h
    rcases (replaceEventStudents_fails env actor eventId studentIds).cases db with ⟨a, ha⟩ | hs
    · rw [h] at ha
      cases ha
    · rw [h] at hs
      exact hs

namespace OneStudentLecture

open SmallSchool

/-- A lecture on Tuesday at ten, and its only participant. -/
def start : Db :=
  SmallSchool.db .empty
    (.singleton { tuesdayEvent with id := 61, type := .theory, vehicleId := none })
    (.singleton { id := 1, eventId := 61, studentId := 30, createdAt := 0 })

def replacing (studentIds : List Uuid) : Service (List Uuid) :=
  replaceEventStudents (envAt (clock 4 8 0)) manager 61 studentIds

end OneStudentLecture

open OneStudentLecture in
/-- The second student joins the first, whose row stays. -/
theorem replaceEventStudents_set_join :
    let after := (replacing [4, 3] start).2
    ParticipantsReplaced start after 61 [4, 3] ∧ replacing [3, 4] after = (.ok [3, 4], after) := by
  have hrun : replacing [4, 3] start = (.ok [3, 4], (replacing [4, 3] start).2) :=
    Prod.ext (by decide +kernel) rfl
  obtain ⟨hreplaced, -, hagain⟩ := (replaceEventStudents_set _ _ _ _ _).1 _ _ hrun
  exact ⟨hreplaced, hagain _ _ (by decide)⟩

end OSK
