import OskManager.Lib.Calls
import OskManager.Model.DrivingSchools
import OskManager.Sample.SmallSchool

/-! The default school of an owner. Whatever the owner adds, deletes and chooses, the default is one
of the schools that are left, and is missing only when none is left. The reconciliation that ends
a call repairs nothing but the deletion of a default whose id is spelled in capital letters. -/

namespace OSK

open Relational

variable {env : Env} {db db' : Db} {userId : Uuid}

def DrivingSchool.ActiveOf (ownerId : Uuid) (s : DrivingSchool) : Prop :=
  s.ownerId = ownerId ∧ s.deletedAt = none

/-- The default of the owner is an active school of his, and is there when he has one. -/
structure DefaultSchoolSound (userId : Uuid) (db : Db) : Prop where
  owner : ∃ u, db.users.findUnique userId = some u
  active : ∀ id, db.storedDefaultOsk userId = some id →
    ∃ s ∈ db.drivingSchools.rows, s.id = id ∧ s.ActiveOf userId
  none_iff : db.storedDefaultOsk userId = none ↔
    ∀ s ∈ db.drivingSchools.rows, ¬s.ActiveOf userId

/-- The owner has no active school and no default. -/
structure WithoutSchools (userId : Uuid) (db : Db) : Prop where
  owner : ∃ u, db.users.findUnique userId = some u
  stored : db.storedDefaultOsk userId = none
  schools : ∀ s ∈ db.drivingSchools.rows, ¬s.ActiveOf userId

theorem WithoutSchools.sound (h : WithoutSchools userId db) : DefaultSchoolSound userId db := by
  refine ⟨h.owner, fun id hid => ?_, iff_of_true h.stored h.schools⟩
  rw [h.stored] at hid
  cases hid

theorem mem_activeSchools {s : DrivingSchool} :
    s ∈ db.activeSchools userId ↔ s ∈ db.drivingSchools.rows ∧ s.ActiveOf userId := by
  rw [Db.activeSchools, Table.mem_findMany, decide_eq_true_eq]
  rfl

theorem activeSchools_eq_nil :
    db.activeSchools userId = [] ↔ ∀ s ∈ db.drivingSchools.rows, ¬s.ActiveOf userId := by
  rw [List.eq_nil_iff_forall_not_mem]
  simp only [mem_activeSchools, not_and]

/-! ### The stored default -/

section Stored

variable (db) (howner : ∃ u, db.users.findUnique userId = some u)
include howner

theorem owner_setDefaultOsk (defaultOskId : Option Uuid) :
    ∃ u, (db.setDefaultOsk userId defaultOskId).users.findUnique userId = some u := by
  obtain ⟨u, hu⟩ := howner
  refine ⟨u.withStoredDefault defaultOskId, ?_⟩
  rw [Db.setDefaultOsk, Table.findUnique_update, if_pos rfl, hu]
  rfl

theorem storedDefaultOsk_setDefaultOsk (defaultOskId : Option Uuid) :
    (db.setDefaultOsk userId defaultOskId).storedDefaultOsk userId = defaultOskId := by
  obtain ⟨u, hu⟩ := howner
  rw [Db.storedDefaultOsk, Db.setDefaultOsk, Table.findUnique_update, if_pos rfl, hu]
  rfl

theorem updateDefaultOsk_run (defaultOskId : Option Uuid) :
    updateDefaultOsk userId defaultOskId db = (.ok (), db.setDefaultOsk userId defaultOskId) := by
  obtain ⟨u, hu⟩ := howner
  rw [updateDefaultOsk, Prog.query_bind_run, hu]
  rfl

theorem DefaultSchoolSound.setDefaultOsk {s : DrivingSchool} (hs : s ∈ db.drivingSchools.rows)
    (hactive : s.ActiveOf userId) :
    DefaultSchoolSound userId (db.setDefaultOsk userId (some s.id)) := by
  refine ⟨owner_setDefaultOsk db howner _, fun id hid => ?_, ?_⟩
  · rw [storedDefaultOsk_setDefaultOsk db howner] at hid
    obtain rfl := Option.some_inj.mp hid
    exact ⟨s, hs, rfl, hactive⟩
  · rw [storedDefaultOsk_setDefaultOsk db howner]
    exact iff_of_false nofun fun hall => hall s hs hactive

end Stored

/-- A sound default stays as it is. -/
theorem reconcileAfter_run (h : DefaultSchoolSound userId db) :
    reconcileAfter userId db = (.ok (db.storedDefaultOsk userId), db) := by
  rw [reconcileAfter, Prog.query_bind_run]
  dsimp only
  rw [Prog.query_bind_run]
  dsimp only
  unfold reconcileUserDefaultOskId
  cases hstored : db.storedDefaultOsk userId with
  | none =>
    rw [activeSchools_eq_nil.mpr (h.none_iff.mp hstored)]
    rfl
  | some id =>
    obtain ⟨s, hs, rfl, hactive⟩ := h.active id hstored
    have hmem : s.id ∈ (db.activeSchools userId).map DrivingSchool.id :=
      List.mem_map_of_mem (mem_activeSchools.mpr ⟨hs, hactive⟩)
    rw [if_pos (by simpa only [Option.any_some, decide_eq_true_eq] using hmem)]
    rfl

/-! ### Adding -/

theorem mem_insertSchool {data : CreateDrivingSchoolInput} {s : DrivingSchool} :
    s ∈ (db.insertSchool env userId data).drivingSchools.rows ↔
      s ∈ db.drivingSchools.rows ∨ s = db.nextSchool env userId data :=
  Table.mem_insert db.drivingSchools _ (env.uuid_fresh _) s

/-- The store after a new school, which becomes the default if it is the first one. -/
def Db.withNewSchool (db : Db) (env : Env) (userId : Uuid) (data : CreateDrivingSchoolInput)
    (isFirstSchool : Bool) : Db :=
  if isFirstSchool then
    (db.insertSchool env userId data).setDefaultOsk userId (some (db.nextSchool env userId data).id)
  else db.insertSchool env userId data

theorem writeNewSchool_run (howner : ∃ u, db.users.findUnique userId = some u)
    (data : CreateDrivingSchoolInput) (isFirstSchool : Bool) :
    writeNewSchool env userId data isFirstSchool db =
      (.ok (mapSchoolWithOfferedSettings (db.withNewSchool env userId data isFirstSchool)
        (db.nextSchool env userId data)), db.withNewSchool env userId data isFirstSchool) := by
  rw [writeNewSchool, Prog.transaction_eq_ok, Prog.query_bind_eq_ok]
  refine ⟨_, rfl, Prog.bind_eq_ok.mpr ⟨(), _, rfl, Prog.bind_eq_ok.mpr ⟨(), _, ?_, rfl⟩⟩⟩
  cases isFirstSchool with
  | false => rfl
  | true => exact updateDefaultOsk_run (db.insertSchool env userId data) howner _

theorem DefaultSchoolSound.withNewSchool (h : DefaultSchoolSound userId db)
    (data : CreateDrivingSchoolInput) : DefaultSchoolSound userId
      (db.withNewSchool env userId data (decide ((db.activeSchools userId).length = 0))) := by
  unfold Db.withNewSchool
  split
  · exact DefaultSchoolSound.setDefaultOsk (db.insertSchool env userId data) h.owner
      (mem_insertSchool.mpr (Or.inr rfl)) ⟨rfl, rfl⟩
  · next hothers =>
    rw [decide_eq_true_eq, List.length_eq_zero_iff, activeSchools_eq_nil] at hothers
    refine ⟨h.owner, fun id hid => ?_, iff_of_false ?_ fun hall => hothers fun s hs => ?_⟩
    · obtain ⟨s, hs, hrest⟩ := h.active id hid
      exact ⟨s, mem_insertSchool.mpr (Or.inl hs), hrest⟩
    · exact fun hnone => hothers (h.none_iff.mp hnone)
    · exact hall s (mem_insertSchool.mpr (Or.inl hs))

theorem createDrivingSchoolForOwner_store (h : DefaultSchoolSound userId db)
    (data : CreateDrivingSchoolInput) :
    (createDrivingSchoolForOwner env userId data db).2 =
      db.withNewSchool env userId data (decide ((db.activeSchools userId).length = 0)) := by
  have hsound : DefaultSchoolSound userId (db.withNewSchool env userId data _) :=
    h.withNewSchool data
  rw [createDrivingSchoolForOwner, Prog.query_bind_run]
  dsimp only
  rw [Prog.bind_run, writeNewSchool_run h.owner]
  cases hfirst : decide ((db.activeSchools userId).length = 0) with
  | true => rfl
  | false =>
    rw [hfirst] at hsound
    have hquiet : Prog.when (!false) (Prog.discard (reconcileAfter userId))
        (db.withNewSchool env userId data false) =
          (.ok (), db.withNewSchool env userId data false) := by
      show Prog.discard (reconcileAfter userId) _ = _
      rw [Prog.discard, reconcileAfter_run hsound]
      rfl
    dsimp only
    rw [Prog.bind_run, hquiet]
    rfl

/-! ### Deleting -/

theorem mem_deleteSchool_active {now : Instant} {id : Uuid} {s : DrivingSchool} :
    (s ∈ (db.deleteSchool now id).drivingSchools.rows ∧ s.ActiveOf userId) ↔
      (s ∈ db.drivingSchools.rows ∧ s.ActiveOf userId) ∧ s.id ≠ id := by
  refine ⟨fun h => ?_, fun h => ⟨?_, h.1.2⟩⟩
  · rcases Table.mem_updateMany_cases (DrivingSchool.id_deleted now) h.1 with
      ⟨hold, hid⟩ | ⟨t, _, _, rfl⟩
    · exact ⟨⟨hold, h.2⟩, of_decide_eq_false hid⟩
    · cases h.2.2
  · refine (Table.mem_updateMany _ _ _ (DrivingSchool.id_deleted now) _).mpr ⟨s, h.1.1, ?_⟩
    rw [if_neg]
    simpa using h.2

/-- One of the schools that were created first, if there is any. -/
def FirstOf (l : List DrivingSchool) : Option DrivingSchool → Prop
  | none => l = []
  | some s => s ∈ l ∧ ∀ t ∈ l, s.createdAt ≤ t.createdAt

theorem firstOf_nextDefaultSchool :
    FirstOf (db.activeSchools userId) (nextDefaultSchool db userId) := by
  have hsorted := List.pairwise_insertionSort (fun a b : DrivingSchool => a.createdAt ≤ b.createdAt)
    (db.activeSchools userId)
  have hperm := List.perm_insertionSort (fun a b : DrivingSchool => a.createdAt ≤ b.createdAt)
    (db.activeSchools userId)
  unfold nextDefaultSchool
  cases hlist : (db.activeSchools userId).insertionSort fun a b => a.createdAt ≤ b.createdAt with
  | nil => exact (hlist ▸ hperm).nil_eq.symm
  | cons s rest =>
    rw [hlist] at hsorted hperm
    refine ⟨hperm.subset List.mem_cons_self, fun t ht => ?_⟩
    rcases List.mem_cons.mp (hperm.symm.subset ht) with rfl | ht
    · exact le_rfl
    · exact (List.pairwise_cons.mp hsorted).1 t ht

theorem FirstOf.cons_cons {a b s : DrivingSchool} {rest : List DrivingSchool}
    (h : FirstOf ((if a.createdAt ≤ b.createdAt then a else b) :: rest) (some s)) :
    FirstOf (a :: b :: rest) (some s) := by
  obtain ⟨hs, hfirst⟩ := h
  obtain ⟨hbefore, hrest⟩ := List.forall_mem_cons.mp hfirst
  rw [List.mem_cons] at hs
  by_cases hle : a.createdAt ≤ b.createdAt
  · rw [if_pos hle] at hs hbefore
    refine ⟨List.mem_cons.mpr (hs.imp_right (List.mem_cons_of_mem b)), ?_⟩
    exact List.forall_mem_cons.mpr ⟨hbefore, List.forall_mem_cons.mpr ⟨hbefore.trans hle, hrest⟩⟩
  · rw [if_neg hle] at hs hbefore
    refine ⟨List.mem_cons_of_mem a (List.mem_cons.mpr hs), ?_⟩
    have hlater := hbefore.trans (not_le.mp hle).le
    exact List.forall_mem_cons.mpr ⟨hlater, List.forall_mem_cons.mpr ⟨hbefore, hrest⟩⟩

theorem firstOf_earliest : (l : List DrivingSchool) → FirstOf l (earliest l)
  | [] => rfl
  | a :: rest => by
    rw [earliest]
    induction rest generalizing a with
    | nil => exact ⟨List.mem_singleton_self a, by simp⟩
    | cons b rest ih => exact (ih _).cons_cons

/-- The default is one of the owner's schools that were created first, if any is left. -/
def DefaultsToEarliest (userId : Uuid) (db : Db) : Prop :=
  match db.storedDefaultOsk userId with
  | none => ∀ s ∈ db.drivingSchools.rows, ¬s.ActiveOf userId
  | some id => ∃ s ∈ db.drivingSchools.rows, s.id = id ∧ s.ActiveOf userId ∧
      ∀ t ∈ db.drivingSchools.rows, t.ActiveOf userId → s.createdAt ≤ t.createdAt

theorem DefaultsToEarliest.sound (howner : ∃ u, db.users.findUnique userId = some u)
    (h : DefaultsToEarliest userId db) : DefaultSchoolSound userId db := by
  unfold DefaultsToEarliest at h
  split at h
  · next hnone =>
    refine ⟨howner, fun id hid => ?_, iff_of_true hnone h⟩
    cases hnone.symm.trans hid
  · next id hsome =>
    obtain ⟨s, hs, rfl, hactive, _⟩ := h
    refine ⟨howner, fun id hid => ?_, iff_of_false ?_ fun hall => hall s hs hactive⟩
    · obtain rfl := Option.some_inj.mp (hsome.symm.trans hid)
      exact ⟨s, hs, rfl, hactive⟩
    · rw [hsome]
      nofun

theorem FirstOf.defaultsToEarliest {next : Option DrivingSchool}
    (h : FirstOf (db.activeSchools userId) next)
    (howner : ∃ u, db.users.findUnique userId = some u) :
    DefaultsToEarliest userId (db.setDefaultOsk userId (next.map DrivingSchool.id)) := by
  rw [DefaultsToEarliest, storedDefaultOsk_setDefaultOsk db howner]
  cases next with
  | none => exact activeSchools_eq_nil.mp h
  | some s =>
    obtain ⟨hs, hfirst⟩ := h
    obtain ⟨hs, hactive⟩ := mem_activeSchools.mp hs
    exact ⟨s, hs, rfl, hactive, fun t ht htactive => hfirst t (mem_activeSchools.mpr ⟨ht, htactive⟩)⟩

/-- A default that is not among the schools any more is replaced. -/
theorem reconcileAfter_repairs (howner : ∃ u, db.users.findUnique userId = some u) {id : Uuid}
    (hstored : db.storedDefaultOsk userId = some id)
    (hlost : id ∉ (db.activeSchools userId).map DrivingSchool.id) :
    reconcileAfter userId db =
      (.ok ((earliest (db.activeSchools userId)).map DrivingSchool.id),
        db.setDefaultOsk userId ((earliest (db.activeSchools userId)).map DrivingSchool.id)) := by
  have hrun := updateDefaultOsk_run db howner
  rw [reconcileAfter, Prog.query_bind_run]
  dsimp only
  rw [Prog.query_bind_run]
  dsimp only
  rw [hstored, reconcileUserDefaultOskId,
    if_neg (by simpa only [Option.any_some, decide_eq_true_eq] using hlost)]
  cases earliest (db.activeSchools userId) with
  | none => exact Prog.bind_eq_ok.mpr ⟨(), _, hrun none, rfl⟩
  | some s => exact Prog.bind_eq_ok.mpr ⟨(), _, hrun (some s.id), rfl⟩

/-- The store that the transaction leaves. Only a default that is spelled as it is stored is
replaced in it. -/
def Db.withoutSchool (db : Db) (env : Env) (userId : Uuid) (id : UuidText) : Db :=
  if (db.storedDefaultOsk userId).map .ofUuid = some id then
    (db.deleteSchool env.now id.uuid).setDefaultOsk userId
      ((nextDefaultSchool (db.deleteSchool env.now id.uuid) userId).map DrivingSchool.id)
  else db.deleteSchool env.now id.uuid

/-- The deletion of another school. -/
theorem DefaultSchoolSound.deleteSchool (h : DefaultSchoolSound userId db) {id : Uuid}
    (hother : db.storedDefaultOsk userId ≠ some id) (now : Instant) :
    DefaultSchoolSound userId (db.deleteSchool now id) := by
  refine ⟨h.owner, fun d hd => ?_, fun hnone s hs hactive => ?_, fun hall => ?_⟩
  · obtain ⟨s, hs, rfl, hactive⟩ := h.active d hd
    have hne : s.id ≠ id := fun hid => hother (hid ▸ hd)
    obtain ⟨hs, hactive⟩ := mem_deleteSchool_active.mpr ⟨⟨hs, hactive⟩, hne⟩
    exact ⟨s, hs, rfl, hactive⟩
  · obtain ⟨⟨hs, hactive⟩, _⟩ := mem_deleteSchool_active.mp ⟨hs, hactive⟩
    exact h.none_iff.mp hnone s hs hactive
  · cases hdefault : db.storedDefaultOsk userId with
    | none => exact hdefault
    | some d =>
      obtain ⟨s, hs, rfl, hactive⟩ := h.active d hdefault
      have hne : s.id ≠ id := fun hid => hother (hid ▸ hdefault)
      obtain ⟨hs, hactive⟩ := mem_deleteSchool_active.mpr ⟨⟨hs, hactive⟩, hne⟩
      exact absurd hactive (hall s hs)

theorem writeSchoolDeletion_run (howner : ∃ u, db.users.findUnique userId = some u)
    (id : UuidText) :
    writeSchoolDeletion env userId id db =
      (.ok { id, defaultOskId := (db.withoutSchool env userId id).storedDefaultOsk userId },
        db.withoutSchool env userId id) := by
  rw [writeSchoolDeletion, Prog.transaction_eq_ok, Prog.query_bind_eq_ok]
  refine ⟨_, rfl, Prog.bind_eq_ok.mpr ⟨(), _, rfl, ?_⟩⟩
  by_cases hdefault : (db.storedDefaultOsk userId).map .ofUuid = some id
  · have hupdate := updateDefaultOsk_run (db.deleteSchool env.now id.uuid) howner
      ((nextDefaultSchool (db.deleteSchool env.now id.uuid) userId).map DrivingSchool.id)
    rw [if_pos hdefault, Db.withoutSchool, if_pos hdefault,
      storedDefaultOsk_setDefaultOsk (db.deleteSchool env.now id.uuid) howner]
    exact Prog.query_bind_eq_ok.mpr ⟨_, rfl, Prog.bind_eq_ok.mpr ⟨(), _, hupdate, rfl⟩⟩
  · rw [if_neg hdefault, Db.withoutSchool, if_neg hdefault]
    rfl

/-- What a deletion leaves: a default that was deleted has been replaced, by the transaction or by
the reconciliation after it, and another one has been kept. -/
structure SchoolDeleted (userId : Uuid) (id : UuidText) (db db' : Db) : Prop where
  sound : DefaultSchoolSound userId db'
  replaced : db.storedDefaultOsk userId = some id.uuid → DefaultsToEarliest userId db'
  kept : db.storedDefaultOsk userId ≠ some id.uuid →
    db'.storedDefaultOsk userId = db.storedDefaultOsk userId

theorem DefaultsToEarliest.schoolDeleted {id : UuidText} (h : DefaultsToEarliest userId db')
    (howner : ∃ u, db'.users.findUnique userId = some u)
    (hdefault : db.storedDefaultOsk userId = some id.uuid) : SchoolDeleted userId id db db' :=
  ⟨h.sound howner, fun _ => h, fun hother => absurd hdefault hother⟩

/-- The call after its first check, whatever the spelling of the id. -/
theorem deleteSchool_reconciled (env : Env) (h : DefaultSchoolSound userId db) (id : UuidText) :
    ∃ db', reconcileAfter userId (db.withoutSchool env userId id) =
        (.ok (db'.storedDefaultOsk userId), db') ∧ SchoolDeleted userId id db db' := by
  by_cases hdefault : db.storedDefaultOsk userId = some id.uuid
  · by_cases hspelled : (db.storedDefaultOsk userId).map .ofUuid = some id
    · rw [Db.withoutSchool, if_pos hspelled]
      have hfirst : FirstOf ((db.deleteSchool env.now id.uuid).activeSchools userId)
          (nextDefaultSchool (db.deleteSchool env.now id.uuid) userId) :=
        firstOf_nextDefaultSchool
      have howner := owner_setDefaultOsk (db.deleteSchool env.now id.uuid) h.owner
        ((nextDefaultSchool (db.deleteSchool env.now id.uuid) userId).map DrivingSchool.id)
      have hearliest := hfirst.defaultsToEarliest h.owner
      exact ⟨_, reconcileAfter_run (hearliest.sound howner), hearliest.schoolDeleted howner hdefault⟩
    · rw [Db.withoutSchool, if_neg hspelled]
      have hlost : id.uuid ∉
          ((db.deleteSchool env.now id.uuid).activeSchools userId).map DrivingSchool.id := by
        intro hmem
        obtain ⟨s, hs, hid⟩ := List.mem_map.mp hmem
        exact (mem_deleteSchool_active.mp (mem_activeSchools.mp hs)).2 hid
      have howner := owner_setDefaultOsk (db.deleteSchool env.now id.uuid) h.owner
        ((earliest ((db.deleteSchool env.now id.uuid).activeSchools userId)).map DrivingSchool.id)
      have hfirst := firstOf_earliest ((db.deleteSchool env.now id.uuid).activeSchools userId)
      have hearliest := hfirst.defaultsToEarliest h.owner
      refine ⟨_, ?_, hearliest.schoolDeleted howner hdefault⟩
      rw [storedDefaultOsk_setDefaultOsk (db.deleteSchool env.now id.uuid) h.owner]
      exact reconcileAfter_repairs h.owner hdefault hlost
  · have hspelled : (db.storedDefaultOsk userId).map .ofUuid ≠ some id :=
      fun heq => hdefault (UuidText.map_ofUuid_eq_some_iff.mp heq).1
    rw [Db.withoutSchool, if_neg hspelled]
    have hsound := h.deleteSchool hdefault env.now
    exact ⟨_, reconcileAfter_run hsound, hsound, fun hsame => absurd hsame hdefault, fun _ => rfl⟩

/-- A call that is refused changes nothing; otherwise the school is gone, and the response has the
default that is stored. -/
theorem deleteDrivingSchoolForOwner_run (env : Env) (h : DefaultSchoolSound userId db)
    (id : UuidText) :
    (∃ e, deleteDrivingSchoolForOwner env userId id db = (.error e, db)) ∨
      ∃ db', deleteDrivingSchoolForOwner env userId id db =
          (.ok { id, defaultOskId := db'.storedDefaultOsk userId }, db') ∧
        SchoolDeleted userId id db db' := by
  rw [deleteDrivingSchoolForOwner, Prog.query_bind_run]
  cases loadOwnedActiveDrivingSchoolOrThrow db userId id.uuid with
  | error e => exact Or.inl ⟨e, rfl⟩
  | ok school =>
    obtain ⟨db', hreconciled, hdeleted⟩ := deleteSchool_reconciled env h id
    refine Or.inr ⟨db', Prog.bind_eq_ok.mpr ⟨_, _, writeSchoolDeletion_run h.owner id, ?_⟩, hdeleted⟩
    exact Prog.bind_eq_ok.mpr ⟨_, _, hreconciled, rfl⟩

/-! ### Runs -/

theorem setDefaultDrivingSchoolForOwner_sound (h : DefaultSchoolSound userId db) (id : Uuid) :
    DefaultSchoolSound userId (setDefaultDrivingSchoolForOwner userId id db).2 := by
  rw [setDefaultDrivingSchoolForOwner, Prog.query_bind_run]
  cases hload : loadOwnedActiveDrivingSchoolOrThrow db userId id with
  | error e => exact h
  | ok school =>
    simp only [loadOwnedActiveDrivingSchoolOrThrow, except_bind_eq_ok, orThrow_eq_ok,
      throwIf_eq_ok, not_not] at hload
    obtain ⟨_, hfound, _, hleft, _, howned, ⟨⟩⟩ := hload
    dsimp only
    rw [Prog.bind_pure_store (k := fun _ => school.id), updateDefaultOsk_run db h.owner]
    exact DefaultSchoolSound.setDefaultOsk db h.owner (Table.mem_of_findUnique hfound) ⟨howned, hleft⟩

/-- A call of the owner. -/
inductive OwnerCall where
  | createDrivingSchool (env : Env) (data : CreateDrivingSchoolInput)
  | setDefaultDrivingSchool (id : Uuid)
  | deleteDrivingSchool (env : Env) (id : UuidText)
  | getResolvedDefaultOskId

/-- The store after a call. -/
def OwnerCall.run (userId : Uuid) (db : Db) : OwnerCall → Db
  | .createDrivingSchool env data => (createDrivingSchoolForOwner env userId data db).2
  | .setDefaultDrivingSchool id => (setDefaultDrivingSchoolForOwner userId id db).2
  | .deleteDrivingSchool env id => (deleteDrivingSchoolForOwner env userId id db).2
  | .getResolvedDefaultOskId => (getResolvedDefaultOskIdForOwner userId db).2

def ownerCalls (userId : Uuid) : Calls OwnerCall Db :=
  .unrestricted fun call db => call.run userId db

theorem OwnerCall.run_sound (call : OwnerCall) (h : DefaultSchoolSound userId db) :
    DefaultSchoolSound userId (call.run userId db) := by
  cases call with
  | createDrivingSchool env data =>
    show DefaultSchoolSound userId (createDrivingSchoolForOwner env userId data db).2
    rw [createDrivingSchoolForOwner_store h]
    exact h.withNewSchool data
  | setDefaultDrivingSchool id => exact setDefaultDrivingSchoolForOwner_sound h id
  | deleteDrivingSchool env id =>
    show DefaultSchoolSound userId (deleteDrivingSchoolForOwner env userId id db).2
    rcases deleteDrivingSchoolForOwner_run env h id with ⟨e, hrun⟩ | ⟨db', hrun, hdeleted⟩
    · rw [hrun]
      exact h
    · rw [hrun]
      exact hdeleted.sound
  | getResolvedDefaultOskId =>
    show DefaultSchoolSound userId (reconcileAfter userId db).2
    rw [reconcileAfter_run h]
    exact h

/-- What a deletion that succeeds does to the default. -/
theorem deleteDrivingSchoolForOwner_default (h : DefaultSchoolSound userId db) {id : UuidText}
    {dto : DeletedDrivingSchoolDto}
    (hdelete : deleteDrivingSchoolForOwner env userId id db = (.ok dto, db')) :
    (db.storedDefaultOsk userId = some id.uuid → DefaultsToEarliest userId db') ∧
      (db.storedDefaultOsk userId ≠ some id.uuid →
        db'.storedDefaultOsk userId = db.storedDefaultOsk userId) := by
  rcases deleteDrivingSchoolForOwner_run env h id with ⟨e, hrun⟩ | ⟨_, hrun, hdeleted⟩
  · cases hrun.symm.trans hdelete
  · obtain ⟨_, rfl⟩ := Prod.ext_iff.mp (hrun.symm.trans hdelete)
    exact ⟨hdeleted.replaced, hdeleted.kept⟩

/-- Calls of an owner who begins without schools, in any number and order. -/
theorem run_defaultSchoolSound {reached : Db} (h : WithoutSchools userId db)
    (hrun : (ownerCalls userId).Run db reached) :
    DefaultSchoolSound userId reached ∧
      ∀ env id dto db', deleteDrivingSchoolForOwner env userId id reached = (.ok dto, db') →
        (reached.storedDefaultOsk userId = some id.uuid → DefaultsToEarliest userId db') ∧
          (reached.storedDefaultOsk userId ≠ some id.uuid →
            db'.storedDefaultOsk userId = reached.storedDefaultOsk userId) := by
  have hsound : DefaultSchoolSound userId reached :=
    Calls.Run.invariant (fun call _ _ hdb => call.run_sound hdb) h.sound hrun
  exact ⟨hsound, fun env id dto db' hdelete => deleteDrivingSchoolForOwner_default hsound hdelete⟩

/-! ### Samples -/

namespace ThreeSchools

def start : Db := { SmallSchool.db with drivingSchools := .empty }

theorem start_withoutSchools : WithoutSchools 1 start :=
  ⟨⟨_, rfl⟩, rfl, fun _ hs => absurd hs List.not_mem_nil⟩

/-- Three schools, of which the last one has the earliest time, and a choice. -/
def calls : List OwnerCall :=
  [.createDrivingSchool (SmallSchool.envAt 2) { name := "Centrum" },
    .createDrivingSchool (SmallSchool.envAt 3) { name := "Rynek" },
    .createDrivingSchool (SmallSchool.envAt 1) { name := "Dworzec" }, .setDefaultDrivingSchool 2]

def reached : Db := (ownerCalls 1).after calls start

end ThreeSchools

open ThreeSchools in
/-- The chosen school is deleted. -/
theorem run_defaultSchoolSound_threeSchools : DefaultSchoolSound 1 reached ∧
    reached.storedDefaultOsk 1 = some 2 ∧
      DefaultsToEarliest 1 (deleteDrivingSchoolForOwner (SmallSchool.envAt 4) 1 2 reached).2 := by
  obtain ⟨hsound, hdeleted⟩ := run_defaultSchoolSound start_withoutSchools
    (Calls.unrestricted_run_after _ calls start)
  have hchosen : reached.storedDefaultOsk 1 = some 2 := by decide +kernel
  have hdelete : (deleteDrivingSchoolForOwner (SmallSchool.envAt 4) 1 2 reached).1 =
      .ok { id := 2, defaultOskId := some 4 } := by
    decide +kernel
  exact ⟨hsound, hchosen, (hdeleted _ 2 _ _ (Prod.ext hdelete rfl)).1 hchosen⟩

end OSK
