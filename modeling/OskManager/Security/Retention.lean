import Mathlib.Algebra.Order.Ring.Int
import Mathlib.Data.Nat.Cast.Order.Ring
import OskManager.Model.SecurityRetention
import OskManager.Security.Detector

/-! What a call of the retention worker deletes: the oldest of the expired events, as many as its
batches hold, and the states that are done with and have long been idle. -/

namespace OSK

open Relational

section Doomed

variable {log : SecurityLog} {cutoff : Instant} {locked : Uuid → Bool} {e : SecurityEvent}
  {doomed doomed' : List SecurityEvent}

theorem mem_doomed : e ∈ log.doomed cutoff locked ↔
    e ∈ log.events.rows ∧ e.occurredAt < cutoff ∧ locked e.id = false := by
  rw [SecurityLog.doomed, List.mem_insertionSort, Table.mem_findMany, Bool.and_eq_true,
    decide_eq_true_eq, Bool.not_eq_true']

/-- The oldest event is deleted first. -/
theorem doomed_ascending (log : SecurityLog) (cutoff : Instant) (locked : Uuid → Bool) :
    (log.doomed cutoff locked).Pairwise fun a b => a.position < b.position :=
  Keyset.sortUp_ascending ((position_distinct log).filter _)

theorem mem_without (hdoomed : doomed ⊆ log.events.rows) :
    e ∈ (log.without doomed).events.rows ↔ e ∈ log.events.rows ∧ e ∉ doomed := by
  rw [SecurityLog.without, Table.mem_deleteMany, decide_eq_false_iff_not]
  refine and_congr_right fun he => not_congr ⟨fun hid => ?_, List.mem_map_of_mem⟩
  obtain ⟨d, hd, hsame⟩ := List.mem_map.mp hid
  rwa [← log.events.key_inj (hdoomed hd) he hsame]

theorem without_nil (log : SecurityLog) : log.without [] = log := by
  rw [SecurityLog.without, Table.deleteMany]
  simp

theorem without_without (log : SecurityLog) (doomed doomed' : List SecurityEvent) :
    (log.without doomed).without doomed' = log.without (doomed ++ doomed') := by
  simp only [SecurityLog.without, Table.deleteMany, List.filter_filter, SecurityLog.mk.injEq,
    Table.mk.injEq, and_true]
  apply List.filter_congr
  intro e _
  rw [List.map_append, ← Bool.not_or, ← Bool.decide_or]
  simp only [List.mem_append, or_comm]

/-- What is left to delete after the first of it. -/
theorem doomed_without_take (log : SecurityLog) (cutoff : Instant) (locked : Uuid → Bool) (n : ℕ) :
    (log.without ((log.doomed cutoff locked).take n)).doomed cutoff locked =
      (log.doomed cutoff locked).drop n := by
  have hascending := doomed_ascending log cutoff locked
  have hsub : (log.doomed cutoff locked).take n ⊆ log.events.rows := fun e he =>
    (mem_doomed.mp (List.mem_of_mem_take he)).1
  have hdropped := hascending.sublist (List.drop_sublist n _)
  refine List.Perm.eq_of_pairwise (fun _ _ _ _ hab hba => absurd hab (lt_asymm hba))
    (doomed_ascending _ _ _) hdropped ?_
  have hnodup : ∀ {l : List SecurityEvent},
      (l.Pairwise fun a b => a.position < b.position) → l.Nodup := fun h => h.imp fun hlt heq =>
    absurd hlt (by rw [heq]; exact lt_irrefl _)
  refine (List.perm_ext_iff_of_nodup (hnodup (doomed_ascending _ _ _))
    (hnodup hdropped)).mpr fun e => ?_
  rw [mem_doomed, mem_without hsub]
  have hsplit : e ∈ log.doomed cutoff locked ↔ e ∈ (log.doomed cutoff locked).take n ∨
      e ∈ (log.doomed cutoff locked).drop n := by
    rw [← List.mem_append, List.take_append_drop]
  refine ⟨fun h => ?_, fun h => ?_⟩
  · obtain ⟨⟨he, hkept⟩, hexpired⟩ := h
    exact (hsplit.mp (mem_doomed.mpr ⟨he, hexpired⟩)).resolve_left hkept
  · obtain ⟨he, hexpired⟩ := mem_doomed.mp (hsplit.mpr (Or.inr h))
    refine ⟨⟨he, fun htaken => ?_⟩, hexpired⟩
    have hdisjoint := List.disjoint_of_nodup_append
      ((List.take_append_drop n (log.doomed cutoff locked)).symm ▸ hnodup hascending)
    exact hdisjoint htaken h

end Doomed

/-! ### One call -/

section Prune

variable {log : SecurityLog} {cutoff : Instant} {locked : Uuid → Bool}

theorem pruneBatch_run (cutoff : Instant) (batchSize : ℕ) (locked : Uuid → Bool)
    (log : SecurityLog) : pruneBatch cutoff batchSize locked log =
      (.ok (min batchSize (log.doomed cutoff locked).length),
        log.without ((log.doomed cutoff locked).take batchSize)) := by
  rw [← List.length_take]
  rfl

/-- The loop deletes the first of the expired events, up to the size of its batches. -/
theorem pruneBatches_run (batchSize batches deleted : ℕ) (log : SecurityLog) :
    pruneBatches cutoff batchSize (fun _ => locked) batches deleted log =
      (.ok (deleted + min (batchSize * batches) (log.doomed cutoff locked).length),
        log.without ((log.doomed cutoff locked).take (batchSize * batches))) := by
  induction batches generalizing deleted log with
  | zero =>
    rw [Nat.mul_zero, List.take_zero, without_nil, Nat.zero_min]
    rfl
  | succ batches ih =>
    rw [pruneBatches, Prog.bind_run, pruneBatch_run]
    simp only
    have hbatches : batchSize * (batches + 1) = batchSize + batchSize * batches := by
      rw [Nat.mul_succ, Nat.add_comm]
    split_ifs with hlast
    · -- The last batch was not full: nothing is left.
      have hall : (log.doomed cutoff locked).length ≤ batchSize := by omega
      rw [Prog.pure_run, List.take_of_length_le hall,
        List.take_of_length_le (hall.trans (hbatches ▸ Nat.le_add_right _ _)), hbatches,
        min_eq_right hall, min_eq_right (hall.trans (Nat.le_add_right _ _))]
    · have hfull : batchSize ≤ (log.doomed cutoff locked).length := by omega
      rw [ih, doomed_without_take, without_without, List.length_drop, hbatches, List.take_add,
        min_eq_left hfull]
      congr 2
      omega

/-- The log without its `n` oldest expired events and without the states that are done and idle. -/
def SecurityLog.pruned (log : SecurityLog) (cutoff : Instant) (locked : Uuid → Bool) (n : ℕ) :
    SecurityLog :=
  { log.without ((log.doomed cutoff locked).take n) with
    detectionStates := log.detectionStates.deleteMany fun s => s.isIdle cutoff }

theorem pruneExpired_run (env : Env) (settings : RetentionSettings) (locked : Uuid → Bool)
    (log : SecurityLog) (hvalid : settings.isInvalid = false)
    (hdate : ((settings.cutoff env.now).natAbs : ℤ) ≤ maxDate) :
    pruneExpiredSecurityEvents env settings (fun _ => locked) log =
      (.ok (min (settings.batchSize.toNat * settings.maxBatches.toNat)
          (log.doomed (settings.cutoff env.now) locked).length),
        log.pruned (settings.cutoff env.now) locked
          (settings.batchSize.toNat * settings.maxBatches.toNat)) := by
  have hchecks : (do
      throwIf (settings.isInvalid = true) (Failure.other "Invalid security event retention settings")
      throwIf (maxDate < (settings.cutoff env.now).natAbs) (Failure.other "Invalid time value")) =
      .ok () :=
    except_bind_eq_ok.mpr ⟨(), (throwIf_eq_ok _ _ _).mpr (Bool.eq_false_iff.mp hvalid),
      (throwIf_eq_ok _ _ _).mpr (not_lt.mpr hdate)⟩
  rw [pruneExpiredSecurityEvents, Prog.query_bind_run, hchecks]
  simp only
  rw [Prog.bind_run, pruneBatches_run, Nat.zero_add]
  rfl

/-- A call with accepted settings deletes the oldest of the expired events that nobody holds, all
of them unless its batches are full, and the states that are done and idle. -/
theorem pruneExpired_exact (env : Env) (settings : RetentionSettings) (locked : Uuid → Bool)
    (log : SecurityLog) (hvalid : settings.isInvalid = false)
    (hdate : ((settings.cutoff env.now).natAbs : ℤ) ≤ maxDate) : ∃ deleted log',
      pruneExpiredSecurityEvents env settings (fun _ => locked) log = (.ok deleted, log') ∧
      (deleted : ℤ) = min (settings.batchSize * settings.maxBatches)
        (log.doomed (settings.cutoff env.now) locked).length ∧
      (∀ e, e ∈ log'.events.rows ↔ e ∈ log.events.rows ∧
        e ∉ (log.doomed (settings.cutoff env.now) locked).take deleted) ∧
      ∀ s, s ∈ log'.detectionStates.rows ↔ s ∈ log.detectionStates.rows ∧
        (settings.cutoff env.now ≤ s.lastActiveAt ∨ s.doneGeneration < s.queuedGeneration) := by
  have hbatches : 0 ≤ settings.batchSize ∧ 0 ≤ settings.maxBatches := by
    rw [RetentionSettings.isInvalid] at hvalid
    simp only [Bool.or_eq_false_iff, decide_eq_false_iff_not] at hvalid
    omega
  have hsub : ∀ n, (log.doomed (settings.cutoff env.now) locked).take n ⊆ log.events.rows :=
    fun n e he => (mem_doomed.mp (List.mem_of_mem_take he)).1
  refine ⟨_, _, pruneExpired_run env settings locked log hvalid hdate, ?_, fun e => ?_, fun s => ?_⟩
  · rw [Nat.cast_min, Nat.cast_mul, Int.toNat_of_nonneg hbatches.1, Int.toNat_of_nonneg hbatches.2]
  · rw [SecurityLog.pruned, ← List.take_eq_take_min]
    exact mem_without (hsub _)
  · rw [SecurityLog.pruned, Table.mem_deleteMany, SecurityDetectionState.isIdle,
      decide_eq_false_iff_not, not_and_or, not_lt, not_le]

/-- A day after the third of the five failures, with a day of retention and batches of two. -/
theorem pruneExpired_exact_fiveFailures : ∃ log',
    pruneExpiredSecurityEvents (SmallSchool.envAt (SmallSchool.clock 20001 10 3)) ⟨1, 2, 2⟩
      (fun _ _ => false) FiveFailures.log = (.ok 3, log') ∧
      FiveFailures.fifth ∈ log'.events.rows := by
  obtain ⟨deleted, log', hrun, hdeleted, hevents, -⟩ :=
    pruneExpired_exact (SmallSchool.envAt (SmallSchool.clock 20001 10 3)) ⟨1, 2, 2⟩
      (fun _ => false) FiveFailures.log (by decide) (by decide)
  have hcount : (FiveFailures.log.doomed (SmallSchool.clock 20000 10 3)
      fun _ => false).length = 3 := by decide +kernel
  have hthree : deleted = 3 := by
    have hmin : (deleted : ℤ) = min (2 * 2) (3 : ℕ) := hcount ▸ hdeleted
    omega
  subst hthree
  refine ⟨log', hrun, (hevents _).mpr ⟨(mem_failures.mp (List.get_mem _ _)).1, fun htaken => ?_⟩⟩
  have hold := (mem_doomed.mp (List.mem_of_mem_take htaken)).2.1
  exact absurd hold (by decide +kernel)

end Prune

end OSK
