import OskManager.Security.AlarmSpacing
import OskManager.Security.Retention

/-! The detector while the retention worker runs beside it. Deleting events takes failures and
alarms away, and deleting an idle state forgets its cursor. What is later than every deleted event
by the width of a window is still never missed, and no alarm is raised near another one. -/

namespace OSK

open Relational Watching

section Heard

variable {node : NodeRuntime} {log log' : SecurityLog} {key : DetectionKey} {latest : Instant}

/-- The times of stored alarms, and all times of which an alarm may be deleted. -/
def SecurityLog.heard (node : NodeRuntime) (latest : Instant) (log : SecurityLog)
    (key : DetectionKey) : Set ℤ :=
  log.alarmTimes node key ∪ Set.Iio latest

/-- The state of a key, or its first one, covers what it has passed. When nothing of the key is
queued, all its calls are covered. -/
structure KeptUp (node : NodeRuntime) (latest : Instant) (log : SecurityLog) (key : DetectionKey) :
    Prop where
  le : (log.stateOf key).doneGeneration ≤ (log.stateOf key).queuedGeneration
  covers : (log.stateOf key).watch.Covers timeOf windowMs (log.calls key)
    (log.heard node latest key)
  drained : (log.stateOf key).doneGeneration = (log.stateOf key).queuedGeneration →
    ∀ p ∈ log.calls key, Covered windowMs (log.heard node latest key) (timeOf p)

/-- Fewer calls, and alarms that are stored or may be forgotten. -/
theorem KeptUp.of_state (h : KeptUp node latest log key)
    (hstate : log'.stateOf key = log.stateOf key) (hcalls : log'.calls key ⊆ log.calls key)
    (hheard : log.heard node latest key ⊆ log'.heard node latest key) :
    KeptUp node latest log' key where
  le := hstate ▸ h.le
  covers := by
    rw [hstate]
    exact (h.covers.mono hheard).of_calls fun p hp _ => hcalls hp
  drained hdone p hp := (h.drained (hstate ▸ hdone) p (hcalls hp)).mono hheard

theorem heard_subset (hrows : log.events.rows ⊆ log'.events.rows) :
    log.heard node latest key ⊆ log'.heard node latest key :=
  Set.union_subset_union_left _ (alarmTimes_subset hrows)

end Heard

/-! ### What each step keeps -/

section Steps

variable {node : NodeRuntime} {log log' : SecurityLog} {key : DetectionKey} {latest : Instant}

theorem Recorded.keptUp {row : SecurityEvent} {keys : List DetectionKey}
    (hrec : Recorded row keys log log') (hknown : key.subject.IsKnown)
    (h : KeptUp node latest log key) : KeptUp node latest log' key := by
  by_cases hkey : key ∈ keys
  · obtain ⟨s, hs, hreq⟩ := hrec.requeued key hkey
    have hstate : log'.stateOf key = s := by rw [SecurityLog.stateOf, hs, Option.getD_some]
    have hlt : s.doneGeneration < s.queuedGeneration := hreq.done ▸ h.le.trans_lt hreq.queued
    exact ⟨hstate ▸ hlt.le, hstate ▸ hrec.covers h.covers hreq,
      fun hdone => absurd hdone (hstate ▸ hlt.ne)⟩
  · have hcounts : row.countsFor key = false := by
      rw [← Bool.not_eq_true]
      exact fun hc => hkey (hrec.counted key hknown hc)
    have hfailures : log'.failures key = log.failures key := by
      rw [hrec.failures, hcounts]
      exact List.append_nil _
    refine h.of_state ?_ (calls_congr hfailures).subset (heard_subset hrec.subset)
    rw [SecurityLog.stateOf, hrec.others key hkey, SecurityLog.stateOf]

theorem Recorded.ruled {row : SecurityEvent} {keys : List DetectionKey}
    (hrec : Recorded row keys log log') (h : log.Ruled) : log'.Ruled := by
  intro a ha hsource
  rw [hrec.rows] at ha
  rcases List.mem_append.mp ha with ha | ha
  · exact h a ha hsource
  · rw [List.mem_singleton.mp ha] at hsource
    exact absurd hrec.unsourced hsource

/-- What a turn of the detector does to the states of the keys. -/
theorem processState_stateOf {env : Env} {state : SecurityDetectionState}
    (hstate : state ∈ log.detectionStates.rows)
    (h : processState node env state log = (.ok (), log')) : ∃ mid next,
      scanBatch node env state.key ((log.queue state).take 20) state.nextEligibleAt log =
        (.ok next, mid) ∧ log'.events = mid.events ∧
      (∀ k ≠ state.key, log'.stateOf k = log.stateOf k) ∧
      log'.stateOf state.key = { state with
        lastProcessed := (((log.queue state).take 20).getLast?.map fun e =>
          (e.occurredAt, e.id)).or state.lastProcessed
        nextEligibleAt := next
        doneGeneration :=
          if 20 < (log.queue state).length then state.doneGeneration
          else state.queuedGeneration } := by
  unfold processState at h
  rw [Prog.query_bind_run] at h
  obtain ⟨next, mid, hscan, hwrite⟩ := Prog.bind_eq_ok.mp h
  obtain rfl := Prog.write_eq_ok.mp hwrite
  rw [candidates_take] at hscan
  have hsame : mid.detectionStates = log.detectionStates := (scanBatch_raises hscan).states
  refine ⟨mid, next, hscan, rfl, fun k hk => ?_, ?_⟩
  · rw [SecurityLog.stateOf, SecurityLog.stateOf, Table.findUnique_update, if_neg hk, hsame]
  · rw [SecurityLog.stateOf, Table.findUnique_update, if_pos rfl, hsame,
      Table.findUnique_of_mem hstate]
    simp [candidates_take, lt_length_candidates]

theorem stateOf_mem {state : SecurityDetectionState} (h : state ∈ log.detectionStates.rows) :
    log.stateOf state.key = state := by
  rw [SecurityLog.stateOf, Table.findUnique_of_mem h, Option.getD_some]

/-- A turn of the detector. -/
theorem processState_keptUp {env : Env} {state : SecurityDetectionState} (hruled : log.Ruled)
    (hstate : state ∈ log.detectionStates.rows)
    (hpending : state.doneGeneration < state.queuedGeneration) (h : KeptUp node latest log key)
    (hrun : processState node env state log = (.ok (), log')) : KeptUp node latest log' key := by
  obtain ⟨mid, next, hscan, hevents, hothers, hself⟩ := processState_stateOf hstate hrun
  have hraised := scanBatch_raises hscan
  have hfailures : ∀ k, log'.failures k = log.failures k := by
    intro k
    rw [SecurityLog.failures, hevents, ← SecurityLog.failures, hraised.failures]
  have hrows : log.events.rows ⊆ log'.events.rows := hevents ▸ hraised.subset
  by_cases hkey : key = state.key
  · subst hkey
    have hold := stateOf_mem hstate
    have hqueue : Ahead _ _ (log.queue state) := ahead_queue state
    rw [← List.take_append_drop 20 (log.queue state)] at hqueue
    obtain ⟨hahead, hcovers⟩ :=
      scanBatch_covers hruled hqueue (hold ▸ h.covers) hscan
    have hwatch : (log'.stateOf state.key).watch =
        ⟨cursorAfter state ((log.queue state).take 20), next⟩ := by rw [hself]; rfl
    have hcalls : log'.calls state.key = mid.calls state.key :=
      calls_congr ((hfailures _).trans hraised.failures.symm)
    have hmid : mid.heard node latest state.key ⊆ log'.heard node latest state.key :=
      heard_subset (hevents ▸ List.Subset.refl _)
    refine ⟨?_, ?_, fun hdone p hp => ?_⟩
    · rw [hself]
      simp only
      split
      · exact hold ▸ h.le
      · exact le_rfl
    · rw [hwatch, hcalls]
      exact hcovers.mono hmid
    · rw [hself] at hdone
      simp only at hdone
      split at hdone
      · exact absurd hdone hpending.ne
      · next hfew =>
        -- Nothing is ahead of the cursor any more.
        rw [List.drop_eq_nil_of_le (not_lt.mp hfew)] at hahead
        rw [hcalls] at hp
        refine (hcovers.passed p hp (le_of_not_gt fun hlt => ?_)).mono hmid
        obtain ⟨e, he, rfl, _⟩ := hp
        exact List.not_mem_nil ((hahead.mem e).mpr ⟨he, hlt⟩)
  · exact h.of_state (hothers key hkey) (calls_congr (hfailures key)).subset (heard_subset hrows)

theorem scanBatch_ruled {env : Env} {batch : List SecurityEvent} {next next' : Option Instant}
    (hruled : log.Ruled) (h : scanBatch node env key batch next log = (.ok next', log')) :
    log'.Ruled :=
  scanBatch_keeps (I := fun _ _ log => log.Ruled) (fun _ _ _ _ _ _ hI hscan => hscan.ruled hI)
    hruled h

/-! ### Deleting -/

/-- Events from before `latest` are taken away, and nothing else. -/
structure Pruned (latest : Instant) (log log' : SecurityLog) : Prop where
  states : log'.detectionStates = log.detectionStates
  sublist : log'.events.rows.Sublist log.events.rows
  kept : ∀ e ∈ log.events.rows, latest ≤ e.occurredAt → e ∈ log'.events.rows

theorem pruneBatch_pruned {cutoff : Instant} (hle : cutoff ≤ latest) (batchSize : ℕ)
    (locked : Uuid → Bool) (log : SecurityLog) :
    Pruned latest log (pruneBatch cutoff batchSize locked log).2 where
  states := rfl
  sublist := List.filter_sublist
  kept e he hlate := by
    have hsub : (log.doomed cutoff locked).take batchSize ⊆ log.events.rows := fun d hd =>
      (mem_doomed.mp (List.mem_of_mem_take hd)).1
    refine (mem_without hsub).mpr ⟨he, fun hdoomed => ?_⟩
    have hexpired := (mem_doomed.mp (List.mem_of_mem_take hdoomed)).2.1
    exact absurd (hle.trans hlate) (not_le.mpr hexpired)

theorem Pruned.calls (h : Pruned latest log log') : log'.calls key ⊆ log.calls key := by
  have hfailures : (log'.failures key).Sublist (log.failures key) := h.sublist.filter _
  intro p hp
  obtain ⟨e, he, rfl, hcount⟩ := hp
  exact ⟨e, hfailures.subset he, rfl, hcount.trans (hfailures.filter _).length_le⟩

/-- An alarm that is deleted may be forgotten. -/
theorem Pruned.heard (h : Pruned latest log log') :
    log.heard node latest key ⊆ log'.heard node latest key := by
  intro t ht
  rcases ht with ⟨a, ha, halarm, rfl⟩ | hold
  · rcases le_or_gt latest a.occurredAt with hlate | hexpired
    · exact Or.inl ⟨a, h.kept a ha hlate, halarm, rfl⟩
    · exact Or.inr hexpired
  · exact Or.inr hold

theorem Pruned.keptUp (hpruned : Pruned latest log log') (h : KeptUp node latest log key) :
    KeptUp node latest log' key := by
  refine h.of_state ?_ hpruned.calls hpruned.heard
  rw [SecurityLog.stateOf, hpruned.states, SecurityLog.stateOf]

/-- A state that is deleted had nothing queued. -/
theorem pruneStates_keptUp (cutoff : Instant) (h : KeptUp node latest log key) :
    KeptUp node latest (pruneStates cutoff log).2 key := by
  cases hfound : (pruneStates cutoff log).2.detectionStates.findUnique key with
  | some s =>
    have hold := ((Table.mem_deleteMany _ _ _).mp (Table.mem_of_findUnique hfound)).1
    have hstate : log.stateOf key = s := Table.key_of_findUnique hfound ▸ stateOf_mem hold
    refine h.of_state ?_ (Set.Subset.refl _) (Set.Subset.refl _)
    rw [hstate, SecurityLog.stateOf, hfound, Option.getD_some]
  | none =>
    have hfresh : (pruneStates cutoff log).2.stateOf key = { key, lastActiveAt := 0 } := by
      rw [SecurityLog.stateOf, hfound, Option.getD_none]
    have hidle : (log.stateOf key).queuedGeneration ≤ (log.stateOf key).doneGeneration := by
      cases hold : log.detectionStates.findUnique key with
      | none =>
        rw [SecurityLog.stateOf, hold]
        exact le_rfl
      | some s =>
        have hs := Table.mem_of_findUnique hold
        rw [SecurityLog.stateOf, hold, Option.getD_some]
        by_contra hqueued
        have hkept : s ∈ (pruneStates cutoff log).2.detectionStates.rows :=
          (Table.mem_deleteMany _ _ _).mpr ⟨hs, decide_eq_false fun hidle => hqueued hidle.2⟩
        rw [← Table.key_of_findUnique hold, Table.findUnique_of_mem hkept] at hfound
        cases hfound
    refine ⟨?_, ?_, fun _ => h.drained (le_antisymm h.le hidle)⟩
    · rw [hfresh]
    · rw [hfresh]
      exact Watch.covers_start

end Steps

/-! ### Runs with retention -/

/-- One call or statement of the log's services. The retention worker deletes nothing from
`latest` on. -/
inductive RetainedStep (node : NodeRuntime) (latest : Instant) : SecurityLog → SecurityLog → Prop
    where
  | record (env : SecurityEnv) (input : SecurityEventInput) (log : SecurityLog) :
      RetainedStep node latest log (recordSecurityEvent node env input log).2
  | detect (env : Env) (locked : DetectionKey → Bool) (log : SecurityLog) :
      RetainedStep node latest log (processOne node env locked log).2
  | pruneBatch (cutoff : Instant) (batchSize : ℕ) (locked : Uuid → Bool) (log : SecurityLog)
      (hle : cutoff ≤ latest) :
      RetainedStep node latest log (pruneBatch cutoff batchSize locked log).2
  | pruneStates (cutoff : Instant) (log : SecurityLog) :
      RetainedStep node latest log (pruneStates cutoff log).2

abbrev RetainedRun (node : NodeRuntime) (latest : Instant) : SecurityLog → SecurityLog → Prop :=
  Relation.ReflTransGen (RetainedStep node latest)

section Runs

variable {node : NodeRuntime} {log log' : SecurityLog} {latest : Instant}

theorem SecurityStep.retained (h : SecurityStep node log log') :
    RetainedStep node latest log log' := by
  cases h with
  | record env input => exact .record env input log
  | detect env locked => exact .detect env locked log

/-- The statements of a call of the retention worker. -/
theorem pruneBatches_retained {cutoff : Instant} (hle : cutoff ≤ latest) (batchSize : ℕ)
    (locked : ℕ → Uuid → Bool) (batches deleted : ℕ) (log : SecurityLog) :
    RetainedRun node latest log (pruneBatches cutoff batchSize locked batches deleted log).2 := by
  induction batches generalizing deleted log with
  | zero => exact .refl
  | succ batches ih =>
    refine .head (.pruneBatch cutoff batchSize (locked batches) log hle) ?_
    rw [pruneBatches, Prog.bind_run, pruneBatch_run]
    simp only
    split
    · exact .refl
    · exact ih _ _

theorem pruneExpired_retained (env : Env) (settings : RetentionSettings) (locked : ℕ → Uuid → Bool)
    (log : SecurityLog) (hle : settings.cutoff env.now ≤ latest) :
    RetainedRun node latest log (pruneExpiredSecurityEvents env settings locked log).2 := by
  rw [pruneExpiredSecurityEvents, Prog.query_bind_run]
  split
  · have hbatches : RetainedRun node latest log _ :=
      pruneBatches_retained hle settings.batchSize.toNat locked settings.maxBatches.toNat 0 log
    rw [Prog.bind_run]
    split
    · next deleted mid hpruned =>
      rw [hpruned] at hbatches
      exact hbatches.tail (.pruneStates _ mid)
    · next e mid hpruned =>
      rw [hpruned] at hbatches
      exact hbatches
  · exact .refl

/-- What holds of the log in every run with retention. -/
structure SecurityLog.SoundSince (node : NodeRuntime) (latest : Instant) (log : SecurityLog) :
    Prop where
  ruled : log.Ruled
  keptUp : ∀ key : DetectionKey, key.subject.IsKnown → KeptUp node latest log key
  spaced : log.SpacedAlarms node

theorem soundSince_empty : SecurityLog.SoundSince node latest {} where
  ruled _ ha := absurd ha List.not_mem_nil
  keptUp key _ := by
    have hnone : ∀ p, p ∉ SecurityLog.calls {} key := by
      intro p hp
      obtain ⟨e, he, _⟩ := hp
      exact absurd he List.not_mem_nil
    exact ⟨le_rfl, Watch.covers_start, fun _ p hp => absurd hp (hnone p)⟩
  spaced _ a ha := absurd ha.1 List.not_mem_nil

theorem SecurityLog.SoundSince.step (h : log.SoundSince node latest)
    (hstep : RetainedStep node latest log log') : log'.SoundSince node latest := by
  cases hstep with
  | record env input =>
    refine ⟨?_, ?_, (SecurityStep.record env input log).keeps.2 h.spaced⟩
    · rcases recordSecurityEvent_store node env log input with hsame | ⟨row, keys, hrec⟩
      · rw [hsame]
        exact h.ruled
      · exact hrec.ruled h.ruled
    · intro key hknown
      rcases recordSecurityEvent_store node env log input with hsame | ⟨row, keys, hrec⟩
      · rw [hsame]
        exact h.keptUp key hknown
      · exact hrec.keptUp hknown (h.keptUp key hknown)
  | detect env locked =>
    refine ⟨?_, ?_, (SecurityStep.detect env locked log).keeps.2 h.spaced⟩
    · rcases processOne_store node env locked log with hsame | ⟨state, hstate, _, hrun⟩
      · rw [hsame]
        exact h.ruled
      · obtain ⟨mid, next, hscan, hevents, _⟩ := processState_ok hrun
        intro a ha
        exact scanBatch_ruled h.ruled hscan a (hevents ▸ ha)
    · intro key hknown
      rcases processOne_store node env locked log with hsame | ⟨state, hstate, hpending, hrun⟩
      · rw [hsame]
        exact h.keptUp key hknown
      · exact processState_keptUp h.ruled hstate hpending (h.keptUp key hknown) hrun
  | pruneBatch cutoff batchSize locked _ hle =>
    have hpruned := pruneBatch_pruned hle batchSize locked log
    refine ⟨fun a ha => h.ruled a (hpruned.sublist.subset ha), fun key hknown =>
      hpruned.keptUp (h.keptUp key hknown), fun key => (h.spaced key).mono fun a ha => ?_⟩
    exact ⟨hpruned.sublist.subset ha.1, ha.2⟩
  | pruneStates cutoff =>
    exact ⟨h.ruled, fun key hknown => pruneStates_keptUp cutoff (h.keptUp key hknown), h.spaced⟩

theorem SecurityLog.SoundSince.run (h : log.SoundSince node latest)
    (hrun : RetainedRun node latest log log') : log'.SoundSince node latest := by
  induction hrun with
  | refl => exact h
  | tail _ hstep ih => exact ih.step hstep

/-- In every state of a run with retention: a key of which nothing is queued has an alarm less
than ten minutes from each failure that calls for one, if the ten minutes before the failure are
later than all that was deleted; and two alarms of one key are at least ten minutes apart. -/
theorem detector_withRetention (hrun : RetainedRun node latest {} log) (key : DetectionKey) :
    (key.subject.IsKnown →
      (∀ s ∈ log.detectionStates.rows, s.key = key → s.doneGeneration = s.queuedGeneration) →
      ∀ e ∈ log.failures key, latest + windowMs ≤ e.occurredAt →
        key.subject.rule.threshold ≤ (log.window key e).length →
        ∃ a ∈ log.events.rows, a.isAlarmOf node key = true ∧
          |a.occurredAt - e.occurredAt| < windowMs) ∧
    ∀ a ∈ log.raisedAlarms node key, ∀ b ∈ log.raisedAlarms node key, a ≠ b →
      windowMs ≤ |a.occurredAt - b.occurredAt| := by
  have hsound := soundSince_empty.run hrun
  refine ⟨fun hknown hdone e he hlate hcount => ?_, fun a ha b hb hne =>
    apart_iff.mp (hsound.spaced key ha hb hne)⟩
  have hkept := hsound.keptUp key hknown
  have hdrained : (log.stateOf key).doneGeneration = (log.stateOf key).queuedGeneration := by
    cases hfound : log.detectionStates.findUnique key with
    | none => rw [SecurityLog.stateOf, hfound, Option.getD_none]
    | some s =>
      rw [SecurityLog.stateOf, hfound, Option.getD_some]
      exact hdone s (Table.mem_of_findUnique hfound) (Table.key_of_findUnique hfound)
  obtain ⟨t, ht, hafter, hbefore⟩ := hkept.drained hdrained e.position ⟨e, he, rfl, hcount⟩
  have hafter : t - windowMs < e.occurredAt := hafter
  have hbefore : e.occurredAt < t + windowMs := hbefore
  rcases ht with ⟨a, ha, halarm, rfl⟩ | hold
  · refine ⟨a, ha, halarm, abs_lt.mpr ⟨?_, ?_⟩⟩
    · exact neg_lt_sub_iff_lt_add'.mpr hbefore
    · exact sub_lt_comm.mp hafter
  · have hold : t < latest := hold
    dsimp only [Instant] at *
    omega

theorem detector_withRetention_fiveFailures :
    ∃ a ∈ FiveFailures.log.events.rows,
      a.isAlarmOf FiveFailures.node FiveFailures.state.key = true ∧
        |a.occurredAt - FiveFailures.fifth.occurredAt| < windowMs := by
  have hrun : RetainedRun FiveFailures.node 0 {} FiveFailures.log :=
    fiveFailures_run.lift id fun _ _ => SecurityStep.retained
  refine (detector_withRetention hrun FiveFailures.state.key).1 trivial (fun s hs hkey => ?_)
    FiveFailures.fifth (List.get_mem _ _) (by decide +kernel) (by decide +kernel)
  rw [FiveFailures.log.detectionStates.key_inj hs FiveFailures.state_mem hkey]
  rfl

end Runs

end OSK
