import Mathlib.Data.Nat.Pairing
import OskManager.Security.RetentionRuns

/-! The detection queue empties. No turn of the detector fails, since an alarm for a failure under
a key is only created where none is stored, and each turn takes one from the number of turns that
are left. Once the queue is empty, every failure that calls for an alarm is near one. -/

namespace OSK

open Relational Watching

/-- No two alarms that are raised for different failures or under different keys have one hash. -/
def NodeRuntime.Distinguishes (node : NodeRuntime) : Prop :=
  ∀ rule scopeKey subjectKey sourceId rule' scopeKey' subjectKey' sourceId',
    node.sha256 (.attempt rule scopeKey subjectKey sourceId) =
      node.sha256 (.attempt rule' scopeKey' subjectKey' sourceId') →
    rule = rule' ∧ scopeKey = scopeKey' ∧ subjectKey = subjectKey' ∧ sourceId = sourceId'

section Alarms

variable {node : NodeRuntime} {log log' : SecurityLog} {key : DetectionKey}
  {source : SecurityEvent}

/-- An alarm of the key for a stored failure. -/
structure RaisedFor (node : NodeRuntime) (log : SecurityLog) (a : SecurityEvent)
    (key : DetectionKey) (source : SecurityEvent) : Prop where
  failure : source ∈ log.failures key
  alarm : a.isAlarmOf node key = true
  attempt : a.attemptId = node.sha256
    (.attempt key.subject.rule key.scopeKey key.subject.subjectKey source.id)
  time : a.occurredAt = source.occurredAt

/-- Only the detector writes events under its name. -/
def SecurityLog.Owned (node : NodeRuntime) (log : SecurityLog) : Prop :=
  ∀ a ∈ log.events.rows, a.source = "DETECTOR" → ∃ key source, RaisedFor node log a key source

/-- A failure counts for one key of each rule, scope and subject. -/
theorem key_unique {key' : DetectionKey} (h : source.countsFor key = true)
    (h' : source.countsFor key' = true) (hrule : key.subject.rule = key'.subject.rule)
    (hscope : key.scopeKey = key'.scopeKey)
    (hsubject : key.subject.subjectKey = key'.subject.subjectKey) : key = key' := by
  obtain ⟨scope, subject⟩ := key
  obtain ⟨scope', subject'⟩ := key'
  obtain rfl : scope = scope' := hscope
  cases subject <;> cases subject' <;>
    simp_all [DetectionSubject.subjectKey, SecurityEvent.countsFor, SecurityEvent.hasSubject]

theorem alarmRow_source (alertId : Uuid) (n : ℕ) :
    (alarmRow node log alertId key source n).source = "DETECTOR" := rfl

/-- An alarm that is not found near its failure can be created. -/
theorem createAlarm_returns (hnode : node.Distinguishes) (howned : log.Owned node)
    (hsource : source ∈ log.failures key) (hnone : log.previousAlarm node key source = none)
    {alertId : Uuid} (hid : alertId ∉ log.events.keys) (n : ℕ) : ∃ log',
      createSecurityEvent (alarmRow node log alertId key source n) log = (.ok (), log') := by
  unfold createSecurityEvent
  split_ifs with hused hsame
  · exact absurd hused hid
  · exfalso
    obtain ⟨a, ha, hclash⟩ := List.any_eq_true.mp hsame
    rw [SecurityEvent.sameActionPhase, Bool.or_eq_true, SecurityEvent.sameAttempt,
      decide_eq_true_eq] at hclash
    rcases hclash with ⟨hname, hattempt, -⟩ | hphase
    · obtain ⟨key', source', hraised⟩ := howned a ha (hname.symm.trans (alarmRow_source _ _))
      obtain ⟨hrule, hscope, hsubject, hsourceId⟩ :=
        hnode _ _ _ _ _ _ _ _ (hattempt.trans hraised.attempt)
      obtain ⟨hrow, hcounts⟩ := mem_failures.mp hsource
      obtain ⟨hrow', hcounts'⟩ := mem_failures.mp hraised.failure
      obtain rfl : source = source' := log.events.key_inj hrow hrow' hsourceId
      obtain rfl : key = key' := key_unique hcounts hcounts' hrule hscope hsubject
      have hfar := previousAlarm_missed hnone ha hraised.alarm
      rw [hraised.time] at hfar
      exact absurd hfar (by simp [isNearby, windowMs])
    · simp [alarmRow] at hphase
  · exact ⟨_, rfl⟩

theorem RaisedFor.mono {a : SecurityEvent} (h : RaisedFor node log a key source)
    (hsub : log.events.rows ⊆ log'.events.rows) : RaisedFor node log' a key source where
  failure := by
    obtain ⟨hrow, hcounts⟩ := mem_failures.mp h.failure
    exact mem_failures.mpr ⟨hsub hrow, hcounts⟩
  alarm := h.alarm
  attempt := h.attempt
  time := h.time

theorem Scanned.owned {next next' : Option Instant}
    (h : Scanned node key source next log log' next') (hsource : source ∈ log.failures key)
    (howned : log.Owned node) : log'.Owned node := by
  have hsub := h.raises.subset
  cases h with
  | quiet | few | found => exact howned
  | @raised alertId n _ hnone hcreate =>
    obtain ⟨_, hrows, _⟩ := createSecurityEvent_ok hcreate
    intro a ha hname
    rw [hrows] at ha
    rcases List.mem_append.mp ha with ha | ha
    · obtain ⟨key', source', hraised⟩ := howned a ha hname
      exact ⟨key', source', hraised.mono hsub⟩
    · rw [List.mem_singleton.mp ha]
      obtain ⟨hrow, hcounts⟩ := mem_failures.mp hsource
      exact ⟨key, source, mem_failures.mpr ⟨hsub hrow, hcounts⟩, alarmRow_isAlarmOf _ _, rfl, rfl⟩

end Alarms

/-! ### No turn fails -/

section Turns

variable {node : NodeRuntime} {log log' : SecurityLog} {key : DetectionKey}
  {source : SecurityEvent}

theorem scanSource_returns (hnode : node.Distinguishes) (howned : log.Owned node)
    (hsource : source ∈ log.failures key) (env : Env) (next : Option Instant) :
    Prog.Succeeds (scanSource node env key next source) log := by
  unfold scanSource
  split
  · exact ⟨_, _, rfl⟩
  · refine Prog.succeeds_query_bind.mpr ⟨log, rfl, ?_⟩
    simp only
    split
    · exact ⟨_, _, rfl⟩
    · cases hprevious : log.previousAlarm node key source with
      | some a => exact ⟨_, _, rfl⟩
      | none =>
        obtain ⟨log', hcreate⟩ := createAlarm_returns hnode howned hsource hprevious
          (env.uuid_fresh log.events.keys) (log.attemptCount key source)
        exact ⟨_, log', Prog.bind_eq_ok.mpr ⟨(), log', hcreate, rfl⟩⟩

theorem scanBatch_returns (hnode : node.Distinguishes) (howned : log.Owned node)
    {batch : List SecurityEvent} (hbatch : batch ⊆ log.failures key) (env : Env)
    (next : Option Instant) : Prog.Succeeds (scanBatch node env key batch next) log := by
  induction batch generalizing next log with
  | nil => exact ⟨next, log, rfl⟩
  | cons source rest ih =>
    have hsource := hbatch List.mem_cons_self
    obtain ⟨next₁, mid, hfirst⟩ := scanSource_returns hnode howned hsource env next
    have hscanned := scanSource_ok hfirst
    have hrest : rest ⊆ mid.failures key := by
      rw [hscanned.raises.failures]
      exact fun e he => hbatch (List.mem_cons_of_mem _ he)
    exact Prog.succeeds_bind.mpr
      ⟨next₁, mid, hfirst, ih (hscanned.owned hsource howned) hrest next₁⟩

theorem queue_subset (state : SecurityDetectionState) :
    log.queue state ⊆ log.failures state.key := fun e he => (((ahead_queue state).mem e).mp he).1

theorem SecurityLog.Owned.of_events (h : log.Owned node) (hevents : log'.events = log.events) :
    log'.Owned node := by
  intro a ha hname
  rw [hevents] at ha
  obtain ⟨key, source, hraised⟩ := h a ha hname
  exact ⟨key, source, hraised.mono (hevents ▸ List.Subset.refl _)⟩

theorem candidates_subset (state : SecurityDetectionState) :
    (log.candidates state).take 20 ⊆ log.failures state.key := by
  rw [candidates_take]
  exact fun e he => queue_subset state (List.mem_of_mem_take he)

theorem processState_returns (hnode : node.Distinguishes) (howned : log.Owned node) (env : Env)
    (state : SecurityDetectionState) : Prog.Succeeds (processState node env state) log := by
  obtain ⟨next, mid, hscan⟩ :=
    scanBatch_returns hnode howned (candidates_subset state) env state.nextEligibleAt
  unfold processState
  exact Prog.succeeds_query_bind.mpr
    ⟨_, rfl, Prog.succeeds_bind.mpr ⟨next, mid, hscan, _, _, rfl⟩⟩

theorem scanBatch_owned {env : Env} {batch : List SecurityEvent} {next next' : Option Instant}
    (howned : log.Owned node) (hbatch : batch ⊆ log.failures key)
    (h : scanBatch node env key batch next log = (.ok next', log')) : log'.Owned node := by
  let I (todo : List SecurityEvent) (_ : Option Instant) (log' : SecurityLog) : Prop :=
    log'.Owned node ∧ todo ⊆ log'.failures key
  have hstep : ∀ source todo next mid next' mid', I (source :: todo) next mid →
      Scanned node key source next mid mid' next' → I todo next' mid' := by
    intro source todo next mid next' mid' hI hscan
    obtain ⟨hmid, htodo⟩ := hI
    refine ⟨hscan.owned (htodo List.mem_cons_self) hmid, ?_⟩
    rw [hscan.raises.failures]
    exact fun e he => htodo (List.mem_cons_of_mem _ he)
  exact (scanBatch_keeps (I := I) hstep ⟨howned, hbatch⟩ h).1

theorem processState_owned {env : Env} {state : SecurityDetectionState}
    (howned : log.Owned node) (h : processState node env state log = (.ok (), log')) :
    log'.Owned node := by
  obtain ⟨mid, next, hscan, hevents, _⟩ := processState_ok h
  rw [← candidates_take] at hscan
  exact (scanBatch_owned howned (candidates_subset state) hscan).of_events hevents

end Turns

/-! ### Each turn takes one from the work that is left -/

section Work

variable {node : NodeRuntime} {log log' : SecurityLog} {cursor : WithBot Position}

/-- How many turns a state has before it, each of which passes twenty failures. -/
def SecurityLog.turns (log : SecurityLog) (s : SecurityDetectionState) : ℕ :=
  if s.doneGeneration < s.queuedGeneration then ((log.queue s).length - 1) / 20 + 1 else 0

def SecurityLog.work (log : SecurityLog) : ℤ := log.detectionStates.total fun s => log.turns s

theorem Ahead.passed {failures passed rest : List SecurityEvent} {state : SecurityDetectionState}
    (h : Ahead failures (cursorOf state.lastProcessed) (passed ++ rest)) :
    Ahead failures (cursorAfter state passed) rest := by
  induction passed using List.reverseRecOn generalizing rest with
  | nil => exact h
  | append_singleton passed source ih =>
    rw [List.append_assoc] at h
    rw [cursorAfter_snoc]
    exact (ih h).tail

theorem Ahead.unique {failures l l' : List SecurityEvent} (h : Ahead failures cursor l)
    (h' : Ahead failures cursor l') : l = l' := by
  have hnodup : ∀ {l : List SecurityEvent}, Ahead failures cursor l → l.Nodup := fun h =>
    h.sorted.imp fun hlt heq => hlt.ne (congrArg _ heq)
  refine List.Perm.eq_of_pairwise (fun a b _ _ hab hba => absurd hab (lt_asymm hba))
    h.sorted h'.sorted ?_
  exact (List.perm_ext_iff_of_nodup (hnodup h) (hnodup h')).mpr fun e =>
    (h.mem e).trans (h'.mem e).symm

theorem turns_congr (hfailures : ∀ key, log'.failures key = log.failures key)
    (s : SecurityDetectionState) : log'.turns s = log.turns s := by
  simp only [SecurityLog.turns, SecurityLog.queue, hfailures]

/-- What is ahead of a state after its turn. -/
theorem queue_passed {state state' : SecurityDetectionState}
    (hfailures : log'.failures state.key = log.failures state.key) (hkey : state'.key = state.key)
    (hlast : state'.lastProcessed = (((log.queue state).take 20).getLast?.map fun e =>
      (e.occurredAt, e.id)).or state.lastProcessed) :
    log'.queue state' = (log.queue state).drop 20 := by
  have hafter : Ahead (log'.failures state'.key) (cursorOf state'.lastProcessed)
      (log'.queue state') := ahead_queue state'
  rw [hkey, hfailures, hlast] at hafter
  have hbefore : Ahead (log.failures state.key) (cursorOf state.lastProcessed) (log.queue state) :=
    ahead_queue state
  rw [← List.take_append_drop 20 (log.queue state)] at hbefore
  exact hafter.unique hbefore.passed

/-- A turn passes twenty failures, and the last turn all that are left. -/
theorem turns_passed {state state' : SecurityDetectionState}
    (hpending : state.doneGeneration < state.queuedGeneration)
    (hqueue : log'.queue state' = (log.queue state).drop 20)
    (hqueued : state'.queuedGeneration = state.queuedGeneration)
    (hdone : state'.doneGeneration = if 20 < (log.queue state).length then state.doneGeneration
      else state.queuedGeneration) : log'.turns state' + 1 = log.turns state := by
  unfold SecurityLog.turns
  rw [if_pos hpending, hqueue, hqueued, hdone, List.length_drop]
  by_cases hmore : 20 < (log.queue state).length
  · rw [if_pos hmore, if_pos hpending]
    omega
  · rw [if_neg hmore, if_neg (lt_irrefl _)]
    omega

theorem processState_failures {env : Env} {state : SecurityDetectionState}
    (h : processState node env state log = (.ok (), log')) (key : DetectionKey) :
    log'.failures key = log.failures key := by
  obtain ⟨mid, next, hscan, hevents, _⟩ := processState_ok h
  rw [SecurityLog.failures, hevents, ← SecurityLog.failures, (scanBatch_raises hscan).failures]

/-- A turn of the detector rewrites the state it takes. -/
theorem processState_update {env : Env} {state : SecurityDetectionState}
    (h : processState node env state log = (.ok (), log')) : ∃ f hf,
      log'.detectionStates = log.detectionStates.update state.key f hf ∧
        (f state).queuedGeneration = state.queuedGeneration ∧
        (f state).lastProcessed = (((log.queue state).take 20).getLast?.map fun e =>
          (e.occurredAt, e.id)).or state.lastProcessed ∧
        (f state).doneGeneration = if 20 < (log.queue state).length then state.doneGeneration
          else state.queuedGeneration := by
  unfold processState at h
  rw [Prog.query_bind_run] at h
  obtain ⟨next, mid, hscan, hwrite⟩ := Prog.bind_eq_ok.mp h
  obtain rfl := Prog.write_eq_ok.mp hwrite
  let f (s : SecurityDetectionState) : SecurityDetectionState := { s with
    lastProcessed := (((log.queue state).take 20).getLast?.map fun e =>
      (e.occurredAt, e.id)).or state.lastProcessed
    nextEligibleAt := next
    doneGeneration := if 20 < (log.queue state).length then s.doneGeneration
      else state.queuedGeneration }
  refine ⟨f, fun _ => rfl, ?_, rfl, rfl, rfl⟩
  simp only [f, candidates_take, (scanBatch_raises hscan).states, decide_eq_true_eq,
    lt_length_candidates]

theorem processState_work {env : Env} {state : SecurityDetectionState}
    (hstate : state ∈ log.detectionStates.rows)
    (hpending : state.doneGeneration < state.queuedGeneration)
    (h : processState node env state log = (.ok (), log')) : log'.work + 1 = log.work := by
  have hfailures := processState_failures h
  obtain ⟨f, hf, hstates, hqueued, hlast, hdone⟩ := processState_update h
  have hpassed := turns_passed hpending
    (queue_passed (hfailures state.key) (hf state) hlast) hqueued hdone
  have hothers : (log.detectionStates.total fun q =>
      if q.key = state.key then 0 else (log'.turns q : ℤ)) =
      log.detectionStates.total fun q => if q.key = state.key then 0 else (log.turns q : ℤ) :=
    log.detectionStates.total_congr fun q _ => by rw [turns_congr hfailures]
  rw [SecurityLog.work, SecurityLog.work, hstates, Table.total_update _ hstate,
    Table.total_split _ hstate fun q => (log.turns q : ℤ), hothers, ← hpassed]
  push_cast
  exact add_assoc _ _ _

end Work

/-! ### The worker empties the queue -/

section Worker

variable {node : NodeRuntime} {log log' : SecurityLog}

theorem SecurityLog.work_nonneg : 0 ≤ log.work :=
  List.sum_nonneg (List.forall_mem_map.mpr fun _ _ => Int.natCast_nonneg _)

theorem pendingState_none (h : log.pendingState (fun _ => false) = none) : log.work = 0 ∧
    ∀ s ∈ log.detectionStates.rows, s.queuedGeneration ≤ s.doneGeneration := by
  rw [SecurityLog.pendingState, List.head?_eq_none_iff, ← List.length_eq_zero_iff,
    List.length_insertionSort, List.length_eq_zero_iff, Table.findMany,
    List.filter_eq_nil_iff] at h
  have hdone : ∀ s ∈ log.detectionStates.rows, s.queuedGeneration ≤ s.doneGeneration := by
    intro s hs
    simpa using h s hs
  refine ⟨?_, hdone⟩
  refine (Table.total_eq_zero_iff _ fun s _ => Int.natCast_nonneg _).mpr fun s hs => ?_
  rw [SecurityLog.turns, if_neg (not_lt.mpr (hdone s hs)), Nat.cast_zero]

/-- A call takes one turn, or finds nothing queued. -/
theorem processOne_takes (hnode : node.Distinguishes) (howned : log.Owned node) (env : Env) :
    (processOne node env (fun _ => false) log = (.ok false, log) ∧ log.work = 0) ∨
      ∃ log', processOne node env (fun _ => false) log = (.ok true, log') ∧
        log'.work + 1 = log.work ∧ log'.Owned node := by
  unfold processOne
  cases hpending : log.pendingState fun _ => false with
  | none =>
    refine Or.inl ⟨Prog.transaction_eq_ok.mpr ?_, (pendingState_none hpending).1⟩
    rw [Prog.query_bind_run]
    simp only [hpending]
    rfl
  | some state =>
    have hmem := List.mem_of_mem_head? (Option.mem_def.mpr hpending)
    rw [List.mem_insertionSort, Table.mem_findMany, Bool.and_eq_true, decide_eq_true_eq] at hmem
    obtain ⟨hstate, hqueued, _⟩ := hmem
    obtain ⟨_, log', hrun⟩ := processState_returns hnode howned env state
    refine Or.inr ⟨log', Prog.transaction_eq_ok.mpr ?_, processState_work hstate hqueued hrun,
      processState_owned howned hrun⟩
    rw [Prog.query_bind_run]
    simp only [hpending]
    exact Prog.bind_eq_ok.mpr ⟨(), log', hrun, rfl⟩

/-- The loop takes a turn for each of the work, as many as it may. -/
theorem processStates_takes (hnode : node.Distinguishes) (howned : log.Owned node) (env : Env)
    (maxStates processed : ℕ) : ∃ n log',
      processStates node env (fun _ => false) maxStates processed log = (.ok (processed + n), log') ∧
        (n : ℤ) = min (maxStates : ℤ) log.work ∧ log'.work = log.work - n ∧
        SecurityRun node log log' := by
  induction maxStates generalizing processed log with
  | zero =>
    exact ⟨0, log, rfl, (min_eq_left log.work_nonneg).symm, (sub_zero _).symm, .refl⟩
  | succ maxStates ih =>
    rw [processStates]
    rcases processOne_takes hnode howned env with ⟨hidle, hwork⟩ | ⟨mid, htaken, hwork, hmid⟩
    · refine ⟨0, log, ?_, ?_, (sub_zero _).symm, .refl⟩
      · exact Prog.bind_eq_ok.mpr ⟨false, log, hidle, rfl⟩
      · rw [hwork]
        exact (min_eq_right (Int.natCast_nonneg _)).symm
    · obtain ⟨n, log', hrest, hn, hleft, hrun⟩ := ih hmid (processed + 1)
      have hstep : SecurityStep node log mid := by
        rw [← show (processOne node env (fun _ => false) log).2 = mid from congrArg Prod.snd htaken]
        exact SecurityStep.detect env (fun _ => false) log
      refine ⟨n + 1, log', Prog.bind_eq_ok.mpr ⟨true, mid, htaken, ?_⟩, ?_, ?_, .head hstep hrun⟩
      · rw [if_pos rfl, hrest, add_assoc, add_comm 1 n]
      · push_cast
        omega
      · push_cast
        omega

end Worker

/-! ### Runs -/

/-- One call of the log's services, where no event is recorded under the detector's name. -/
inductive ReportedStep (node : NodeRuntime) : SecurityLog → SecurityLog → Prop where
  | record (env : SecurityEnv) (input : SecurityEventInput) (log : SecurityLog)
      (hsource : inputSource input ≠ "DETECTOR") :
      ReportedStep node log (recordSecurityEvent node env input log).2
  | detect (env : Env) (locked : DetectionKey → Bool) (log : SecurityLog) :
      ReportedStep node log (processOne node env locked log).2

abbrev ReportedRun (node : NodeRuntime) : SecurityLog → SecurityLog → Prop :=
  Relation.ReflTransGen (ReportedStep node)

section Runs

variable {node : NodeRuntime} {log log' : SecurityLog}

theorem ReportedStep.security (h : ReportedStep node log log') : SecurityStep node log log' := by
  cases h with
  | record env input => exact .record env input log
  | detect env locked => exact .detect env locked log

theorem securityEventRow_source (id : Uuid) (occurredAt : Instant) (hash : Option String)
    (keyVersion : String) (scopes : Table SecurityEventSchool.schoolId)
    (input : SecurityEventInput) :
    (securityEventRow node id occurredAt hash keyVersion scopes input).source =
      inputSource input := by
  rw [securityEventRow]

/-- A recorded event has the name that its input gives. -/
theorem recordSecurityEvent_named (env : SecurityEnv) (input : SecurityEventInput)
    {a : SecurityEvent} (ha : a ∈ (recordSecurityEvent node env input log).2.events.rows) :
    a ∈ log.events.rows ∨ a.source = inputSource input := by
  rw [recordSecurityEvent_write] at ha
  rcases Prog.transaction_cases
    (writeSecurityEvent node env (env.uuid log.events.keys) input) rfl log with ⟨_, hok⟩ | hsame
  · generalize (writeSecurityEvent node env (env.uuid log.events.keys) input log).2 = log'
      at hok ha
    obtain ⟨_, mid, hcreate, hqueue⟩ := Prog.bind_eq_ok.mp (Prog.transaction_eq_ok.mp hok)
    obtain ⟨_, hrows, _⟩ := createSecurityEvent_ok hcreate
    rw [(queueDetection_ok hqueue).events, hrows] at ha
    rcases List.mem_append.mp ha with ha | ha
    · exact Or.inl ha
    · rw [List.mem_singleton.mp ha, securityEventRow_source]
      exact Or.inr (Eq.refl _)
  · rw [hsame] at ha
    exact Or.inl ha

theorem ReportedStep.owned (h : ReportedStep node log log') (howned : log.Owned node) :
    log'.Owned node := by
  have hsub := h.security.keeps.1
  cases h with
  | record env input _ hsource =>
    intro a ha hname
    rcases recordSecurityEvent_named env input ha with hold | hnew
    · obtain ⟨key, source, hraised⟩ := howned a hold hname
      exact ⟨key, source, hraised.mono hsub⟩
    · exact absurd (hnew.symm.trans hname) hsource
  | detect env locked =>
    rcases processOne_store node env locked log with hsame | ⟨state, _, _, hrun⟩
    · rwa [hsame]
    · exact processState_owned howned hrun

theorem ReportedRun.owned (h : ReportedRun node {} log) : log.Owned node := by
  induction h with
  | refl => exact fun a ha => absurd ha List.not_mem_nil
  | tail _ hstep ih => exact hstep.owned ih

theorem drained_of_work (h : log.work = 0) {s : SecurityDetectionState}
    (hs : s ∈ log.detectionStates.rows) : s.queuedGeneration ≤ s.doneGeneration := by
  have hzero := (Table.total_eq_zero_iff _ fun s _ => Int.natCast_nonneg _).mp h s hs
  unfold SecurityLog.turns at hzero
  split at hzero
  · exact absurd hzero (Int.natCast_ne_zero.mpr (Nat.succ_ne_zero _))
  · next hdone => exact not_lt.mp hdone

/-- In every state of a run, the worker takes as many turns as it may and there is work for, and
none of them fails. If it may take them all, nothing is queued after it, and every failure that
calls for an alarm has one less than ten minutes away. -/
theorem queue_drains (hnode : node.Distinguishes) (hrun : ReportedRun node {} log) (env : Env)
    (maxStates : ℕ) : ∃ n log',
      processSecurityDetectionQueue node env (fun _ => false) maxStates log = (.ok n, log') ∧
        (n : ℤ) = min (maxStates : ℤ) log.work ∧ log'.work = log.work - n ∧
        (log.work ≤ maxStates →
          (∀ s ∈ log'.detectionStates.rows, s.queuedGeneration ≤ s.doneGeneration) ∧
          ∀ key : DetectionKey, key.subject.IsKnown → ∀ e ∈ log'.failures key,
            key.subject.rule.threshold ≤ (log'.window key e).length →
            ∃ a ∈ log'.events.rows, a.isAlarmOf node key = true ∧
              |a.occurredAt - e.occurredAt| < windowMs) := by
  obtain ⟨n, log', hqueue, hn, hwork, hturns⟩ :=
    processStates_takes hnode hrun.owned env maxStates 0
  rw [Nat.zero_add] at hqueue
  refine ⟨n, log', hqueue, hn, hwork, fun henough => ?_⟩
  have hdone : log'.work = 0 := by
    rw [hwork, hn, min_eq_right henough, sub_self]
  refine ⟨fun s hs => drained_of_work hdone hs, fun key hknown e he hcount => ?_⟩
  have hreached : RetainedRun node (e.occurredAt - windowMs) {} log' :=
    ((hrun.lift id fun _ _ => ReportedStep.security).trans hturns).lift id
      fun _ _ => SecurityStep.retained
  refine (detector_withRetention hreached key).1 hknown (fun s hs hkey => ?_) e he
    (sub_add_cancel _ _).le hcount
  have hkept := (soundSince_empty.run hreached).keptUp key hknown
  have hle := hkept.le
  rw [← hkey, stateOf_mem hs] at hle
  exact le_antisymm hle (drained_of_work hdone hs)

end Runs

/-! ### The five failures -/

namespace FiveFailures

def ruleNumber : DetectionRule → ℕ
  | .account => 0
  | .ip => 1

def scopeNumber : ScopeKey → ℕ
  | .global => 0
  | .school schoolId viewerUserId => Nat.pair schoolId (viewerUserId.elim 0 Nat.succ) + 1

def subjectNumber : SubjectKey → ℕ
  | .ip _ => 0
  | .hash _ => 1
  | .user userId => userId + 2

def subjectText : SubjectKey → List Char
  | .ip text | .hash text => text.toList
  | .user _ => []

/-- A node that hashes nothing: it writes down what an alarm is raised for, first as a number
and then as a text. -/
def writingNode : NodeRuntime where
  sha256
    | .key _ _ _ _ => "4e0740"
    | .attempt rule scopeKey subjectKey sourceId =>
      String.ofList (List.replicate (Nat.pair (ruleNumber rule) (Nat.pair (scopeNumber scopeKey)
        (Nat.pair (subjectNumber subjectKey) sourceId))) '0' ++ '1' :: subjectText subjectKey)
  hmacSha256 _ text := text
  isIP _ := 0

theorem ruleNumber_injective : Function.Injective ruleNumber := by
  intro rule rule' h
  cases rule <;> cases rule' <;> first | rfl | cases h

theorem scopeNumber_injective : Function.Injective scopeNumber := by
  intro scope scope' h
  cases scope with
  | global => cases scope' with
    | global => rfl
    | school _ _ => cases h
  | school schoolId viewer => cases scope' with
    | global => cases h
    | school schoolId' viewer' =>
      obtain ⟨rfl, hviewer⟩ := Nat.pair_eq_pair.mp (Nat.succ.inj h)
      cases viewer <;> cases viewer' <;> simp_all

theorem subject_injective {subject subject' : SubjectKey}
    (h : subjectNumber subject = subjectNumber subject')
    (htext : subjectText subject = subjectText subject') : subject = subject' := by
  cases subject <;> cases subject' <;>
    simp_all [subjectNumber, subjectText, String.toList_inj]

theorem replicate_unique {n m : ℕ} {l l' : List Char}
    (h : List.replicate n '0' ++ '1' :: l = List.replicate m '0' ++ '1' :: l') :
    n = m ∧ l = l' := by
  induction n generalizing m with
  | zero => cases m <;> simp_all [List.replicate_succ]
  | succ n ih =>
    cases m with
    | zero => simp [List.replicate_succ] at h
    | succ m =>
      rw [List.replicate_succ, List.replicate_succ, List.cons_append, List.cons_append,
        List.cons.injEq] at h
      obtain ⟨hn, hl⟩ := ih h.2
      exact ⟨congrArg Nat.succ hn, hl⟩

theorem writingNode_distinguishes : writingNode.Distinguishes := by
  intro rule scopeKey subjectKey sourceId rule' scopeKey' subjectKey' sourceId' h
  obtain ⟨hnumber, htext⟩ := replicate_unique (String.ofList_injective h)
  obtain ⟨hrule, hnumber⟩ := Nat.pair_eq_pair.mp hnumber
  obtain ⟨hscope, hnumber⟩ := Nat.pair_eq_pair.mp hnumber
  obtain ⟨hsubject, hsource⟩ := Nat.pair_eq_pair.mp hnumber
  exact ⟨ruleNumber_injective hrule, scopeNumber_injective hscope,
    subject_injective hsubject htext, hsource⟩

theorem recorded_run : ReportedRun writingNode {} recorded := by
  have record : ∀ log minute attemptId, inputSource (attempt attemptId) ≠ "DETECTOR" →
      ReportedRun writingNode log (recordSecurityEvent node (env minute) (attempt attemptId) log).2 :=
    fun log minute attemptId h => .single (.record _ _ log h)
  exact ((((record _ _ _ (by decide +kernel)).trans (record _ _ _ (by decide +kernel))).trans
    (record _ _ _ (by decide +kernel))).trans (record _ _ _ (by decide +kernel))).trans
    (record _ _ _ (by decide +kernel))

end FiveFailures

theorem queue_drains_fiveFailures : ∃ n log',
    processSecurityDetectionQueue FiveFailures.writingNode (FiveFailures.env 5).toEnv
      (fun _ => false) 20 FiveFailures.recorded = (.ok n, log') ∧
      (n : ℤ) = min (20 : ℤ) FiveFailures.recorded.work ∧
      log'.work = FiveFailures.recorded.work - n ∧
      (FiveFailures.recorded.work ≤ 20 →
        (∀ s ∈ log'.detectionStates.rows, s.queuedGeneration ≤ s.doneGeneration) ∧
        ∀ key : DetectionKey, key.subject.IsKnown → ∀ e ∈ log'.failures key,
          key.subject.rule.threshold ≤ (log'.window key e).length →
          ∃ a ∈ log'.events.rows, a.isAlarmOf FiveFailures.writingNode key = true ∧
            |a.occurredAt - e.occurredAt| < windowMs) :=
  queue_drains FiveFailures.writingNode_distinguishes FiveFailures.recorded_run _ 20

end OSK
