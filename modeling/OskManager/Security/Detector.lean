import Mathlib.Algebra.Order.Group.Abs
import Mathlib.Algebra.Order.Group.Int
import Mathlib.Logic.Relation
import OskManager.Lib.Keyset
import OskManager.Lib.Watch
import OskManager.Sample.FiveFailures

/-! The detector over whole runs. Failures are recorded in any order, and a turn of the detector
passes the next of them for one key. A key whose queue is empty has an alarm near every failure
that calls for one, and no two alarms of a key are near each other. -/

namespace OSK

open Relational Watching

/-! ### Failures, calls and alarms of a key -/

section Key

variable {log log' : SecurityLog} {key : DetectionKey} {e s : SecurityEvent}

/-- The failures of the key in the ten minutes that end at `e`, as far as `e`. -/
def SecurityLog.window (log : SecurityLog) (key : DetectionKey) (e : SecurityEvent) :
    List SecurityEvent :=
  (log.failures key).filter fun x =>
    decide (e.occurredAt - windowMs < x.occurredAt ∧ x.position ≤ e.position)

theorem mem_failures :
    e ∈ log.failures key ↔ e ∈ log.events.rows ∧ e.countsFor key = true := Table.mem_findMany _ _ _

theorem position_le : s.position ≤ e.position ↔
    s.occurredAt < e.occurredAt ∨ s.occurredAt = e.occurredAt ∧ s.id ≤ e.id :=
  Prod.Lex.toLex_le_toLex

theorem attemptCount_eq : log.attemptCount key e = (log.window key e).length := by
  rw [SecurityLog.attemptCount, Table.count, Table.findMany, SecurityLog.window,
    SecurityLog.failures, Table.findMany, List.filter_filter]
  congr 1
  apply List.filter_congr
  intro x _
  rw [Bool.and_comm]
  congr 1
  apply decide_eq_decide.mpr
  rw [position_le]
  have hwidth : windowMs = 600000 := rfl
  dsimp only [Instant, Uuid] at *
  refine ⟨fun h => ?_, fun h => ?_⟩ <;> omega

/-- The time of a position. -/
def timeOf (p : Position) : ℤ := (ofLex p).1

theorem timeOf_mono : Monotone timeOf := fun _ _ h => Prod.Lex.monotone_fst _ _ h

/-- The positions of the failures that call for an alarm. -/
def SecurityLog.calls (log : SecurityLog) (key : DetectionKey) : Set Position :=
  {p | ∃ e ∈ log.failures key, e.position = p ∧
    key.subject.rule.threshold ≤ (log.window key e).length}

theorem calls_congr (h : log'.failures key = log.failures key) :
    log'.calls key = log.calls key := by
  simp only [SecurityLog.calls, SecurityLog.window, h]

variable (node : NodeRuntime)

/-- A stored alarm of the key. -/
def SecurityEvent.isAlarmOf (key : DetectionKey) (e : SecurityEvent) : Bool :=
  e.isAlarmIn key && e.hasRule node key

def SecurityLog.alarmTimes (log : SecurityLog) (key : DetectionKey) : Set ℤ :=
  {t | ∃ a ∈ log.events.rows, a.isAlarmOf node key = true ∧ a.occurredAt = t}

/-- Every alarm names its rule and its source, at whose time it is. -/
def SecurityLog.Sourced (log : SecurityLog) : Prop :=
  ∀ a ∈ log.events.rows, ∀ id, a.sourceEventId = some id →
    a.resourceId ≠ none ∧ ∃ e ∈ log.events.rows, e.id = id ∧ e.occurredAt = a.occurredAt

/-- Every alarm with a source names its rule. -/
def SecurityLog.Ruled (log : SecurityLog) : Prop :=
  ∀ a ∈ log.events.rows, a.sourceEventId ≠ none → a.resourceId ≠ none

theorem SecurityLog.Sourced.ruled (h : log.Sourced) : log.Ruled := by
  intro a ha hsource
  obtain ⟨id, hid⟩ := Option.ne_none_iff_exists'.mp hsource
  exact (h a ha id hid).1

variable {node}

/-- What the detector finds near a failure. -/
theorem previousAlarm_found (hruled : log.Ruled) {a : SecurityEvent}
    (h : log.previousAlarm node key e = some a) :
    a ∈ log.events.rows ∧ a.isAlarmOf node key = true ∧
      isNearby e.occurredAt a.occurredAt = true := by
  have hmem := List.mem_of_mem_head? (Option.mem_def.mpr h)
  rw [List.mem_insertionSort, Table.mem_findMany] at hmem
  obtain ⟨hrow, hmem⟩ := hmem
  simp only [Bool.and_eq_true, Bool.or_eq_true] at hmem
  obtain ⟨⟨hin, hnear⟩, hrule | hlegacy⟩ := hmem
  · exact ⟨hrow, by rw [SecurityEvent.isAlarmOf, hin, hrule, Bool.and_self], hnear⟩
  · -- An alarm without a rule has no source either, so that no legacy source matches.
    simp only [SecurityEvent.isLegacyOf, Bool.and_eq_true, decide_eq_true_eq,
      Option.any_eq_true] at hlegacy
    obtain ⟨hresource, id, hid, _⟩ := hlegacy
    exact absurd hresource (hruled a hrow (hid ▸ Option.some_ne_none id))

theorem previousAlarm_missed (h : log.previousAlarm node key e = none) {a : SecurityEvent}
    (ha : a ∈ log.events.rows) (halarm : a.isAlarmOf node key = true) :
    isNearby e.occurredAt a.occurredAt = false := by
  rw [SecurityLog.previousAlarm, List.head?_eq_none_iff, ← List.length_eq_zero_iff,
    List.length_insertionSort, List.length_eq_zero_iff, Table.findMany,
    List.filter_eq_nil_iff] at h
  have hmiss := h a ha
  rw [SecurityEvent.isAlarmOf, Bool.and_eq_true] at halarm
  simpa [halarm.1, halarm.2] using hmiss

theorem isNearby_iff {t t' : Instant} :
    isNearby t t' = true ↔ t' - windowMs < t ∧ t < t' + windowMs := by
  rw [isNearby, decide_eq_true_eq]
  dsimp only [Instant] at *
  omega

end Key

/-! ### What a recorded event changes -/

section Record

variable {log log' : SecurityLog} {occurredAt : Instant}

theorem createSecurityEvent_ok {row : SecurityEvent}
    (h : createSecurityEvent row log = (.ok (), log')) :
    row.id ∉ log.events.keys ∧ log'.events.rows = log.events.rows ++ [row] ∧
      log'.detectionStates = log.detectionStates := by
  unfold createSecurityEvent at h
  split at h
  · cases h
  · next hid =>
    split at h
    · cases h
    · cases h
      exact ⟨hid, rfl, rfl⟩

/-- A state that is queued once more, with its cursor before the new event. -/
structure Requeued (occurredAt : Instant) (s s' : SecurityDetectionState) : Prop where
  key : s'.key = s.key
  done : s'.doneGeneration = s.doneGeneration
  queued : s.queuedGeneration < s'.queuedGeneration
  cursor : (s'.lastProcessed = s.lastProcessed ∧ s'.nextEligibleAt = s.nextEligibleAt ∧
      ∀ p, s.lastProcessed = some p → p.1 < occurredAt) ∨
    (s'.lastProcessed = some (occurredAt - 1, nilUuid) ∧ s'.nextEligibleAt = none ∧
      ∃ p, s.lastProcessed = some p ∧ occurredAt ≤ p.1)

theorem Requeued.trans {s s' s'' : SecurityDetectionState} (h : Requeued occurredAt s s')
    (h' : Requeued occurredAt s' s'') : Requeued occurredAt s s'' where
  key := h'.key.trans h.key
  done := h'.done.trans h.done
  queued := h.queued.trans h'.queued
  cursor := by
    rcases h.cursor with ⟨hlast, hnext, hbefore⟩ | ⟨hlast, hnext, hlate⟩
    · rcases h'.cursor with ⟨hlast', hnext', _⟩ | ⟨_, _, p, hp, hle⟩
      · exact Or.inl ⟨hlast'.trans hlast, hnext'.trans hnext, hbefore⟩
      · exact absurd (hbefore p (hlast ▸ hp)) (not_lt.mpr hle)
    · rcases h'.cursor with ⟨hlast', hnext', _⟩ | ⟨_, _, p, hp, hle⟩
      · exact Or.inr ⟨hlast'.trans hlast, hnext'.trans hnext, hlate⟩
      · -- The cursor is put back once only: it is before the event already.
        rw [hlast, Option.some_inj] at hp
        subst hp
        exact absurd (Int.sub_one_lt_of_le le_rfl) (not_lt.mpr hle)

/-- The stored state of the key, or the one that its first event starts from. -/
def SecurityLog.stateOf (log : SecurityLog) (key : DetectionKey) : SecurityDetectionState :=
  (log.detectionStates.findUnique key).getD { key, lastActiveAt := 0 }

/-- What queueing the keys of an event changes. -/
structure Queued (occurredAt : Instant) (keys : List DetectionKey) (log log' : SecurityLog) :
    Prop where
  events : log'.events = log.events
  others : ∀ k ∉ keys,
    log'.detectionStates.findUnique k = log.detectionStates.findUnique k
  requeued : ∀ k ∈ keys, ∃ s, log'.detectionStates.findUnique k = some s ∧
    Requeued occurredAt (log.stateOf k) s

theorem stateOf_key (key : DetectionKey) : (log.stateOf key).key = key := by
  unfold SecurityLog.stateOf
  cases h : log.detectionStates.findUnique key with
  | none => rfl
  | some s => exact Table.key_of_findUnique h

theorem queued_findUnique (key : DetectionKey) :
    (log.queued occurredAt key).detectionStates.findUnique key =
      some { log.stateOf key with
        queuedGeneration := (log.stateOf key).queuedGeneration + 1, lastActiveAt := occurredAt } := by
  unfold SecurityLog.queued SecurityLog.stateOf
  split
  · next h =>
    obtain ⟨s, hs, hkey⟩ := (Table.mem_keys _ _).mp h
    subst hkey
    simp [Table.findUnique_of_mem hs]
  · next h => simp [(Table.findUnique_eq_none _ _).mpr h]

theorem queueOne (key : DetectionKey) :
    Queued occurredAt [key] log ((log.queued occurredAt key).rewound occurredAt key) where
  events := by
    unfold SecurityLog.rewound SecurityLog.queued
    split <;> rfl
  others k hk := by
    rw [List.mem_singleton] at hk
    have hfirst : (log.queued occurredAt key).detectionStates.findUnique k =
        log.detectionStates.findUnique k := by
      unfold SecurityLog.queued
      split <;> simp [hk]
    rw [SecurityLog.rewound, Table.findUnique_updateMany, hfirst]
    cases h : log.detectionStates.findUnique k with
    | none => rfl
    | some s =>
      have hkey : s.key ≠ key := by
        rw [Table.key_of_findUnique h]
        exact hk
      simp [hkey]
  requeued k hk := by
    rw [List.mem_singleton] at hk
    subst hk
    rw [SecurityLog.rewound, Table.findUnique_updateMany, queued_findUnique]
    refine ⟨_, rfl, ?_⟩
    have hkey : (log.stateOf k).key = k := stateOf_key k
    generalize log.stateOf k = s at hkey
    simp only [hkey, decide_true, Bool.true_and]
    split
    · next hlate =>
      simp only [Option.any_eq_true, decide_eq_true_eq] at hlate
      exact ⟨hkey.symm, rfl, Nat.lt_succ_self _, Or.inr ⟨rfl, rfl, hlate⟩⟩
    · next hlate =>
      simp only [Option.any_eq_true, decide_eq_true_eq, not_exists, not_and, not_le] at hlate
      exact ⟨hkey.symm, rfl, Nat.lt_succ_self _, Or.inl ⟨rfl, rfl, hlate⟩⟩

theorem Queued.stateOf {keys : List DetectionKey} (h : Queued occurredAt keys log log')
    {k : DetectionKey} (hk : k ∈ keys) : Requeued occurredAt (log.stateOf k) (log'.stateOf k) := by
  obtain ⟨s, hs, hreq⟩ := h.requeued k hk
  have hstate : log'.stateOf k = s := by rw [SecurityLog.stateOf, hs, Option.getD_some]
  rwa [hstate]

theorem Queued.stateOf_other {keys : List DetectionKey} (h : Queued occurredAt keys log log')
    {k : DetectionKey} (hk : k ∉ keys) : log'.stateOf k = log.stateOf k := by
  rw [SecurityLog.stateOf, h.others k hk, SecurityLog.stateOf]

theorem Queued.cons {key : DetectionKey} {rest : List DetectionKey} {mid : SecurityLog}
    (h : Queued occurredAt [key] log mid) (hrest : Queued occurredAt rest mid log') :
    Queued occurredAt (key :: rest) log log' where
  events := hrest.events.trans h.events
  others k hk := by
    rw [List.mem_cons, not_or] at hk
    rw [hrest.others k hk.2, h.others k (by simpa using hk.1)]
  requeued k hk := by
    by_cases hkrest : k ∈ rest
    · obtain ⟨s, hs, hreq⟩ := hrest.requeued k hkrest
      refine ⟨s, hs, ?_⟩
      by_cases hkey : k = key
      · exact (h.stateOf (by simpa using hkey)).trans hreq
      · rwa [h.stateOf_other (by simpa using hkey)] at hreq
    · have hkey : k = key := by simpa [hkrest] using hk
      obtain ⟨s, hs, hreq⟩ := h.requeued k (by simpa using hkey)
      exact ⟨s, (hrest.others k hkrest).trans hs, hreq⟩

theorem queueDetection_ok {keys : List DetectionKey}
    (h : queueDetection occurredAt keys log = (.ok (), log')) :
    Queued occurredAt keys log log' := by
  induction keys generalizing log with
  | nil =>
    obtain ⟨_, rfl⟩ := Prog.pure_eq_ok.mp h
    exact ⟨rfl, fun _ _ => rfl, fun k hk => absurd hk List.not_mem_nil⟩
  | cons key rest ih =>
    obtain ⟨_, mid, hmid, hrest⟩ := Prog.bind_eq_ok.mp h
    obtain rfl := Prog.write_eq_ok.mp hmid
    exact (queueOne key).cons (ih hrest)

/-- The keys that are counted exactly. A hash is not one of them: a failure of a known user that
also gives a login has the hash, but is queued for the user. -/
def DetectionSubject.IsKnown : DetectionSubject → Prop
  | .ip _ | .user _ => True
  | .hash _ _ => False

section Row

variable {node : NodeRuntime} {env : SecurityEnv} {id : Uuid} {input : SecurityEventInput}
  {hash : Option String} {keyVersion : String} {scopes : Table SecurityEventSchool.schoolId}

/-- A failure is queued for every key that it counts for. -/
theorem mem_detectionKeys {key : DetectionKey} (hknown : key.subject.IsKnown)
    (hcounts : (securityEventRow node id occurredAt hash keyVersion scopes input).countsFor key =
      true) : key ∈ detectionKeys node input scopes hash keyVersion := by
  simp only [SecurityEvent.countsFor, Bool.and_eq_true, decide_eq_true_eq] at hcounts
  obtain ⟨⟨htype, hsubject⟩, hscope⟩ := hcounts
  have htype : input.type = .loginFailed := htype
  rw [detectionKeys, if_neg (not_not.mpr htype), List.mem_flatMap]
  refine ⟨key.scopeKey, ?_, ?_⟩
  · cases hkey : key.scopeKey with
    | global => exact List.mem_cons_self
    | school schoolId viewerUserId =>
      simp only [SecurityEvent.inScope, hkey, SecurityEvent.isShownTo, List.any_eq_true,
        decide_eq_true_eq] at hscope
      obtain ⟨s, hs, rfl, rfl⟩ := hscope
      exact List.mem_cons_of_mem _ (List.mem_map_of_mem hs)
  · refine List.mem_map.mpr ⟨key.subject, ?_, rfl⟩
    cases hkey : key.subject with
    | ip clientIp =>
      simp only [SecurityEvent.hasSubject, hkey, Bool.and_eq_true, decide_eq_true_eq] at hsubject
      have hip : normalizeIp node input.clientIp = some clientIp := hsubject.1
      have hsource : input.ipSource.any IpSource.isTrusted = true := hsubject.2
      simp [detectionSubjects, hip, hsource]
    | user userId =>
      simp only [SecurityEvent.hasSubject, hkey, decide_eq_true_eq] at hsubject
      have huser : input.targetUserId = some userId := hsubject
      simp [detectionSubjects, huser]
    | hash loginIdentifierHash version => rw [hkey] at hknown; exact hknown.elim

/-- What one recorded event changes. -/
structure Recorded (row : SecurityEvent) (keys : List DetectionKey) (log log' : SecurityLog) :
    Prop where
  fresh : row.id ∉ log.events.keys
  rows : log'.events.rows = log.events.rows ++ [row]
  others : ∀ k ∉ keys,
    log'.detectionStates.findUnique k = log.detectionStates.findUnique k
  requeued : ∀ k ∈ keys, ∃ s, log'.detectionStates.findUnique k = some s ∧
    Requeued row.occurredAt (log.stateOf k) s
  counted : ∀ k : DetectionKey, k.subject.IsKnown → row.countsFor k = true → k ∈ keys
  unsourced : row.sourceEventId = none

theorem writeSecurityEvent_ok (h : writeSecurityEvent node env id input log = (.ok (), log')) :
    ∃ row keys, Recorded row keys log log' := by
  unfold writeSecurityEvent at h
  obtain ⟨_, mid, hcreate, hqueue⟩ := Prog.bind_eq_ok.mp (Prog.transaction_eq_ok.mp h)
  obtain ⟨hfresh, hrows, hstates⟩ := createSecurityEvent_ok hcreate
  have hqueued := queueDetection_ok hqueue
  refine ⟨_, _, hfresh, ?_, ?_, ?_, fun k hknown hcounts => mem_detectionKeys hknown hcounts, rfl⟩
  · rw [hqueued.events, hrows]
  · intro k hk
    rw [hqueued.others k hk, hstates]
  · intro k hk
    obtain ⟨s, hs, hreq⟩ := hqueued.requeued k hk
    refine ⟨s, hs, ?_⟩
    rwa [SecurityLog.stateOf, hstates] at hreq

theorem recordSecurityEvent_write (input : SecurityEventInput) :
    (recordSecurityEvent node env input log).2 =
      (writeSecurityEvent node env (env.uuid log.events.keys) input log).2 := by
  unfold recordSecurityEvent
  rw [Prog.query_bind_run]
  simp only
  rw [Prog.bind_run, Prog.attempt]
  rcases writeSecurityEvent node env (env.uuid log.events.keys) input log with ⟨_ | _, mid⟩
  · simp only
    rw [Prog.query_bind_run]
    simp only
    split <;> rcases mid.events.findFirst _ with _ | existing <;> rfl
  · rfl

/-- A call either records its event or leaves the log as it was. -/
theorem recordSecurityEvent_store (node : NodeRuntime) (env : SecurityEnv) (log : SecurityLog)
    (input : SecurityEventInput) :
    (recordSecurityEvent node env input log).2 = log ∨
      ∃ row keys, Recorded row keys log (recordSecurityEvent node env input log).2 := by
  rw [recordSecurityEvent_write]
  rcases Prog.transaction_cases
    (writeSecurityEvent node env (env.uuid log.events.keys) input) rfl log with hok | hfailed
  · obtain ⟨_, hok⟩ := hok
    exact Or.inr (writeSecurityEvent_ok hok)
  · exact Or.inl hfailed

end Row

end Record

/-! ### What the detector changes -/

section Detect

variable {node : NodeRuntime} {log log' log'' : SecurityLog} {key : DetectionKey}

/-- Alarms are added, and nothing else. -/
structure Raised (log log' : SecurityLog) : Prop where
  states : log'.detectionStates = log.detectionStates
  rows : ∃ alarms, log'.events.rows = log.events.rows ++ alarms ∧
    ∀ a ∈ alarms, a.type = .repeatedLoginFailures

theorem Raised.refl (log : SecurityLog) : Raised log log := ⟨rfl, [], by simp, by simp⟩

theorem Raised.trans (h : Raised log log') (h' : Raised log' log'') : Raised log log'' := by
  obtain ⟨alarms, hrows, htype⟩ := h.rows
  obtain ⟨alarms', hrows', htype'⟩ := h'.rows
  refine ⟨h'.states.trans h.states, alarms ++ alarms', ?_, ?_⟩
  · rw [hrows', hrows, List.append_assoc]
  · intro a ha
    rcases List.mem_append.mp ha with ha | ha
    · exact htype a ha
    · exact htype' a ha

theorem Raised.failures (h : Raised log log') : log'.failures key = log.failures key := by
  obtain ⟨alarms, hrows, htype⟩ := h.rows
  have hnone : alarms.filter (SecurityEvent.countsFor key) = [] := by
    rw [List.filter_eq_nil_iff]
    intro a ha
    simp [SecurityEvent.countsFor, htype a ha]
  rw [SecurityLog.failures, SecurityLog.failures, Table.findMany, Table.findMany, hrows,
    List.filter_append, hnone, List.append_nil]

theorem alarmTimes_subset (hrows : log.events.rows ⊆ log'.events.rows) :
    log.alarmTimes node key ⊆ log'.alarmTimes node key := by
  intro t ht
  obtain ⟨a, ha, halarm⟩ := ht
  exact ⟨a, hrows ha, halarm⟩

theorem Raised.subset (h : Raised log log') : log.events.rows ⊆ log'.events.rows := by
  obtain ⟨alarms, hrows, _⟩ := h.rows
  rw [hrows]
  exact List.subset_append_left _ _

/-- What one turn of the loop does. -/
inductive Scanned (node : NodeRuntime) (key : DetectionKey) (source : SecurityEvent)
    (next : Option Instant) (log : SecurityLog) : SecurityLog → Option Instant → Prop where
  | quiet {t : Instant} (hnext : next = some t) (hlt : source.occurredAt < t) :
      Scanned node key source next log log next
  | few (hfew : log.attemptCount key source < key.subject.rule.threshold) :
      Scanned node key source next log log next
  | found {a : SecurityEvent} (ha : log.previousAlarm node key source = some a) :
      Scanned node key source next log log (some (a.occurredAt + windowMs))
  | raised {alertId : Uuid} {attemptCount : ℕ} {log' : SecurityLog}
      (hnone : log.previousAlarm node key source = none)
      (hcreate : createSecurityEvent (alarmRow node log alertId key source attemptCount) log =
        (.ok (), log')) :
      Scanned node key source next log log' (some (source.occurredAt + windowMs))

theorem scanSource_ok {env : Env} {source : SecurityEvent} {next next' : Option Instant}
    (h : scanSource node env key next source log = (.ok next', log')) :
    Scanned node key source next log log' next' := by
  unfold scanSource at h
  split at h
  · next hquiet =>
    obtain ⟨rfl, rfl⟩ := Prog.pure_eq_ok.mp h
    simp only [Option.any_eq_true, decide_eq_true_eq] at hquiet
    obtain ⟨t, ht, hlt⟩ := hquiet
    exact .quiet ht hlt
  · rw [Prog.query_bind_run] at h
    simp only at h
    split at h
    · next hfew =>
      obtain ⟨rfl, rfl⟩ := Prog.pure_eq_ok.mp h
      exact .few hfew
    · rcases hprevious : log.previousAlarm node key source with _ | a
      · rw [hprevious] at h
        obtain ⟨_, mid, hcreate, hrest⟩ := Prog.bind_eq_ok.mp h
        obtain ⟨rfl, rfl⟩ := Prog.pure_eq_ok.mp hrest
        exact .raised hprevious hcreate
      · rw [hprevious] at h
        obtain ⟨rfl, rfl⟩ := Prog.pure_eq_ok.mp h
        exact .found hprevious

/-- What every turn of the loop keeps, the loop keeps. -/
theorem scanBatch_keeps {env : Env} {I : List SecurityEvent → Option Instant → SecurityLog → Prop}
    (step : ∀ source rest next log next' log', I (source :: rest) next log →
      Scanned node key source next log log' next' → I rest next' log')
    {batch : List SecurityEvent} {next next' : Option Instant} (hI : I batch next log)
    (h : scanBatch node env key batch next log = (.ok next', log')) : I [] next' log' := by
  induction batch generalizing next log with
  | nil =>
    obtain ⟨rfl, rfl⟩ := Prog.pure_eq_ok.mp h
    exact hI
  | cons source rest ih =>
    obtain ⟨mid, logMid, hsource, hrest⟩ := Prog.bind_eq_ok.mp h
    exact ih (step source rest next log mid logMid hI (scanSource_ok hsource)) hrest

variable {source : SecurityEvent} {next next' : Option Instant}

theorem Scanned.raises (h : Scanned node key source next log log' next') : Raised log log' := by
  cases h with
  | quiet | few | found => exact Raised.refl log
  | raised _ hcreate =>
    obtain ⟨_, hrows, hstates⟩ := createSecurityEvent_ok hcreate
    refine ⟨hstates, _, hrows, fun a ha => ?_⟩
    rw [List.mem_singleton.mp ha, alarmRow]

theorem Scanned.sourced (h : Scanned node key source next log log' next')
    (hsource : source ∈ log.events.rows) (hsourced : log.Sourced) : log'.Sourced := by
  cases h with
  | quiet | few | found => exact hsourced
  | raised _ hcreate =>
    obtain ⟨_, hrows, _⟩ := createSecurityEvent_ok hcreate
    intro a ha id hid
    rw [hrows] at ha ⊢
    rcases List.mem_append.mp ha with ha | ha
    · obtain ⟨hresource, e, he, heq⟩ := hsourced a ha id hid
      exact ⟨hresource, e, List.mem_append_left _ he, heq⟩
    · rw [List.mem_singleton] at ha
      subst ha
      rw [alarmRow, Option.some_inj] at hid
      exact ⟨Option.some_ne_none _, source, List.mem_append_left _ hsource, hid, rfl⟩

theorem Scanned.ruled (h : Scanned node key source next log log' next') (hruled : log.Ruled) :
    log'.Ruled := by
  cases h with
  | quiet | few | found => exact hruled
  | raised _ hcreate =>
    obtain ⟨_, hrows, _⟩ := createSecurityEvent_ok hcreate
    intro a ha hsource
    rw [hrows] at ha
    rcases List.mem_append.mp ha with ha | ha
    · exact hruled a ha hsource
    · rw [List.mem_singleton.mp ha]
      exact Option.some_ne_none _

theorem alarmRow_isAlarmOf (alertId : Uuid) (attemptCount : ℕ) :
    (alarmRow node log alertId key source attemptCount).isAlarmOf node key = true := by
  cases hscope : key.scopeKey <;>
    simp [SecurityEvent.isAlarmOf, SecurityEvent.isAlarmIn, SecurityEvent.hasRule, alarmRow,
      hscope, SecurityEvent.isShownTo]

end Detect

/-! ### No failure is missed -/

section Coverage

variable {node : NodeRuntime} {log log' : SecurityLog} {key : DetectionKey}
  {cursor : WithBot Position} {source : SecurityEvent} {rest : List SecurityEvent}

/-- The failures beyond the cursor, in order. -/
structure Ahead (failures : List SecurityEvent) (cursor : WithBot Position)
    (l : List SecurityEvent) : Prop where
  sorted : l.Pairwise fun a b => a.position < b.position
  mem : ∀ e, e ∈ l ↔ e ∈ failures ∧ cursor < ↑e.position

section Ahead

variable {failures : List SecurityEvent}

theorem Ahead.next (h : Ahead failures cursor (source :: rest)) {e : SecurityEvent}
    (he : e ∈ failures) (hcursor : cursor < ↑e.position) (hle : e.position ≤ source.position) :
    e = source := by
  rcases List.mem_cons.mp ((h.mem e).mpr ⟨he, hcursor⟩) with heq | hrest
  · exact heq
  · exact absurd ((List.pairwise_cons.mp h.sorted).1 e hrest) (not_lt.mpr hle)

theorem Ahead.first (h : Ahead failures cursor (source :: rest)) :
    source ∈ failures ∧ cursor < ↑source.position :=
  (h.mem source).mp List.mem_cons_self

theorem Ahead.tail (h : Ahead failures cursor (source :: rest)) :
    Ahead failures ↑source.position rest where
  sorted := (List.pairwise_cons.mp h.sorted).2
  mem e := by
    refine ⟨?_, ?_⟩
    · intro he
      exact ⟨((h.mem e).mp (List.mem_cons_of_mem _ he)).1,
        WithBot.coe_lt_coe.mpr ((List.pairwise_cons.mp h.sorted).1 e he)⟩
    · intro hmem
      obtain ⟨he, hlt⟩ := hmem
      rcases List.mem_cons.mp ((h.mem e).mpr ⟨he, h.first.2.trans hlt⟩) with heq | hrest
      · exact absurd hlt (by rw [heq]; exact lt_irrefl _)
      · exact hrest

end Ahead

/-- Where the cursor of a state stands. -/
def cursorOf (lastProcessed : Option (Instant × Uuid)) : WithBot Position :=
  lastProcessed.elim ⊥ fun p => ↑(toLex p)

def SecurityDetectionState.watch (state : SecurityDetectionState) : Watch Position ℤ :=
  ⟨cursorOf state.lastProcessed, state.nextEligibleAt⟩

/-- The cursor after the failures `passed`. -/
def cursorAfter (state : SecurityDetectionState) (passed : List SecurityEvent) :
    WithBot Position :=
  cursorOf ((passed.getLast?.map fun e => (e.occurredAt, e.id)).or state.lastProcessed)

theorem cursorAfter_snoc (state : SecurityDetectionState) (passed : List SecurityEvent) :
    cursorAfter state (passed ++ [source]) = ↑source.position := by
  simp [cursorAfter, cursorOf, SecurityEvent.position]

/-- One turn of the loop passes the next failure and covers it. Alarms that are no longer stored
may be counted in. -/
theorem Scanned.covers {next next' : Option Instant} {old : Set ℤ}
    (h : Scanned node key source next log log' next') (hruled : log.Ruled)
    (hahead : Ahead (log.failures key) cursor (source :: rest))
    (hcovers : Watch.Covers timeOf windowMs (log.calls key) (log.alarmTimes node key ∪ old)
      ⟨cursor, next⟩) :
    Watch.Covers timeOf windowMs (log.calls key) (log'.alarmTimes node key ∪ old)
      ⟨↑source.position, next'⟩ := by
  have hcursor := hahead.first.2
  have hnext : ∀ r ∈ log.calls key, cursor < ↑r → r ≤ source.position → r = source.position := by
    intro r hr hlt hle
    obtain ⟨e, he, rfl, _⟩ := hr
    rw [hahead.next he hlt hle]
  cases h with
  | quiet ht hlt => exact hcovers.quieted hcursor hnext ht hlt
  | few hfew =>
    refine hcovers.skip hcursor hnext fun hcall => ?_
    obtain ⟨e, he, hpos, hcount⟩ := hcall
    have heq : e = source := hahead.next he (hpos ▸ hcursor) hpos.le
    rw [heq, ← attemptCount_eq] at hcount
    exact absurd hcount (not_le.mpr hfew)
  | found ha =>
    obtain ⟨hrow, halarm, hnear⟩ := previousAlarm_found hruled ha
    obtain ⟨hafter, hbefore⟩ := isNearby_iff.mp hnear
    exact hcovers.found timeOf_mono hcursor hnext (Or.inl ⟨_, hrow, halarm, rfl⟩) hafter hbefore
  | @raised alertId attemptCount log' _ hcreate =>
    obtain ⟨_, hrows, _⟩ := createSecurityEvent_ok hcreate
    have hsub : log.events.rows ⊆ log'.events.rows := by
      rw [hrows]
      exact List.subset_append_left _ _
    have halarm : source.occurredAt ∈ log'.alarmTimes node key := by
      refine ⟨alarmRow node log alertId key source attemptCount, ?_, alarmRow_isAlarmOf _ _, rfl⟩
      rw [hrows]
      exact List.mem_append_right _ (List.mem_singleton_self _)
    have hwidth : (0 : ℤ) < windowMs := by decide
    have hkept := hcovers.mono (Set.union_subset_union_left old (alarmTimes_subset hsub))
    exact hkept.found timeOf_mono hcursor hnext (Or.inl halarm) (sub_lt_self _ hwidth)
      (lt_add_of_pos_right _ hwidth)

theorem scanBatch_raises {env : Env} {batch : List SecurityEvent} {next next' : Option Instant}
    (h : scanBatch node env key batch next log = (.ok next', log')) : Raised log log' :=
  scanBatch_keeps (I := fun _ _ log' => Raised log log')
    (fun _ _ _ _ _ _ hI hscan => hI.trans hscan.raises) (Raised.refl log) h

theorem scanBatch_sourced {env : Env} {batch : List SecurityEvent} {next next' : Option Instant}
    (hsourced : log.Sourced) (hbatch : batch ⊆ log.events.rows)
    (h : scanBatch node env key batch next log = (.ok next', log')) : log'.Sourced := by
  let I (todo : List SecurityEvent) (_ : Option Instant) (log' : SecurityLog) : Prop :=
    log'.Sourced ∧ todo ⊆ log'.events.rows
  have hstep : ∀ source todo next mid next' mid', I (source :: todo) next mid →
      Scanned node key source next mid mid' next' → I todo next' mid' := by
    intro source todo next mid next' mid' hI hscan
    obtain ⟨hmid, htodo⟩ := hI
    exact ⟨hscan.sourced (htodo List.mem_cons_self) hmid,
      fun e he => hscan.raises.subset (htodo (List.mem_cons_of_mem _ he))⟩
  exact (scanBatch_keeps (I := I) hstep ⟨hsourced, hbatch⟩ h).1

/-- The loop passes its batch. -/
theorem scanBatch_covers {env : Env} {state : SecurityDetectionState} {old : Set ℤ}
    {batch : List SecurityEvent} {next : Option Instant} (hruled : log.Ruled)
    (hahead : Ahead (log.failures state.key) (cursorOf state.lastProcessed) (batch ++ rest))
    (hcovers : state.watch.Covers timeOf windowMs (log.calls state.key)
      (log.alarmTimes node state.key ∪ old))
    (h : scanBatch node env state.key batch state.nextEligibleAt log = (.ok next, log')) :
    Ahead (log'.failures state.key) (cursorAfter state batch) rest ∧
      Watch.Covers timeOf windowMs (log'.calls state.key) (log'.alarmTimes node state.key ∪ old)
        ⟨cursorAfter state batch, next⟩ := by
  -- `todo` is what the loop still has to pass of its batch.
  let I (todo : List SecurityEvent) (next : Option Instant) (log' : SecurityLog) : Prop :=
    log'.Ruled ∧ ∃ passed, passed ++ todo = batch ∧
      Ahead (log'.failures state.key) (cursorAfter state passed) (todo ++ rest) ∧
      Watch.Covers timeOf windowMs (log'.calls state.key) (log'.alarmTimes node state.key ∪ old)
        ⟨cursorAfter state passed, next⟩
  have hstart : I batch state.nextEligibleAt log := ⟨hruled, [], rfl, hahead, hcovers⟩
  have hstep : ∀ source todo next mid next' mid', I (source :: todo) next mid →
      Scanned node state.key source next mid mid' next' → I todo next' mid' := by
    intro source todo next mid next' mid' hI hscan
    obtain ⟨hmid, passed, hpassed, hahead, hcovers⟩ := hI
    refine ⟨hscan.ruled hmid, passed ++ [source], ?_, ?_, ?_⟩
    · rw [← hpassed, List.append_assoc, List.singleton_append]
    · rw [cursorAfter_snoc, hscan.raises.failures]
      exact hahead.tail
    · rw [cursorAfter_snoc, calls_congr hscan.raises.failures]
      exact hscan.covers hmid hahead hcovers
  obtain ⟨_, passed, hpassed, hend⟩ := scanBatch_keeps hstep hstart h
  rw [List.append_nil] at hpassed
  rw [hpassed] at hend
  exact hend

/-- The failures after the cursor of a state, sorted. -/
def SecurityLog.queue (log : SecurityLog) (state : SecurityDetectionState) : List SecurityEvent :=
  ((log.failures state.key).filter fun e => state.lastProcessed.all fun p =>
    decide (p.1 < e.occurredAt ∨ (e.occurredAt = p.1 ∧ p.2 < e.id))).insertionSort
      fun a b => a.position ≤ b.position

theorem position_distinct (log : SecurityLog) :
    Keyset.Distinct SecurityEvent.position log.events.rows := by
  have hids : log.events.rows.Pairwise fun a b => a.id ≠ b.id :=
    List.pairwise_map.mp log.events.nodup
  refine hids.imp fun {a b} hne heq => hne ?_
  have hposition : a.position = b.position := heq
  exact congrArg (fun p : Position => (ofLex p).2) hposition

theorem ahead_queue (state : SecurityDetectionState) :
    Ahead (log.failures state.key) (cursorOf state.lastProcessed) (log.queue state) where
  sorted := Keyset.sortUp_ascending (((position_distinct log).filter _).filter _)
  mem e := by
    rw [SecurityLog.queue, List.mem_insertionSort, List.mem_filter]
    refine and_congr_right fun _ => ?_
    rcases state.lastProcessed with _ | p
    · simp [cursorOf]
    · have hlt : (toLex p : Position) < e.position ↔
          p.1 < e.occurredAt ∨ p.1 = e.occurredAt ∧ p.2 < e.id := Prod.Lex.toLex_lt_toLex
      rw [Option.all_some, decide_eq_true_eq, cursorOf, Option.elim_some, WithBot.coe_lt_coe, hlt,
        eq_comm]

/-! ### Every state of a run -/

/-- A known key's state covers what it has passed, and has passed all when its queue is empty. -/
structure Monitored (node : NodeRuntime) (log : SecurityLog) (state : SecurityDetectionState) :
    Prop where
  le : state.doneGeneration ≤ state.queuedGeneration
  covers : state.watch.Covers timeOf windowMs (log.calls state.key)
    (log.alarmTimes node state.key)
  drained : state.doneGeneration = state.queuedGeneration →
    ∀ e ∈ log.failures state.key, ↑e.position ≤ state.watch.cursor

theorem Monitored.mono {state : SecurityDetectionState} (h : Monitored node log state)
    (hfailures : log'.failures state.key = log.failures state.key)
    (hsub : log.events.rows ⊆ log'.events.rows) : Monitored node log' state where
  le := h.le
  covers := by
    rw [calls_congr hfailures]
    exact h.covers.mono (alarmTimes_subset hsub)
  drained hdone := by
    rw [hfailures]
    exact h.drained hdone

section Recorded

variable {row : SecurityEvent} {keys : List DetectionKey} (hrec : Recorded row keys log log')
include hrec

theorem Recorded.failures (key : DetectionKey) :
    log'.failures key = log.failures key ++ if row.countsFor key then [row] else [] := by
  rw [SecurityLog.failures, SecurityLog.failures, Table.findMany, Table.findMany, hrec.rows,
    List.filter_append, List.filter_singleton]
  cases row.countsFor key <;> rfl

theorem Recorded.subset : log.events.rows ⊆ log'.events.rows := by
  rw [hrec.rows]
  exact List.subset_append_left _ _

/-- The new event changes no call from before it. -/
theorem Recorded.calls_before {p : Position} (hp : p ∈ log'.calls key)
    (hbefore : timeOf p < row.occurredAt) : p ∈ log.calls key := by
  obtain ⟨e, he, rfl, hcount⟩ := hp
  have hbefore : e.occurredAt < row.occurredAt := hbefore
  have hwindow : log'.window key e = log.window key e := by
    have hlate : ¬row.position ≤ e.position := by
      rw [position_le]
      dsimp only [Instant] at *
      omega
    rw [SecurityLog.window, SecurityLog.window, hrec.failures, List.filter_append]
    cases row.countsFor key <;> simp [hlate]
  rw [hwindow] at hcount
  refine ⟨e, ?_, rfl, hcount⟩
  rw [hrec.failures] at he
  rcases List.mem_append.mp he with he | he
  · exact he
  · split at he
    · rw [List.mem_singleton.mp he] at hbefore
      exact absurd hbefore (lt_irrefl _)
    · cases he

/-- A queued state looks at the new event, and again at what comes after it. -/
theorem Recorded.covers {s s' : SecurityDetectionState} {old : Set ℤ}
    (hcovers : s.watch.Covers timeOf windowMs (log.calls key) (log.alarmTimes node key ∪ old))
    (hreq : Requeued row.occurredAt s s') :
    s'.watch.Covers timeOf windowMs (log'.calls key) (log'.alarmTimes node key ∪ old) := by
  have hkept : log.alarmTimes node key ⊆ log'.alarmTimes node key := alarmTimes_subset hrec.subset
  have hmono := hcovers.mono (Set.union_subset_union_left old hkept)
  have hback : s'.watch.Covers timeOf windowMs (log.calls key) (log'.alarmTimes node key ∪ old) ∧
      ∀ q, s'.lastProcessed = some q → q.1 < row.occurredAt := by
    unfold SecurityDetectionState.watch at hmono ⊢
    rcases hreq.cursor with ⟨hlast, hnext, hbefore⟩ | ⟨hlast, hnext, p, hp, hle⟩
    · rw [hlast, hnext]
      exact ⟨hmono, hbefore⟩
    · rw [hlast, hnext]
      rw [hp] at hmono
      have hlt : row.occurredAt - 1 < p.1 := Int.sub_one_lt_of_le hle
      refine ⟨hmono.rewind (WithBot.coe_le_coe.mpr (Prod.Lex.toLex_le_toLex.mpr (Or.inl hlt))), ?_⟩
      intro q hq
      cases hq
      exact Int.sub_one_lt_of_le le_rfl
  refine hback.1.of_calls fun p hp hle => hrec.calls_before hp ?_
  have hle : ↑p ≤ cursorOf s'.lastProcessed := hle
  rcases hcursor : s'.lastProcessed with _ | q
  · rw [hcursor] at hle
    exact absurd hle (WithBot.not_coe_le_bot p)
  · rw [hcursor] at hle
    exact (timeOf_mono (WithBot.coe_le_coe.mp hle)).trans_lt (hback.2 q hcursor)

/-- Each state of a known key keeps up when an event is recorded. -/
theorem Recorded.monitored
    (h : ∀ s ∈ log.detectionStates.rows, s.key.subject.IsKnown → Monitored node log s)
    {s : SecurityDetectionState} (hs : s ∈ log'.detectionStates.rows)
    (hknown : s.key.subject.IsKnown) : Monitored node log' s := by
  have hfind := Table.findUnique_of_mem hs
  by_cases hkey : s.key ∈ keys
  · -- The state that is queued: the one in store, or the first of its key.
    have hbefore : (log.stateOf s.key).doneGeneration ≤ (log.stateOf s.key).queuedGeneration ∧
        (log.stateOf s.key).watch.Covers timeOf windowMs (log.calls s.key)
          (log.alarmTimes node s.key) := by
      unfold SecurityLog.stateOf
      cases hold : log.detectionStates.findUnique s.key with
      | none => exact ⟨le_rfl, Watch.covers_start⟩
      | some s₀ =>
        have hs₀ := Table.mem_of_findUnique hold
        have hkey₀ := Table.key_of_findUnique hold
        have hmon := h s₀ hs₀ (hkey₀ ▸ hknown)
        exact ⟨hmon.le, hkey₀ ▸ hmon.covers⟩
    obtain ⟨s', hs', hreq⟩ := hrec.requeued s.key hkey
    rw [hfind, Option.some_inj] at hs'
    subst hs'
    have hlt : s.doneGeneration < s.queuedGeneration :=
      hreq.done ▸ hbefore.1.trans_lt hreq.queued
    have hcovers := hbefore.2
    rw [← Set.union_empty (log.alarmTimes node s.key)] at hcovers
    replace hcovers := hrec.covers hcovers hreq
    rw [Set.union_empty] at hcovers
    exact ⟨hlt.le, hcovers, fun hdone => absurd hdone hlt.ne⟩
  · have hcounts : row.countsFor s.key = false := by
      rw [← Bool.not_eq_true]
      exact fun hc => hkey (hrec.counted s.key hknown hc)
    rw [hrec.others s.key hkey] at hfind
    refine (h s (Table.mem_of_findUnique hfind) hknown).mono ?_ hrec.subset
    rw [hrec.failures, hcounts]
    simp

theorem Recorded.sourced (h : log.Sourced) : log'.Sourced := by
  intro a ha id hid
  rw [hrec.rows] at ha ⊢
  rcases List.mem_append.mp ha with ha | ha
  · obtain ⟨hresource, e, he, heq⟩ := h a ha id hid
    exact ⟨hresource, e, List.mem_append_left _ he, heq⟩
  · rw [List.mem_singleton.mp ha, hrec.unsourced] at hid
    cases hid

end Recorded

/-- What a turn of the detector does: it scans a batch of a queued state. -/
theorem processOne_store (node : NodeRuntime) (env : Env) (locked : DetectionKey → Bool)
    (log : SecurityLog) :
    (processOne node env locked log).2 = log ∨
      ∃ state ∈ log.detectionStates.rows, state.doneGeneration < state.queuedGeneration ∧
        processState node env state log = (.ok (), (processOne node env locked log).2) := by
  rcases Prog.transaction_cases (processOne node env locked) rfl log with hok | hfailed
  · obtain ⟨b, hok⟩ := hok
    generalize (processOne node env locked log).2 = log' at hok ⊢
    unfold processOne at hok
    rw [Prog.transaction_eq_ok, Prog.query_bind_run] at hok
    simp only at hok
    rcases hpending : log.pendingState locked with _ | state
    · rw [hpending] at hok
      exact Or.inl (Prog.pure_eq_ok.mp hok).2.symm
    · rw [hpending] at hok
      obtain ⟨_, mid, hstate, hpure⟩ := Prog.bind_eq_ok.mp hok
      obtain ⟨_, rfl⟩ := Prog.pure_eq_ok.mp hpure
      have hmem := List.mem_of_mem_head? (Option.mem_def.mpr hpending)
      rw [List.mem_insertionSort, Table.mem_findMany, Bool.and_eq_true, decide_eq_true_eq] at hmem
      exact Or.inr ⟨state, hmem.1, hmem.2.1, hstate⟩
  · exact Or.inl hfailed

theorem candidates_take (log : SecurityLog) (state : SecurityDetectionState) :
    (log.candidates state).take 20 = (log.queue state).take 20 := by
  rw [SecurityLog.candidates, SecurityLog.queue, List.take_take]
  rfl

theorem lt_length_candidates (log : SecurityLog) (state : SecurityDetectionState) :
    20 < (log.candidates state).length ↔ 20 < (log.queue state).length := by
  rw [SecurityLog.candidates, SecurityLog.queue, List.length_take]
  omega

/-- How the loop over the batch and the update of its state make up the turn. -/
theorem processState_ok {env : Env} {state : SecurityDetectionState}
    (h : processState node env state log = (.ok (), log')) :
    ∃ mid next, scanBatch node env state.key ((log.queue state).take 20) state.nextEligibleAt log =
        (.ok next, mid) ∧ log'.events = mid.events ∧
      ∀ s ∈ log'.detectionStates.rows, (s ∈ mid.detectionStates.rows ∧ s.key ≠ state.key) ∨
        ∃ q ∈ mid.detectionStates.rows, q.key = state.key ∧ s.key = q.key ∧
          s.queuedGeneration = q.queuedGeneration ∧
          s.watch = ⟨cursorAfter state ((log.queue state).take 20), next⟩ ∧
          s.doneGeneration =
            if 20 < (log.queue state).length then q.doneGeneration else state.queuedGeneration := by
  unfold processState at h
  rw [Prog.query_bind_run] at h
  obtain ⟨next, mid, hscan, hwrite⟩ := Prog.bind_eq_ok.mp h
  obtain rfl := Prog.write_eq_ok.mp hwrite
  refine ⟨mid, next, ?_, rfl, ?_⟩
  · rw [← candidates_take]
    exact hscan
  · intro s hs
    simp only [Table.update, Table.mem_updateMany] at hs
    obtain ⟨q, hq, rfl⟩ := hs
    by_cases hkey : q.key = state.key
    · refine Or.inr ⟨q, hq, hkey, ?_⟩
      simp [hkey, SecurityDetectionState.watch, cursorAfter, candidates_take,
        lt_length_candidates]
    · refine Or.inl ?_
      simp [hkey, hq]

/-- Each state of a known key keeps up when the detector takes a turn. -/
theorem processState_monitored {env : Env} {state : SecurityDetectionState}
    (hsourced : log.Sourced) (hstate : state ∈ log.detectionStates.rows)
    (hpending : state.doneGeneration < state.queuedGeneration)
    (h : ∀ s ∈ log.detectionStates.rows, s.key.subject.IsKnown → Monitored node log s)
    (hrun : processState node env state log = (.ok (), log')) :
    log'.Sourced ∧
      ∀ s ∈ log'.detectionStates.rows, s.key.subject.IsKnown → Monitored node log' s := by
  obtain ⟨mid, next, hscan, hevents, hstates⟩ := processState_ok hrun
  have hqueue : Ahead _ _ (log.queue state) := ahead_queue state
  have hbatch : (log.queue state).take 20 ⊆ log.events.rows := fun e he =>
    (mem_failures.mp ((hqueue.mem e).mp (List.mem_of_mem_take he)).1).1
  have hraised := scanBatch_raises hscan
  have hmid := scanBatch_sourced hsourced hbatch hscan
  have hsame : ∀ key, log'.failures key = mid.failures key := by
    intro key
    rw [SecurityLog.failures, hevents, SecurityLog.failures]
  have hmidSub : mid.events.rows ⊆ log'.events.rows := by rw [hevents]; exact List.Subset.refl _
  refine ⟨?_, fun s hs hknown => ?_⟩
  · intro a ha
    rw [hevents] at ha ⊢
    exact hmid a ha
  · rcases hstates s hs with ⟨hold, _⟩ | ⟨q, hq, hqkey, hkey, hqueued, hwatch, hdone⟩
    · refine (h s (hraised.states ▸ hold) hknown).mono ((hsame _).trans hraised.failures) ?_
      exact fun e he => hmidSub (hraised.subset he)
    · -- The state the detector took.
      have hq : q = state := log.detectionStates.key_inj (hraised.states ▸ hq) hstate hqkey
      subst hq
      have hmon := h q hstate (hkey ▸ hknown)
      rw [← List.take_append_drop 20 (log.queue q)] at hqueue
      have hbefore := hmon.covers
      rw [← Set.union_empty (log.alarmTimes node q.key)] at hbefore
      obtain ⟨hahead, hcovers⟩ := scanBatch_covers hsourced.ruled hqueue hbefore hscan
      rw [Set.union_empty] at hcovers
      refine ⟨?_, ?_, ?_⟩
      · rw [hdone, hqueued]
        split
        · exact hmon.le
        · exact le_rfl
      · rw [hwatch, hkey, calls_congr (hsame q.key)]
        exact hcovers.mono (alarmTimes_subset hmidSub)
      · intro hall e he
        rw [hdone, hqueued] at hall
        split at hall
        · exact absurd hall hpending.ne
        · next hfew =>
          rw [List.drop_eq_nil_of_le (not_lt.mp hfew)] at hahead
          rw [hkey, hsame] at he
          rw [hwatch, ← not_lt]
          exact fun hlt => List.not_mem_nil ((hahead.mem e).mpr ⟨he, hlt⟩)

/-- What holds of the log in every run. -/
structure SecurityLog.Sound (node : NodeRuntime) (log : SecurityLog) : Prop where
  sourced : log.Sourced
  states : ∀ s ∈ log.detectionStates.rows, s.key.subject.IsKnown → Monitored node log s

end Coverage

/-! ### Runs -/

/-- One call of the log's services, each as one transaction. -/
inductive SecurityStep (node : NodeRuntime) : SecurityLog → SecurityLog → Prop where
  | record (env : SecurityEnv) (input : SecurityEventInput) (log : SecurityLog) :
      SecurityStep node log (recordSecurityEvent node env input log).2
  | detect (env : Env) (locked : DetectionKey → Bool) (log : SecurityLog) :
      SecurityStep node log (processOne node env locked log).2

abbrev SecurityRun (node : NodeRuntime) : SecurityLog → SecurityLog → Prop :=
  Relation.ReflTransGen (SecurityStep node)

section Runs

variable {node : NodeRuntime} {log log' : SecurityLog}

theorem sound_empty : SecurityLog.Sound node {} where
  sourced _ ha := absurd ha List.not_mem_nil
  states _ hs := absurd hs List.not_mem_nil

theorem SecurityLog.Sound.step (h : log.Sound node) (hstep : SecurityStep node log log') :
    log'.Sound node := by
  cases hstep with
  | record env input =>
    rcases recordSecurityEvent_store node env log input with
      hsame | ⟨row, keys, hrec⟩
    · rwa [hsame]
    · exact ⟨hrec.sourced h.sourced, fun s hs hknown => hrec.monitored h.states hs hknown⟩
  | detect env locked =>
    rcases processOne_store node env locked log with
      hsame | ⟨state, hstate, hpending, hrun⟩
    · rwa [hsame]
    · obtain ⟨hsourced, hstates⟩ :=
        processState_monitored h.sourced hstate hpending h.states hrun
      exact ⟨hsourced, hstates⟩

theorem SecurityLog.Sound.run (h : log.Sound node) (hrun : SecurityRun node log log') :
    log'.Sound node := by
  induction hrun with
  | refl => exact h
  | tail _ hstep ih => exact ih.step hstep

/-- In every state of a run, a key whose queue is empty has an alarm less than ten minutes from
each of its failures that is at least the threshold-th one of the ten minutes that end at it. -/
theorem detector_missesNothing (hrun : SecurityRun node {} log) {state : SecurityDetectionState}
    (hstate : state ∈ log.detectionStates.rows) (hknown : state.key.subject.IsKnown)
    (hdone : state.doneGeneration = state.queuedGeneration) {e : SecurityEvent}
    (he : e ∈ log.failures state.key)
    (hcount : state.key.subject.rule.threshold ≤ (log.window state.key e).length) :
    ∃ a ∈ log.events.rows, a.isAlarmOf node state.key = true ∧
      |a.occurredAt - e.occurredAt| < windowMs := by
  have hmon := (sound_empty.run hrun).states state hstate hknown
  obtain ⟨t, ⟨a, ha, halarm, rfl⟩, hafter, hbefore⟩ :=
    hmon.covers.passed e.position ⟨e, he, rfl, hcount⟩ (hmon.drained hdone e he)
  have hafter : a.occurredAt - windowMs < e.occurredAt := hafter
  have hbefore : e.occurredAt < a.occurredAt + windowMs := hbefore
  refine ⟨a, ha, halarm, abs_lt.mpr ⟨?_, ?_⟩⟩
  · exact neg_lt_sub_iff_lt_add'.mpr hbefore
  · exact sub_lt_comm.mp hafter

end Runs

/-- The log of the five failures comes from a run. -/
theorem fiveFailures_run : SecurityRun FiveFailures.node {} FiveFailures.log := by
  have record : ∀ log minute attemptId, SecurityRun FiveFailures.node log (recordSecurityEvent
      FiveFailures.node (FiveFailures.env minute) (FiveFailures.attempt attemptId) log).2 :=
    fun log minute attemptId => .single (.record _ _ log)
  exact (((((record _ _ _).trans (record _ _ _)).trans (record _ _ _)).trans (record _ _ _)).trans
    (record _ _ _)).tail (.detect (FiveFailures.env 5).toEnv (fun _ => false) FiveFailures.recorded)

theorem detector_missesNothing_fifth :
    ∃ a ∈ FiveFailures.log.events.rows, a.isAlarmOf FiveFailures.node FiveFailures.state.key = true ∧
      |a.occurredAt - FiveFailures.fifth.occurredAt| < windowMs :=
  detector_missesNothing fiveFailures_run FiveFailures.state_mem trivial rfl
    (List.get_mem _ _) (by decide +kernel)

end OSK
