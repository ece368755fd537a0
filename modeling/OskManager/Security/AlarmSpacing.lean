import OskManager.Security.Detector

/-! Alarms of one key. The log only grows, and the detector adds no alarm near one that is
stored, also after its cursor was put back: two alarms of a key are ten minutes apart. -/

namespace OSK

open Relational Watching

section Alarms

variable {node : NodeRuntime} {log log' : SecurityLog} {key : DetectionKey}

/-- The alarms of the key that the detector raised: unlike what is recorded, they have a source. -/
def SecurityLog.raisedAlarms (node : NodeRuntime) (log : SecurityLog) (key : DetectionKey) :
    Set SecurityEvent :=
  {a | a ∈ log.events.rows ∧ a.isAlarmOf node key = true ∧ a.sourceEventId ≠ none}

def SecurityLog.SpacedAlarms (node : NodeRuntime) (log : SecurityLog) : Prop :=
  ∀ key, Spaced windowMs SecurityEvent.occurredAt (log.raisedAlarms node key)

/-- Keys under which one alarm is stored recognise the same alarms. -/
theorem isAlarmOf_congr {key' : DetectionKey} {alertId : Uuid} {source : SecurityEvent} {n : ℕ}
    (h : (alarmRow node log alertId key source n).isAlarmOf node key' = true)
    (e : SecurityEvent) : e.isAlarmOf node key' = e.isAlarmOf node key := by
  simp only [SecurityEvent.isAlarmOf, SecurityEvent.isAlarmIn, SecurityEvent.hasRule,
    Bool.and_eq_true, decide_eq_true_eq] at h
  obtain ⟨⟨⟨_, _, hreason⟩, hscope⟩, _, hrule⟩ := h
  have hreason : key.subject.rule.reasonCode = key'.subject.rule.reasonCode :=
    Option.some_inj.mp hreason
  have hrule : ruleId node key = ruleId node key' := Option.some_inj.mp hrule
  have hscope : key'.scopeKey = key.scopeKey := by
    cases hkey' : key'.scopeKey with
    | global =>
      rw [hkey'] at hscope
      cases hkey : key.scopeKey with
      | global => rfl
      | school => simp [alarmRow, hkey] at hscope
    | school schoolId viewerUserId =>
      rw [hkey'] at hscope
      cases hkey : key.scopeKey with
      | global => simp [alarmRow, hkey, SecurityEvent.isShownTo] at hscope
      | school =>
        simp only [alarmRow, hkey, SecurityEvent.isShownTo, Table.rows_singleton, List.any_cons,
          List.any_nil, Bool.or_false, decide_eq_true_eq] at hscope
        rw [hscope.1, hscope.2]
  simp only [SecurityEvent.isAlarmOf, SecurityEvent.isAlarmIn, SecurityEvent.hasRule, hreason,
    hrule, hscope]

/-- One turn of the loop adds no alarm near another one of its key. -/
theorem Scanned.spaced {source : SecurityEvent} {next next' : Option Instant}
    (h : Scanned node key source next log log' next') (hspaced : log.SpacedAlarms node) :
    log'.SpacedAlarms node := by
  cases h with
  | quiet | few | found => exact hspaced
  | @raised alertId attemptCount _ hnone hcreate =>
    obtain ⟨_, hrows, _⟩ := createSecurityEvent_ok hcreate
    intro key'
    by_cases halarm :
        (alarmRow node log alertId key source attemptCount).isAlarmOf node key' = true
    · -- The new alarm is one of the key, so that none of them was near.
      have hfree : ¬Covered windowMs (SecurityEvent.occurredAt '' log.raisedAlarms node key')
          source.occurredAt := by
        intro hcovered
        obtain ⟨_, ⟨a, ⟨ha, hof, _⟩, rfl⟩, hafter, hbefore⟩ := hcovered
        have hfar := previousAlarm_missed hnone ha (isAlarmOf_congr halarm a ▸ hof)
        rw [isNearby_iff.mpr ⟨hafter, hbefore⟩] at hfar
        cases hfar
      refine Set.Pairwise.mono ?_
        ((hspaced key').insert (x := alarmRow node log alertId key source attemptCount) hfree)
      intro a ha
      obtain ⟨ha, hof⟩ := ha
      rw [hrows] at ha
      rcases List.mem_append.mp ha with ha | ha
      · exact Or.inr ⟨ha, hof⟩
      · exact Or.inl (List.mem_singleton.mp ha)
    · refine (hspaced key').mono ?_
      intro a ha
      obtain ⟨ha, hof⟩ := ha
      rw [hrows] at ha
      rcases List.mem_append.mp ha with ha | ha
      · exact ⟨ha, hof⟩
      · rw [List.mem_singleton.mp ha] at hof
        exact absurd hof.1 halarm

theorem processState_spaced {env : Env} {state : SecurityDetectionState}
    (hspaced : log.SpacedAlarms node)
    (hrun : processState node env state log = (.ok (), log')) : log'.SpacedAlarms node := by
  obtain ⟨mid, next, hscan, hevents, _⟩ := processState_ok hrun
  have hmid : mid.SpacedAlarms node :=
    scanBatch_keeps (I := fun _ _ log => log.SpacedAlarms node)
      (fun _ _ _ _ _ _ hI hstep => hstep.spaced hI) hspaced hscan
  intro key
  rw [SecurityLog.raisedAlarms, hevents]
  exact hmid key

/-- What is recorded is no alarm that the detector raised. -/
theorem Recorded.spaced {row : SecurityEvent} {keys : List DetectionKey}
    (hrec : Recorded row keys log log') (hspaced : log.SpacedAlarms node) :
    log'.SpacedAlarms node := by
  intro key
  refine (hspaced key).mono ?_
  intro a ha
  obtain ⟨ha, hof, hsource⟩ := ha
  rw [hrec.rows] at ha
  rcases List.mem_append.mp ha with ha | ha
  · exact ⟨ha, hof, hsource⟩
  · rw [List.mem_singleton.mp ha] at hsource
    exact absurd hrec.unsourced hsource

/-- A step keeps every event and every distance. -/
theorem SecurityStep.keeps (hstep : SecurityStep node log log') :
    log.events.rows ⊆ log'.events.rows ∧ (log.SpacedAlarms node → log'.SpacedAlarms node) := by
  cases hstep with
  | record env input =>
    rcases recordSecurityEvent_store node env log input with
      hsame | ⟨row, keys, hrec⟩
    · rw [hsame]
      exact ⟨fun e he => he, fun hspaced => hspaced⟩
    · exact ⟨hrec.subset, hrec.spaced⟩
  | detect env locked =>
    rcases processOne_store node env locked log with
      hsame | ⟨state, _, _, hrun⟩
    · rw [hsame]
      exact ⟨fun e he => he, fun hspaced => hspaced⟩
    · obtain ⟨mid, next, hscan, hevents, _⟩ := processState_ok hrun
      refine ⟨?_, fun hspaced => processState_spaced hspaced hrun⟩
      rw [hevents]
      exact (scanBatch_raises hscan).subset

theorem SecurityRun.keeps (hrun : SecurityRun node log log') :
    log.events.rows ⊆ log'.events.rows ∧ (log.SpacedAlarms node → log'.SpacedAlarms node) := by
  induction hrun with
  | refl => exact ⟨fun e he => he, fun hspaced => hspaced⟩
  | tail _ hstep ih =>
    exact ⟨fun e he => hstep.keeps.1 (ih.1 he), fun hspaced => hstep.keeps.2 (ih.2 hspaced)⟩

theorem apart_iff {a b : ℤ} : Apart windowMs a b ↔ windowMs ≤ |a - b| := by
  rw [le_abs, Apart]
  omega

/-- In every state of a run, two alarms of one key are at least ten minutes apart, no two have
the same source, and from then on each stays as it is. -/
theorem detector_alarmsUnique (hrun : SecurityRun node {} log) (key : DetectionKey) :
    (∀ a ∈ log.raisedAlarms node key, ∀ b ∈ log.raisedAlarms node key, a ≠ b →
      windowMs ≤ |a.occurredAt - b.occurredAt|) ∧
    (∀ a ∈ log.raisedAlarms node key, ∀ b ∈ log.raisedAlarms node key,
      a.sourceEventId = b.sourceEventId → a = b) ∧
    ∀ log', SecurityRun node log log' → ∀ a ∈ log.raisedAlarms node key,
      log'.events.findUnique a.id = some a := by
  have hempty : SecurityLog.SpacedAlarms node {} := fun key a ha =>
    absurd ha.1 List.not_mem_nil
  have hspaced : ∀ a ∈ log.raisedAlarms node key, ∀ b ∈ log.raisedAlarms node key, a ≠ b →
      windowMs ≤ |a.occurredAt - b.occurredAt| := by
    intro a ha b hb hne
    exact apart_iff.mp (hrun.keeps.2 hempty key ha hb hne)
  refine ⟨hspaced, ?_, ?_⟩
  · intro a ha b hb hsource
    by_contra hne
    -- Alarms of one source have its time, and so are not apart.
    have hsourced := (sound_empty.run hrun).sourced
    obtain ⟨id, hid⟩ := Option.ne_none_iff_exists'.mp ha.2.2
    obtain ⟨_, e, he, heid, hea⟩ := hsourced a ha.1 id hid
    obtain ⟨_, e', he', heid', heb⟩ := hsourced b hb.1 id (hsource ▸ hid)
    have hsame : e = e' := log.events.key_inj he he' (heid.trans heid'.symm)
    have hfar := hspaced a ha b hb hne
    rw [← hea, ← heb, hsame, sub_self, abs_zero] at hfar
    exact absurd hfar (by decide)
  · intro log' hrun' a ha
    exact Table.findUnique_of_mem (hrun'.keeps.1 ha.1)

theorem detector_alarmsUnique_fiveFailures :
    (∀ a ∈ FiveFailures.log.raisedAlarms FiveFailures.node FiveFailures.state.key,
      ∀ b ∈ FiveFailures.log.raisedAlarms FiveFailures.node FiveFailures.state.key, a ≠ b →
      windowMs ≤ |a.occurredAt - b.occurredAt|) ∧
    (∀ a ∈ FiveFailures.log.raisedAlarms FiveFailures.node FiveFailures.state.key,
      ∀ b ∈ FiveFailures.log.raisedAlarms FiveFailures.node FiveFailures.state.key,
      a.sourceEventId = b.sourceEventId → a = b) ∧
    ∀ log', SecurityRun FiveFailures.node FiveFailures.log log' →
      ∀ a ∈ FiveFailures.log.raisedAlarms FiveFailures.node FiveFailures.state.key,
      log'.events.findUnique a.id = some a :=
  detector_alarmsUnique fiveFailures_run FiveFailures.state.key

end Alarms

end OSK
