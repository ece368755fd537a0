import Mathlib.Data.List.Basic
import OskManager.Model.SecurityHealth

/-! No failure of the security log is hidden. Whatever order the handlers, the database and other
processes take their steps in, a failure that has been reported is remembered in the process or
stored in the table, and the status is not OK for five minutes. -/

namespace OSK

open Relational

variable {s s' : Health} {c : Component} {t : Instant} {r : HealthReport}

/-! ### What is stored -/

/-- The table has a failure of the component from `t` or later. -/
def FailureStored (rows : Table HealthRow.component) (c : Component) (t : Instant) : Prop :=
  ∃ row ∈ rows.rows, row.component = c ∧ ∃ f, row.lastFailureAt = some f ∧ t ≤ f

theorem le_greatest_left {a b : Option Instant} {f : Instant} (h : a = some f) (hle : t ≤ f) :
    ∃ g, greatest a b = some g ∧ t ≤ g := by
  subst h
  cases b with
  | none => exact ⟨f, rfl, hle⟩
  | some g => exact ⟨max f g, rfl, le_max_of_le_left hle⟩

theorem le_greatest_right {a b : Option Instant} {f : Instant} (h : b = some f) (hle : t ≤ f) :
    ∃ g, greatest a b = some g ∧ t ≤ g := by
  subst h
  cases a with
  | none => exact ⟨f, rfl, hle⟩
  | some g => exact ⟨max g f, rfl, le_max_of_le_right hle⟩

theorem FailureStored.store {rows : Table HealthRow.component} (h : FailureStored rows c t)
    (r : HealthReport) : FailureStored (storeHealthReport r rows) c t := by
  obtain ⟨row, hrow, hc, f, hf, hle⟩ := h
  unfold storeHealthReport
  split
  · obtain ⟨g, hg, hle'⟩ := le_greatest_left (b := r.row.lastFailureAt) hf hle
    refine ⟨_, (Table.mem_updateMany _ _ r.row.raised (fun _ => rfl) _).mpr ⟨row, hrow, rfl⟩, ?_⟩
    split
    · exact ⟨hc, g, hg, hle'⟩
    · exact ⟨hc, f, hf, hle⟩
  · exact ⟨row, (Table.mem_insert _ _ _ _).mpr (Or.inl hrow), hc, f, hf, hle⟩

/-- The failure that a report carries is in the table once its transaction is committed. -/
theorem failureStored_store {rows : Table HealthRow.component} {d : Moment}
    (h : r.failure = some d) : FailureStored (storeHealthReport r rows) r.component d.time := by
  have hrow : r.row.lastFailureAt = some d.time := by rw [HealthReport.row, h, Option.map_some]
  unfold storeHealthReport
  split
  · next hkey =>
    obtain ⟨row, hmem, hc⟩ := (Table.mem_keys _ _).mp hkey
    obtain ⟨g, hg, hle⟩ := le_greatest_right (a := row.lastFailureAt) hrow le_rfl
    refine ⟨r.row.raised row, ?_, hc, g, hg, hle⟩
    refine (Table.mem_updateMany _ _ r.row.raised (fun _ => rfl) _).mpr ⟨row, hmem, ?_⟩
    exact if_pos (decide_eq_true hc)
  · exact ⟨r.row, (Table.mem_insert _ _ _ _).mpr (Or.inr rfl), rfl, d.time, hrow, le_rfl⟩

/-! ### What is remembered -/

namespace Health

/-- What committed reports have carried is in the table. -/
def Sound (s : Health) : Prop :=
  ∀ r ∈ s.stored, ∀ d, r.failure = some d → FailureStored s.rows r.component d.time

/-- A failure from `t` or later waits in the process. -/
def Pending (s : Health) (c : Component) (t : Instant) : Prop :=
  ∃ d, s.process.pendingFailures c = some d ∧ t ≤ d.time

/-- A failure from `t` or later is pending or stored. -/
def Remembers (s : Health) (c : Component) (t : Instant) : Prop :=
  s.Pending c t ∨ FailureStored s.rows c t

end Health

theorem noted_pending {success : Bool} {now : Moment} {p : HealthProcess} {c' : Component} :
    (p.noted c success now).pendingFailures c' =
      if success = false ∧ c' = c then some now else p.pendingFailures c' := by
  unfold HealthProcess.noted
  cases success with
  | true => rfl
  | false => simp only [Bool.false_eq_true, if_false, Function.update_apply, true_and]

/-- A failure that begins to be reported is remembered at once. -/
theorem pending_report (s : Health) (c : Component) (t : Instant) :
    (Health.act (.report c false t) s).Pending c t := by
  refine ⟨⟨s.calls, t⟩, ?_, le_rfl⟩
  exact noted_pending.trans (if_pos ⟨rfl, rfl⟩)

/-! ### Steps -/

section Steps

variable {k : HealthStep}

theorem Health.Sound.act (h : s.Sound) (hallowed : Health.Allowed k s) :
    (Health.act k s).Sound := by
  cases k with
  | commit r =>
    intro r' hr' d hd
    rcases List.mem_cons.mp hr' with rfl | hold
    · exact failureStored_store hd
    · exact (h r' hold d hd).store r
  | foreign r => exact fun r' hr' d hd => (h r' hr' d hd).store r
  | report | answer | fail | restart => exact h

theorem failureStored_act (h : FailureStored s.rows c t) :
    FailureStored (Health.act k s).rows c t := by
  cases k with
  | commit r | foreign r => exact h.store r
  | report | answer | fail | restart => exact h

/-- Only an answer and a restart take a pending failure away. -/
theorem Health.Pending.act (h : s.Pending c t) (hclock : t ≤ s.clock)
    (hallowed : Health.Allowed k s) (hanswer : ∀ r, k ≠ .answer r) (hrestart : k ≠ .restart) :
    (Health.act k s).Pending c t := by
  obtain ⟨d, hd, hle⟩ := h
  cases k with
  | report c' success time =>
    by_cases hnew : success = false ∧ c = c'
    · refine ⟨⟨s.calls, time⟩, ?_, hclock.trans hallowed⟩
      exact noted_pending.trans (if_pos hnew)
    · exact ⟨d, (noted_pending.trans (if_neg hnew)).trans hd, hle⟩
  | fail r =>
    refine ⟨d, ?_, hle⟩
    change (r.failed s.process).pendingFailures c = some d
    unfold HealthReport.failed
    dsimp only
    split
    · next hnone =>
      rw [Function.update_of_ne, hd]
      rintro rfl
      rw [hd] at hnone
      cases hnone
    · exact hd
  | answer r => exact absurd rfl (hanswer r)
  | restart => exact absurd rfl hrestart
  | commit | foreign => exact ⟨d, hd, hle⟩

/-- An answer takes away what its report has carried, and that is in the table by then. -/
theorem Health.Remembers.act (h : s.Remembers c t) (hsound : s.Sound) (hclock : t ≤ s.clock)
    (hallowed : Health.Allowed k s) (hrestart : k ≠ .restart) : (Health.act k s).Remembers c t := by
  rcases h with hpending | hstored
  · by_cases hanswer : ∀ r, k ≠ .answer r
    · exact Or.inl (hpending.act hclock hallowed hanswer hrestart)
    · obtain ⟨r, hr⟩ := not_forall_not.mp hanswer
      subst hr
      obtain ⟨d, hd, hle⟩ := hpending
      by_cases hmine : r.component = c ∧ r.failure = some d
      · obtain ⟨rfl, hfailure⟩ := hmine
        obtain ⟨row, hrow, hc, f, hf, hle'⟩ := hsound r hallowed.2 d hfailure
        exact Or.inr ⟨row, hrow, hc, f, hf, hle.trans hle'⟩
      · refine Or.inl ⟨d, ?_, hle⟩
        change (r.answered s.process).pendingFailures c = some d
        unfold HealthReport.answered
        dsimp only
        split
        · next hsame =>
          rw [Function.update_of_ne, hd]
          rintro rfl
          exact hmine ⟨rfl, hsame.symm.trans hd⟩
        · exact hd
  · exact Or.inr (failureStored_act hstored)

theorem clock_act (hallowed : Health.Allowed k s) : s.clock ≤ (Health.act k s).clock := by
  cases k with
  | report => exact hallowed
  | commit | answer | fail | foreign | restart => exact le_rfl

end Steps

/-! ### Runs -/

/-- Steps that may be taken in any order; those of `except` are not among them. -/
def healthStepsBut (except : HealthStep → Prop) : Calls HealthStep Health :=
  ⟨fun k s => Health.Allowed k s ∧ ¬except k, Health.act⟩

/-- The handlers of the process live on. -/
abbrev WithoutRestart : Health → Health → Prop := (healthStepsBut (· = .restart)).Run

/-- Besides, none of them is answered. -/
abbrev WithoutAnswers : Health → Health → Prop :=
  (healthStepsBut fun k => k = .restart ∨ ∃ r, k = .answer r).Run

theorem Health.Sound.run (h : s.Sound) (hrun : healthSteps.Run s s') : s'.Sound :=
  Calls.Run.invariant (I := Health.Sound) (fun _ _ hallowed hs => hs.act hallowed) h hrun

theorem withoutRestart_run (hrun : WithoutRestart s s') : healthSteps.Run s s' :=
  Calls.Run.mono (L := healthStepsBut (· = .restart)) (fun _ _ => rfl)
    (fun _ _ hallowed => hallowed.1) hrun

theorem Health.Remembers.run (h : s.Remembers c t) (hsound : s.Sound) (hclock : t ≤ s.clock)
    (hrun : WithoutRestart s s') : s'.Remembers c t ∧ t ≤ s'.clock := by
  have hall : s'.Remembers c t ∧ s'.Sound ∧ t ≤ s'.clock := by
    refine Calls.Run.invariant (I := fun s => s.Remembers c t ∧ s.Sound ∧ t ≤ s.clock) ?_
      ⟨h, hsound, hclock⟩ hrun
    intro k s hallowed hs
    obtain ⟨hremembers, hsound, hclock⟩ := hs
    exact ⟨hremembers.act hsound hclock hallowed.1 hallowed.2, hsound.act hallowed.1,
      hclock.trans (clock_act hallowed.1)⟩
  exact ⟨hall.1, hall.2.2⟩

theorem Health.Pending.run (h : s.Pending c t) (hclock : t ≤ s.clock)
    (hrun : WithoutAnswers s s') : s'.Pending c t := by
  have hall : s'.Pending c t ∧ t ≤ s'.clock := by
    refine Calls.Run.invariant (I := fun s => s.Pending c t ∧ t ≤ s.clock) ?_ ⟨h, hclock⟩ hrun
    intro k s hallowed hs
    obtain ⟨hpending, hclock⟩ := hs
    obtain ⟨hallowed, hnot⟩ := hallowed
    rw [not_or, not_exists] at hnot
    exact ⟨hpending.act hclock hallowed hnot.2 hnot.1, hclock.trans (clock_act hallowed)⟩
  exact hall.1

/-! ### The status -/

variable {config : HealthConfig} {rows : Option (List HealthRow)} {p : HealthProcess}
  {now : Instant} {queue : Option (List SecurityDetectionState × Instant)}

/-- What the status OK stands for. -/
structure CollectionOk (config : HealthConfig) (rows : Option (List HealthRow)) (p : HealthProcess)
    (now : Instant) (queue : Option (List SecurityDetectionState × Instant)) : Prop where
  configured : config.detectionEnabled = true ∧ ∀ n ∈ config.secretLengths, 32 ≤ n
  nothing_pending : ∀ c, p.pendingFailures c = none
  read : ∃ l, rows = some l ∧
    (∀ row ∈ l, ∀ f, row.lastFailureAt = some f → 300000 ≤ now - f) ∧
    ∃ f, (l.find? fun r => decide (r.component = .detector)).bind (·.lastSuccessAt) = some f ∧
      now - f ≤ 30000
  queue : ∃ states dbNow, queue = some (states, dbNow) ∧ ∀ k ∈ states,
    k.doneGeneration < k.queuedGeneration → dbNow - 30000 ≤ k.lastActiveAt

theorem recentFailure_eq_false {l : List HealthRow} :
    l.any (fun r => r.lastFailureAt.any fun t => decide (now - t < 300000)) = false ↔
      ∀ row ∈ l, ∀ f, row.lastFailureAt = some f → 300000 ≤ now - f := by
  simp only [List.any_eq_false, Option.any_eq_true, decide_eq_true_eq, not_exists, not_and, not_lt]

theorem queueDelayed_eq_false {states : List SecurityDetectionState} {dbNow : Instant} :
    queueDelayed states dbNow = false ↔ ∀ k ∈ states, k.doneGeneration < k.queuedGeneration →
      dbNow - 30000 ≤ k.lastActiveAt := by
  simp only [queueDelayed, List.any_eq_false, decide_eq_true_eq, not_and, not_lt]

theorem pendingSize_eq_false :
    [Component.writer, .detector].any (fun c => (p.pendingFailures c).isSome) = false ↔
      ∀ c, p.pendingFailures c = none := by
  simp only [List.any_cons, List.any_nil, Bool.or_false, Bool.or_eq_false_iff,
    Option.isSome_eq_false_iff, Option.isNone_iff_eq_none]
  constructor
  · intro h c
    cases c with
    | writer => exact h.1
    | detector => exact h.2
  · intro h
    exact ⟨h .writer, h .detector⟩

theorem collectionOk_iff :
    getSecurityCollectionStatus config rows p now queue = .ok ↔
      CollectionOk config rows p now queue := by
  unfold getSecurityCollectionStatus
  constructor
  · intro h
    split at h
    · cases h
    next henabled =>
    split at h
    · cases h
    next hsecrets =>
    split at h
    · cases h
    next l =>
    split at h
    · cases h
    next hfailures =>
    split at h
    · cases h
    next f hdetector =>
    split at h
    · cases h
    next hfresh =>
    split at h
    · cases h
    next states dbNow =>
    split at h
    · cases h
    next hdelayed =>
    rw [Bool.not_eq_true, Bool.or_eq_false_iff, pendingSize_eq_false,
      recentFailure_eq_false] at hfailures
    rw [Bool.not_eq_true, queueDelayed_eq_false] at hdelayed
    simp only [Bool.not_eq_true, List.any_eq_false, decide_eq_true_eq, not_lt] at hsecrets
    exact {
      configured := ⟨by simpa using henabled, hsecrets⟩
      nothing_pending := hfailures.1
      read := ⟨l, rfl, hfailures.2, f, hdetector, not_lt.mp hfresh⟩
      queue := ⟨states, dbNow, rfl, hdelayed⟩ }
  · intro h
    obtain ⟨l, rfl, hold, f, hdetector, hfresh⟩ := h.read
    obtain ⟨states, dbNow, rfl, hqueue⟩ := h.queue
    have hsecrets : config.secretLengths.any (fun n => decide (n < 32)) = false := by
      simpa using h.configured.2
    have hfailures : ([Component.writer, .detector].any (fun c => (p.pendingFailures c).isSome) ||
        l.any fun r => r.lastFailureAt.any fun t => decide (now - t < 300000)) = false :=
      Bool.or_eq_false_iff.mpr
        ⟨pendingSize_eq_false.mpr h.nothing_pending, recentFailure_eq_false.mpr hold⟩
    simp only [h.configured.1, hsecrets, hfailures, hdetector, not_lt.mpr hfresh,
      queueDelayed_eq_false.mpr hqueue, Bool.not_true, Bool.false_eq_true, if_false]

theorem FailureStored.not_ok {rows : Table HealthRow.component} (h : FailureStored rows c t)
    (hrecent : now - t < 300000) :
    getSecurityCollectionStatus config (some rows.rows) p now queue ≠ .ok := by
  intro hok
  obtain ⟨row, hrow, _, f, hf, hle⟩ := h
  obtain ⟨l, hl, hold, _⟩ := (collectionOk_iff.mp hok).read
  cases hl
  have := hold row hrow f hf
  dsimp only [Instant] at *
  omega

/-- What is remembered when the rows are read and not answered before the maps are looked at. -/
theorem Health.Remembers.not_ok {s₁ s₂ : Health} (h : s₁.Remembers c t) (hclock : t ≤ s₁.clock)
    (hrun : WithoutAnswers s₁ s₂) (hrecent : now - t < 300000) :
    getSecurityCollectionStatus config (some s₁.rows.rows) s₂.process now queue ≠ .ok := by
  rcases h with hpending | hstored
  · intro hok
    obtain ⟨d, hd, _⟩ := hpending.run hclock hrun
    rw [(collectionOk_iff.mp hok).nothing_pending c] at hd
    cases hd
  · exact hstored.not_ok hrecent

/-! ### The server -/

/-- A server that starts: it finds whatever rows are in the table and remembers nothing. -/
structure Health.Boot (s : Health) : Prop where
  process : s.process = {}
  waiting : s.waiting = []
  stored : s.stored = []

theorem Health.Boot.sound (h : s.Boot) : s.Sound := by
  intro r hr
  rw [h.stored] at hr
  cases hr

theorem FailureStored.run (h : FailureStored s.rows c t) (hrun : healthSteps.Run s s') :
    FailureStored s'.rows c t :=
  Calls.Run.invariant (I := fun s : Health => FailureStored s.rows c t)
    (fun _ _ _ hs => failureStored_act hs) h hrun

/-- The report of the step to `s'` has a transaction of its own, which carries a failure of its
component from `t` or later. -/
structure Health.CarriedBy (s s' : Health) (c : Component) (t : Instant) (r : HealthReport) :
    Prop where
  writes : s'.writes = r :: s.writes
  call : r.now.call = s.calls
  component : r.component = c
  failure : ∃ d, r.failure = some d ∧ t ≤ d.time

/-- The next report of a component is not skipped while a failure of it is pending. -/
theorem Health.Pending.carried (h : s.Pending c t) (success : Bool) {time : Instant}
    (hclock : t ≤ time) : ∃ r, s.CarriedBy (Health.act (.report c success time) s) c t r := by
  obtain ⟨d, hd, hle⟩ := h
  have hnoted : ∃ d, (s.process.noted c success ⟨s.calls, time⟩).pendingFailures c = some d ∧
      t ≤ d.time := by
    rw [noted_pending]
    split
    · exact ⟨_, rfl, hclock⟩
    · exact ⟨d, hd, hle⟩
  obtain ⟨d', hd', hle'⟩ := hnoted
  have hskips : (s.process.noted c success ⟨s.calls, time⟩).skips c success ⟨s.calls, time⟩
      = false := by
    rw [HealthProcess.skips, hd', Option.isNone_some, Bool.and_false, Bool.false_and]
  have hbegun : (beginHealthReport c success ⟨s.calls, time⟩ s.process).2 =
      some ⟨c, success, ⟨s.calls, time⟩, some d'⟩ := by
    rw [beginHealthReport, hskips, hd']
    rfl
  refine ⟨⟨c, success, ⟨s.calls, time⟩, some d'⟩, ?_, rfl, rfl, d', rfl, hle'⟩
  rw [Health.act, hbegun]
  rfl

/-- A failure that is reported keeps the status of the process from OK for five minutes, whatever
the handlers and the database do, as long as no answer comes between the read of the rows and the
look at the maps. Until it is stored it is pending, and the next report of the component has a
transaction that carries it. Once it is stored or that transaction is committed, no process sees OK
in those minutes, however many restarts there have been. -/
theorem failure_never_hidden {s₀ : Health} (hboot : s₀.Boot) (hrun : healthSteps.Run s₀ s)
    (hclock : s.clock ≤ t) (hlive : WithoutRestart (Health.act (.report c false t) s) s') :
    (∀ s₁ config queue now, WithoutAnswers s' s₁ → now - t < 300000 →
      getSecurityCollectionStatus config (some s'.rows.rows) s₁.process now queue ≠ .ok) ∧
    (s'.Pending c t ∨ FailureStored s'.rows c t) ∧
    (s'.Pending c t → ∀ success time, s'.clock ≤ time → ∃ r,
      s'.CarriedBy (Health.act (.report c success time) s') c t r ∧
      ∀ s₁ config p queue now, healthSteps.Run (Health.act (.report c success time) s') s₁ →
        r ∈ s₁.stored → now - t < 300000 →
        getSecurityCollectionStatus config (some s₁.rows.rows) p now queue ≠ .ok) ∧
    (FailureStored s'.rows c t → ∀ s₁ config p queue now, healthSteps.Run s' s₁ →
      now - t < 300000 →
      getSecurityCollectionStatus config (some s₁.rows.rows) p now queue ≠ .ok) := by
  have hsound : (Health.act (.report c false t) s).Sound :=
    (hboot.sound.run hrun).act (k := .report c false t) hclock
  obtain ⟨hremembers, hclock'⟩ :=
    Health.Remembers.run (Or.inl (pending_report s c t)) hsound le_rfl hlive
  have hsound' : s'.Sound := hsound.run (withoutRestart_run hlive)
  refine ⟨fun s₁ config queue now hquiet => hremembers.not_ok hclock' hquiet, hremembers, ?_, ?_⟩
  · intro hpending success time htime
    obtain ⟨r, hcarried⟩ := hpending.carried success (hclock'.trans htime)
    refine ⟨r, hcarried, fun s₁ config p queue now hlater hmem => ?_⟩
    have hsound₁ : s₁.Sound := (hsound'.act (k := .report c success time) htime).run hlater
    obtain ⟨d, hd, hle⟩ := hcarried.failure
    obtain ⟨row, hrow, hc, f, hf, hle'⟩ := hsound₁ r hmem d hd
    exact FailureStored.not_ok ⟨row, hrow, hc, f, hf, hle.trans hle'⟩
  · intro hstored s₁ config p queue now hlater
    exact (hstored.run hlater).not_ok

/-! The writer fails at 100000 and its report is not stored, while the detector is well. -/

def detectorWell : Health where
  rows := Table.empty.insert ⟨.detector, some 129000, none⟩ (by decide)

def writerFailure : HealthReport := ⟨.writer, false, ⟨0, 100000⟩, some ⟨0, 100000⟩⟩

def writerFailed : Health := Health.act (.report .writer false 100000) detectorWell

def writerUnstored : Health := Health.act (.fail writerFailure) writerFailed

/-- The status is not OK, and the failure goes with the success that is reported next. -/
theorem failure_never_hidden_unstored :
    getSecurityCollectionStatus ⟨true, [32, 32, 32]⟩ (some [⟨.detector, some 129000, none⟩])
      writerUnstored.process 130000 (some ([], 130000)) ≠ .ok ∧
    ∃ r, writerUnstored.CarriedBy (Health.act (.report .writer true 130000) writerUnstored)
      .writer 100000 r := by
  have hlive : WithoutRestart (Health.act (.report .writer false 100000) detectorWell)
      writerUnstored := .single ⟨.fail writerFailure, ⟨List.mem_cons_self, by rintro ⟨⟩⟩, rfl⟩
  obtain ⟨hstatus, -, hnext, -⟩ :=
    failure_never_hidden (⟨rfl, rfl, rfl⟩ : detectorWell.Boot) .refl (by decide) hlive
  refine ⟨hstatus _ ⟨true, [32, 32, 32]⟩ (some ([], 130000)) 130000 .refl (by decide), ?_⟩
  obtain ⟨r, hcarried, -⟩ := hnext ⟨⟨0, 100000⟩, rfl, le_rfl⟩ true 130000 (by decide)
  exact ⟨r, hcarried⟩

/-- The rows are read before the report is committed and the maps are looked at after its answer. -/
example : getSecurityCollectionStatus ⟨true, [32, 32, 32]⟩ (some writerFailed.rows.rows)
    (healthSteps.after [.commit writerFailure, .answer writerFailure] writerFailed).process
    130000 (some ([], 130000)) = .ok := by
  decide

end OSK
