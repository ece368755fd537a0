import OskManager.Sample.FiveFailures
import OskManager.Security.Detector

/-! A security event is recorded once. Calls with the same source, attempt and phase find the row of
the first one that was recorded, and a call that fails leaves the log as it was. -/

namespace OSK

open Relational

/-! ### Calls that may be cut off -/

/-- Where the time limits or the database cut a transaction off: before its first statement, or after
that. -/
inductive Cut where
  | waiting (e : Failure)
  | running (e : Failure)

structure RecordCall where
  env : SecurityEnv
  input : SecurityEventInput
  cut : Option Cut := none

def RecordCall.write (node : NodeRuntime) (c : RecordCall) (id : Uuid) :
    Prog Failure SecurityLog Unit :=
  match c.cut with
  | none => writeSecurityEvent node c.env id c.input
  | some (.waiting e) => liftM (Except.error e : Except Failure Unit)
  | some (.running e) => .transaction do
    writeSecurityEvent node c.env id c.input
    liftM (Except.error e : Except Failure Unit)

/-! ### Keys -/

/-- What the unique index and the search for a row compare. -/
structure EventKey where
  source : String
  attemptId : String
  eventPhase : String
  deriving DecidableEq, Repr

def SecurityEvent.eventKey (e : SecurityEvent) : EventKey := ⟨e.source, e.attemptId, e.eventPhase⟩

/-- The key of an input after cleaning. Without an attempt the id of the row takes its place. -/
def inputKey (id : Uuid) (input : SecurityEventInput) : EventKey :=
  ⟨inputSource input, inputAttemptId id input, inputEventPhase input⟩

def SecurityLog.recorded (log : SecurityLog) (k : EventKey) : Option SecurityEvent :=
  log.events.findFirst fun e =>
    decide (e.source = k.source ∧ e.attemptId = k.attemptId ∧ e.eventPhase = k.eventPhase)

/-- `recordSecurityEvent` around a transaction. -/
def recordBy (env : SecurityEnv) (input : SecurityEventInput)
    (write : Uuid → Prog Failure SecurityLog Unit) : Prog Failure SecurityLog RecordedEvent := do
  let id ← Prog.query fun log => .ok (env.uuid log.events.keys)
  match ← Prog.attempt (write id) with
  | .ok () => return { id, created := true }
  | .error e =>
    let existing ← Prog.query fun log => .ok (log.recorded (inputKey id input))
    match existing with
    | some existing =>
      if e = uniqueViolation then return { id := existing.id, created := false }
      else liftM (Except.error e : Except Failure RecordedEvent)
    | none => liftM (Except.error e : Except Failure RecordedEvent)

def RecordCall.key (c : RecordCall) (log : SecurityLog) : EventKey :=
  inputKey (c.env.uuid log.events.keys) c.input

def RecordCall.run (node : NodeRuntime) (c : RecordCall) : Prog Failure SecurityLog RecordedEvent :=
  recordBy c.env c.input (c.write node)

theorem recorded_inputKey (log : SecurityLog) (id : Uuid) (input : SecurityEventInput) :
    log.recorded (inputKey id input) = log.events.findFirst fun e =>
      decide (e.source = inputSource input ∧ e.attemptId = inputAttemptId id input ∧
        e.eventPhase = inputEventPhase input) := by
  rw [SecurityLog.recorded, inputKey]

/-- A call that is not cut off is a call of the function. -/
theorem run_uncut (node : NodeRuntime) (env : SecurityEnv) (input : SecurityEventInput) :
    RecordCall.run node { env, input } = recordSecurityEvent node env input := by
  rw [RecordCall.run, recordBy, recordSecurityEvent]
  simp only [recorded_inputKey]
  rfl

section

variable {node : NodeRuntime} {log log' : SecurityLog} {k : EventKey}

theorem recorded_eq_none : log.recorded k = none ↔ ∀ e ∈ log.events.rows, e.eventKey ≠ k := by
  rw [SecurityLog.recorded, Table.findFirst_eq_none]
  refine forall₂_congr fun e _ => ?_
  rw [decide_eq_false_iff_not, ne_eq, SecurityEvent.eventKey, EventKey.mk.injEq]

/-- A row that is found is found in every longer log. -/
theorem recorded_append {e : SecurityEvent} {added : List SecurityEvent}
    (hrows : log'.events.rows = log.events.rows ++ added) (h : log.recorded k = some e) :
    log'.recorded k = some e := by
  rw [SecurityLog.recorded, Table.findFirst] at h ⊢
  rw [hrows, List.find?_append, h]
  rfl

/-- A row with a new key is found by it. -/
theorem recorded_new {row : SecurityEvent} (hrows : log'.events.rows = log.events.rows ++ [row])
    (hnew : log.recorded row.eventKey = none) : log'.recorded row.eventKey = some row := by
  rw [SecurityLog.recorded, Table.findFirst] at hnew ⊢
  rw [hrows, List.find?_append, hnew, Option.none_or]
  exact List.find?_cons_of_pos (decide_eq_true ⟨rfl, rfl, rfl⟩)

/-! ### One call -/

theorem createSecurityEvent_cases (row : SecurityEvent) (log : SecurityLog) :
    createSecurityEvent row log = (.error uniqueViolation, log) ∨
      log.recorded row.eventKey = none ∧ ∃ log', createSecurityEvent row log = (.ok (), log') := by
  unfold createSecurityEvent
  split_ifs with hid hsame
  · exact Or.inl rfl
  · exact Or.inl rfl
  · refine Or.inr ⟨recorded_eq_none.mpr fun e he hkey => hsame ?_, _, rfl⟩
    obtain ⟨hsource, hattempt, hphase⟩ := EventKey.mk.inj hkey
    refine List.any_eq_true.mpr ⟨e, he, Bool.or_eq_true_iff.mpr (Or.inl ?_)⟩
    exact decide_eq_true ⟨hsource.symm, hattempt.symm, hphase.symm⟩

theorem queueDetection_returns (occurredAt : Instant) (keys : List DetectionKey)
    (log : SecurityLog) : ∃ log', queueDetection occurredAt keys log = (.ok (), log') := by
  induction keys generalizing log with
  | nil => exact ⟨log, rfl⟩
  | cons key rest ih => exact ih _

theorem eventKey_securityEventRow (id : Uuid) (occurredAt : Instant) (hash : Option String)
    (keyVersion : String) (scopes : Table SecurityEventSchool.schoolId)
    (input : SecurityEventInput) :
    (securityEventRow node id occurredAt hash keyVersion scopes input).eventKey =
      inputKey id input := by
  simp only [SecurityEvent.eventKey, securityEventRow, inputKey]

theorem writeSecurityEvent_eq (node : NodeRuntime) (env : SecurityEnv) (id : Uuid)
    (input : SecurityEventInput) : ∃ row occurredAt keys, writeSecurityEvent node env id input =
        .transaction (createSecurityEvent row >>= fun _ => queueDetection occurredAt keys) ∧
      row.id = id ∧ row.eventKey = inputKey id input :=
  ⟨_, _, _, rfl, rfl, eventKey_securityEventRow ..⟩

/-- The transaction adds one event, whose key is new, or violates a unique index. -/
theorem writeSecurityEvent_cases (node : NodeRuntime) (env : SecurityEnv) (id : Uuid)
    (input : SecurityEventInput) (log : SecurityLog) :
    writeSecurityEvent node env id input log = (.error uniqueViolation, log) ∨
      ∃ row log', writeSecurityEvent node env id input log = (.ok (), log') ∧ row.id = id ∧
        row.eventKey = inputKey id input ∧ log.recorded row.eventKey = none ∧
        log'.events.rows = log.events.rows ++ [row] := by
  obtain ⟨row, occurredAt, keys, hwrite, hid, hkey⟩ := writeSecurityEvent_eq node env id input
  rw [hwrite]
  rcases createSecurityEvent_cases row log with hfailed | ⟨hnew, mid, hcreated⟩
  · exact Or.inl (Prog.transaction_of_error (Prog.bind_of_error hfailed))
  · obtain ⟨log', hqueued⟩ := queueDetection_returns occurredAt keys mid
    obtain ⟨-, hrows, -⟩ := createSecurityEvent_ok hcreated
    refine Or.inr ⟨row, log', ?_, hid, hkey, hnew, ?_⟩
    · exact Prog.transaction_eq_ok.mpr (Prog.bind_eq_ok.mpr ⟨(), mid, hcreated, hqueued⟩)
    · rw [(queueDetection_ok hqueued).events, hrows]

/-- What a transaction may do, cut off or not. -/
theorem RecordCall.write_cases (c : RecordCall) (node : NodeRuntime) (id : Uuid)
    (log : SecurityLog) :
    (∃ e, c.write node id log = (.error e, log) ∧ (c.cut = none → e = uniqueViolation)) ∨
      ∃ row log', c.write node id log = (.ok (), log') ∧ row.id = id ∧
        row.eventKey = inputKey id c.input ∧ log.recorded row.eventKey = none ∧
        log'.events.rows = log.events.rows ++ [row] := by
  rw [RecordCall.write]
  match c.cut with
  | none =>
    rcases writeSecurityEvent_cases node c.env id c.input log with hfailed | hwritten
    · exact Or.inl ⟨_, hfailed, fun _ => rfl⟩
    · exact Or.inr hwritten
  | some (.waiting e) => exact Or.inl ⟨e, rfl, nofun⟩
  | some (.running e) =>
    refine Or.inl ?_
    rcases writeSecurityEvent_cases node c.env id c.input log with hfailed | ⟨-, log', hwritten, -⟩
    · exact ⟨uniqueViolation, Prog.transaction_of_error (Prog.bind_of_error hfailed), nofun⟩
    · have hcut : (writeSecurityEvent node c.env id c.input >>= fun _ =>
          liftM (Except.error e : Except Failure Unit)) log = (.error e, log') := by
        rw [Prog.bind_run, hwritten]
        rfl
      exact ⟨e, Prog.transaction_of_error hcut, nofun⟩

/-- What a call may do: it adds an event with a new key, it finds the event with its key, or it
fails. Without an error of the database it fails only where no event has its key. -/
inductive RecordCall.Effect (c : RecordCall) (log : SecurityLog) :
    Except Failure RecordedEvent → SecurityLog → Prop where
  | created (row : SecurityEvent) (log' : SecurityLog) (hkey : row.eventKey = c.key log)
      (hnew : log.recorded (c.key log) = none)
      (hrows : log'.events.rows = log.events.rows ++ [row]) :
      Effect c log (.ok ⟨row.id, true⟩) log'
  | found (e : SecurityEvent) (hfound : log.recorded (c.key log) = some e) :
      Effect c log (.ok ⟨e.id, false⟩) log
  | failed (e : Failure) (hmissed : c.cut = none → log.recorded (c.key log) = none) :
      Effect c log (.error e) log

theorem RecordCall.run_effect (c : RecordCall) (node : NodeRuntime) (log : SecurityLog) :
    c.Effect log (c.run node log).1 (c.run node log).2 := by
  rw [RecordCall.run, recordBy, Prog.query_bind_run]
  simp only
  rw [Prog.bind_run, Prog.attempt]
  rcases c.write_cases node (c.env.uuid log.events.keys) log with
    ⟨e, hfailed, huncut⟩ | ⟨row, log', hwritten, hid, hkey, hnew, hrows⟩
  · rw [hfailed]
    simp only
    rw [Prog.query_bind_run]
    simp only
    cases hfound : log.recorded (inputKey (c.env.uuid log.events.keys) c.input) with
    | none => exact .failed e fun _ => hfound
    | some existing =>
      simp only
      split_ifs with he
      · exact .found existing hfound
      · exact .failed e fun hcut => absurd (huncut hcut) he
  · rw [hwritten, ← hid]
    rw [hkey] at hnew
    exact .created row log' hkey hnew hrows

variable {c : RecordCall} {outcome : Except Failure RecordedEvent}

/-- An event that is recorded stays what is found by its key. -/
theorem RecordCall.Effect.recorded {e : SecurityEvent} (h : c.Effect log outcome log')
    (he : log.recorded k = some e) : log'.recorded k = some e := by
  cases h with
  | created row log' hkey hnew hrows => exact recorded_append hrows he
  | found e' hfound => exact he
  | failed e' hmissed => exact he

/-- A call whose event is recorded changes nothing and returns the id of that event. -/
theorem RecordCall.Effect.repeated {e : SecurityEvent} (h : c.Effect log outcome log')
    (he : log.recorded (c.key log) = some e) : log' = log ∧
      (c.cut = none → outcome = .ok ⟨e.id, false⟩) ∧
        ∀ r, outcome = .ok r → r = ⟨e.id, false⟩ := by
  cases h with
  | created row log' hkey hnew hrows =>
    rw [hnew] at he
    cases he
  | found e' hfound =>
    obtain rfl := Option.some.inj (hfound.symm.trans he)
    exact ⟨rfl, fun _ => rfl, fun r hr => (Except.ok.inj hr).symm⟩
  | failed e' hmissed =>
    refine ⟨rfl, fun hcut => ?_, nofun⟩
    rw [hmissed hcut] at he
    cases he

/-- After a call that returns, the event with its id is found by its key. -/
theorem RecordCall.Effect.succeeded {r : RecordedEvent} (h : c.Effect log (.ok r) log') :
    ∃ e, log'.recorded (c.key log) = some e ∧ e.id = r.id := by
  cases h with
  | created row log' hkey hnew hrows =>
    rw [← hkey] at hnew ⊢
    exact ⟨row, recorded_new hrows hnew, rfl⟩
  | found e hfound => exact ⟨e, hfound, rfl⟩

/-- A call that fails changes nothing. -/
theorem RecordCall.Effect.failed_unchanged {e : Failure} (h : c.Effect log (.error e) log') :
    log' = log := by
  cases h
  rfl

end

/-! ### Calls one after another -/

structure RecordStep where
  before : SecurityLog
  call : RecordCall
  outcome : Except Failure RecordedEvent
  after : SecurityLog

def RecordStep.key (s : RecordStep) : EventKey := s.call.key s.before

def recordRun (node : NodeRuntime) : SecurityLog → List RecordCall → List RecordStep
  | _, [] => []
  | log, c :: rest =>
    { before := log, call := c, outcome := (c.run node log).1, after := (c.run node log).2 } ::
      recordRun node (c.run node log).2 rest

/-- The call changes nothing, and it returns the id of an earlier event unless it is cut off. -/
structure RecordStep.Repeats (s : RecordStep) (id : Uuid) : Prop where
  unchanged : s.after = s.before
  returns : s.call.cut = none → s.outcome = .ok { id, created := false }
  only : ∀ r, s.outcome = .ok r → r = { id, created := false }

section

variable {node : NodeRuntime} {log : SecurityLog} {calls : List RecordCall} {s : RecordStep}

theorem effect_of_mem (hs : s ∈ recordRun node log calls) :
    s.call.Effect s.before s.outcome s.after := by
  induction calls generalizing log with
  | nil => cases hs
  | cons c rest ih =>
    rcases List.mem_cons.mp hs with rfl | hrest
    · exact c.run_effect node log
    · exact ih hrest

theorem unchanged_of_failed (hs : s ∈ recordRun node log calls) {e : Failure}
    (he : s.outcome = .error e) : s.after = s.before := by
  have heffect := effect_of_mem hs
  rw [he] at heffect
  exact heffect.failed_unchanged

/-- An event that is recorded at the start is found by every call. -/
theorem recorded_of_mem {k : EventKey} {e : SecurityEvent} (he : log.recorded k = some e)
    (hs : s ∈ recordRun node log calls) : s.before.recorded k = some e := by
  induction calls generalizing log with
  | nil => cases hs
  | cons c rest ih =>
    rcases List.mem_cons.mp hs with rfl | hrest
    · exact he
    · exact ih ((c.run_effect node log).recorded he) hrest

/-- A call finds the event of every earlier one with its key that returned. -/
theorem pairwise_repeats (node : NodeRuntime) (log : SecurityLog) (calls : List RecordCall) :
    (recordRun node log calls).Pairwise fun s t => s.key = t.key → ∀ r, s.outcome = .ok r →
      t.Repeats r.id := by
  induction calls generalizing log with
  | nil => exact List.Pairwise.nil
  | cons c rest ih =>
    refine List.Pairwise.cons (fun t ht hkey r hr => ?_) (ih _)
    have hfirst := c.run_effect node log
    rw [show (c.run node log).1 = .ok r from hr] at hfirst
    obtain ⟨e, he, hid⟩ := hfirst.succeeded
    rw [show c.key log = t.key from hkey] at he
    obtain ⟨hunchanged, hreturns, honly⟩ := (effect_of_mem ht).repeated (recorded_of_mem he ht)
    rw [hid] at hreturns honly
    exact ⟨hunchanged, hreturns, honly⟩

end

/-- Of the calls with one source, attempt and phase at most one changes the log. Once one of them
has returned, the later ones repeat it. A call that fails changes nothing. -/
theorem recording_idempotent (node : NodeRuntime) (log : SecurityLog) (calls : List RecordCall) :
    ((recordRun node log calls).Pairwise fun s t => s.key = t.key → s.after ≠ s.before →
      t.after = t.before) ∧
    ((recordRun node log calls).Pairwise fun s t => s.key = t.key → ∀ r, s.outcome = .ok r →
      t.Repeats r.id) ∧
    ∀ s ∈ recordRun node log calls, ∀ e, s.outcome = .error e → s.after = s.before := by
  refine ⟨?_, pairwise_repeats node log calls, fun s hs e => unchanged_of_failed hs⟩
  refine (pairwise_repeats node log calls).imp_of_mem fun {s t} hs _ hrepeats hkey hchanged => ?_
  cases houtcome : s.outcome with
  | ok r => exact (hrepeats hkey r houtcome).unchanged
  | error e => exact absurd (unchanged_of_failed hs houtcome) hchanged

/-- A failed login, and the same one reported again a minute later with an address. -/
def reportedTwice : List RecordCall :=
  [⟨FiveFailures.env 0, FiveFailures.attempt " a ", none⟩,
    ⟨FiveFailures.env 1, { FiveFailures.attempt "a" with clientIp := "192.0.2.1" }, none⟩]

theorem recording_idempotent_twice : ∃ first again r,
    recordRun FiveFailures.node {} reportedTwice = [first, again] ∧ first.outcome = .ok r ∧
      again.outcome = .ok ⟨r.id, false⟩ ∧ again.after = again.before := by
  obtain ⟨-, hpair, -⟩ := recording_idempotent FiveFailures.node {} reportedTwice
  obtain ⟨first, again, hrun⟩ := List.length_eq_two.mp
    (show (recordRun FiveFailures.node {} reportedTwice).length = 2 from rfl)
  have hkeys : (recordRun FiveFailures.node {} reportedTwice).map RecordStep.key =
      [⟨"BE_HTTP", "a", "RESULT"⟩, ⟨"BE_HTTP", "a", "RESULT"⟩] := by decide +kernel
  have hflags : (recordRun FiveFailures.node {} reportedTwice).map
      (fun s => (s.outcome.isOk, s.call.cut.isNone)) = [(true, true), (true, true)] := by
    decide +kernel
  rw [hrun] at hkeys hflags hpair
  simp only [List.map_cons, List.map_nil, List.cons.injEq, and_true, Prod.mk.injEq] at hkeys hflags
  obtain ⟨r, hr⟩ : ∃ r, first.outcome = .ok r := by
    cases houtcome : first.outcome with
    | ok r => exact ⟨r, rfl⟩
    | error e => simp [houtcome, Except.isOk, Except.toBool] at hflags
  have hrepeats := List.pairwise_pair.mp hpair (hkeys.1.trans hkeys.2.symm) r hr
  exact ⟨first, again, r, hrun, hr, hrepeats.returns (Option.isNone_iff_eq_none.mp hflags.2.2),
    hrepeats.unchanged⟩

end OSK
