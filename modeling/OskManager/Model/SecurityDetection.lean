import Mathlib.Data.Prod.Lex
import OskManager.Model.SecurityEvents

/-! The detector of repeated login failures: `security-events/detection.ts`. One call takes one
queued key that nobody else has locked and looks at the next failures of the key. -/

namespace OSK

open Relational

def windowMs : ℤ := 10 * 60000

/-- Events are ordered by `occurredAt`, then by `id`. -/
abbrev Position := ℤ ×ₗ ℕ

def SecurityEvent.position (e : SecurityEvent) : Position := toLex (e.occurredAt, e.id)

/-- `subjectWhere`. -/
def SecurityEvent.hasSubject (key : DetectionKey) (e : SecurityEvent) : Bool :=
  match key.subject with
  | .ip clientIp => decide (e.clientIp = some clientIp) && e.ipSource.any IpSource.isTrusted
  | .user userId => decide (e.targetUserId = some userId)
  | .hash hash keyVersion =>
    decide (e.loginIdentifierHash = some hash ∧ e.hashKeyVersion = some keyVersion)

def SecurityEvent.isShownTo (schoolId : Uuid) (viewerUserId : Option Uuid) (e : SecurityEvent) :
    Bool :=
  e.schools.rows.any fun s => decide (s.schoolId = schoolId ∧ s.viewerUserId = viewerUserId)

/-- `schoolWhere` of failures. -/
def SecurityEvent.inScope (key : DetectionKey) (e : SecurityEvent) : Bool :=
  match key.scopeKey with
  | .global => true
  | .school schoolId viewerUserId => e.isShownTo schoolId viewerUserId

/-- `type: 'LOGIN_FAILED', ...subjectWhere(state), ...schoolWhere`. -/
def SecurityEvent.countsFor (key : DetectionKey) (e : SecurityEvent) : Bool :=
  decide (e.type = .loginFailed) && e.hasSubject key && e.inScope key

def SecurityLog.failures (log : SecurityLog) (key : DetectionKey) : List SecurityEvent :=
  log.events.findMany (SecurityEvent.countsFor key)

def DetectionRule.threshold : DetectionRule → ℕ
  | .ip => 20
  | .account => 5

def DetectionRule.reasonCode : DetectionRule → String
  | .ip => "IP_THRESHOLD"
  | .account => "ACCOUNT_THRESHOLD"

/-- The failures of the key in the window that ends at `source`. -/
def SecurityLog.attemptCount (log : SecurityLog) (key : DetectionKey) (source : SecurityEvent) :
    ℕ :=
  let windowStart := source.occurredAt - windowMs
  log.events.count fun e => e.countsFor key &&
    decide ((windowStart < e.occurredAt ∧ e.occurredAt < source.occurredAt) ∨
      (e.occurredAt = source.occurredAt ∧ e.id ≤ source.id))

def isNearby (occurredAt t : Instant) : Bool :=
  decide (occurredAt - windowMs < t ∧ t < occurredAt + windowMs)

/-- An alarm of the detector under the rule and in the scope of the key. -/
def SecurityEvent.isAlarmIn (key : DetectionKey) (e : SecurityEvent) : Bool :=
  decide (e.source = "DETECTOR" ∧ e.type = .repeatedLoginFailures ∧
    e.reasonCode = some key.subject.rule.reasonCode) &&
  match key.scopeKey with
  | .global => e.schools.rows.isEmpty
  | .school schoolId viewerUserId => e.isShownTo schoolId viewerUserId

section Node

variable (node : NodeRuntime)

def ruleId (key : DetectionKey) : String :=
  node.sha256 (.key key.subject.rule key.scopeKey key.subject.subjectKey key.subject.keyVersion)

def SecurityEvent.hasRule (key : DetectionKey) (e : SecurityEvent) : Bool :=
  decide (e.resourceType = some "SECURITY_DETECTION_RULE" ∧
    e.resourceId = some (ruleId node key))

/-- An alarm of a version that stored no rule with its alarms. -/
def SecurityEvent.isLegacyOf (legacySources : List SecurityEvent) (e : SecurityEvent) : Bool :=
  decide (e.resourceId = none) &&
    e.sourceEventId.any fun id => legacySources.any fun s => decide (s.id = id)

/-- The latest alarm of the key near `source`. -/
def SecurityLog.previousAlarm (log : SecurityLog) (key : DetectionKey) (source : SecurityEvent) :
    Option SecurityEvent :=
  let legacySources := (log.failures key).filter fun e => isNearby source.occurredAt e.occurredAt
  ((log.events.findMany fun e => e.isAlarmIn key && isNearby source.occurredAt e.occurredAt &&
    (e.hasRule node key || e.isLegacyOf legacySources)).insertionSort
      fun a b => b.occurredAt ≤ a.occurredAt).head?

/-- What the school of the key sees of `source`. -/
def SecurityLog.projection (log : SecurityLog) (key : DetectionKey) (source : SecurityEvent) :
    Option SecurityEventSchool :=
  match key.scopeKey with
  | .global => none
  | .school schoolId _ =>
    (log.events.findUnique source.id).bind fun e => e.schools.findUnique schoolId

/-- The alarm that `processOne` creates for `source`. -/
def alarmRow (log : SecurityLog) (alertId : Uuid) (key : DetectionKey) (source : SecurityEvent)
    (attemptCount : ℕ) : SecurityEvent :=
  let projection := log.projection key source
  let targetUserId :=
    if key.subject.rule = .account then projection.bind (·.targetUserId) else none
  let targetDisplayName :=
    if key.subject.rule = .account then projection.bind (·.targetDisplayName) else none
  { id := alertId
    occurredAt := source.occurredAt
    type := .repeatedLoginFailures
    category := .detection
    severity := .high
    outcome := .detected
    reasonCode := some key.subject.rule.reasonCode
    operationCode := some "auth.login"
    operationLabelSnapshot := some "Wielokrotne nieudane logowania"
    targetUserId
    targetDisplayNameSnapshot := targetDisplayName
    clientIp := match key.subject with
      | .ip clientIp => some clientIp
      | _ => none
    source := "DETECTOR"
    resourceType := some "SECURITY_DETECTION_RULE"
    resourceId := some (ruleId node key)
    attemptId := node.sha256 (.attempt key.subject.rule key.scopeKey key.subject.subjectKey source.id)
    eventPhase := "THRESHOLD"
    sourceEventId := some source.id
    metadata := { attemptCount := some attemptCount, windowMinutes := some 10 }
    schools := match key.scopeKey with
      | .global => .empty
      | .school schoolId viewerUserId => .singleton
        { schoolId, occurredAt := source.occurredAt, viewerUserId, actorVisibility := .unknown
          targetUserId, targetDisplayName } }

/-- One turn of the loop over the batch: the next `nextEligibleAt`. -/
def scanSource (env : Env) (key : DetectionKey) (nextEligibleAt : Option Instant)
    (source : SecurityEvent) : Prog Failure SecurityLog (Option Instant) := do
  if nextEligibleAt.any fun t => decide (source.occurredAt < t) then
    return nextEligibleAt
  else
    let log ← Prog.query fun log => .ok log
    let attemptCount := log.attemptCount key source
    if attemptCount < key.subject.rule.threshold then
      return nextEligibleAt
    else
      match log.previousAlarm node key source with
      | some previousAlarm => return some (previousAlarm.occurredAt + windowMs)
      | none =>
        createSecurityEvent
          (alarmRow node log (env.uuid log.events.keys) key source attemptCount)
        return some (source.occurredAt + windowMs)

def scanBatch (env : Env) (key : DetectionKey) :
    List SecurityEvent → Option Instant → Prog Failure SecurityLog (Option Instant)
  | [], nextEligibleAt => pure nextEligibleAt
  | source :: rest, nextEligibleAt => do
    scanBatch env key rest (← scanSource node env key nextEligibleAt source)

/-- The failures after the cursor, in order. -/
def SecurityLog.candidates (log : SecurityLog) (state : SecurityDetectionState) :
    List SecurityEvent :=
  (((log.failures state.key).filter fun e => state.lastProcessed.all fun p =>
    decide (p.1 < e.occurredAt ∨ (e.occurredAt = p.1 ∧ p.2 < e.id))).insertionSort
      fun a b => a.position ≤ b.position).take 21

/-- The queued state that was active longest ago, except those locked by other transactions. -/
def SecurityLog.pendingState (log : SecurityLog) (locked : DetectionKey → Bool) :
    Option SecurityDetectionState :=
  ((log.detectionStates.findMany fun s =>
    decide (s.doneGeneration < s.queuedGeneration) && !locked s.key).insertionSort
      fun a b => a.lastActiveAt ≤ b.lastActiveAt).head?

def processState (env : Env) (state : SecurityDetectionState) : Prog Failure SecurityLog Unit := do
  let candidates ← Prog.query fun log => .ok (log.candidates state)
  let hasMore := decide (20 < candidates.length)
  let batch := candidates.take 20
  let nextEligibleAt ← scanBatch node env state.key batch state.nextEligibleAt
  Prog.write fun log => { log with
    detectionStates := log.detectionStates.update state.key
      (fun s => { s with
        lastProcessed := (batch.getLast?.map fun e => (e.occurredAt, e.id)).or state.lastProcessed
        nextEligibleAt
        doneGeneration := if hasMore then s.doneGeneration else state.queuedGeneration })
      (fun _ => rfl) }

def processOne (env : Env) (locked : DetectionKey → Bool) : Prog Failure SecurityLog Bool :=
  .transaction do
    match ← Prog.query fun log => .ok (log.pendingState locked) with
    | none => return false
    | some state =>
      processState node env state
      return true

end Node

end OSK
