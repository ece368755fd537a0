import Mathlib.Data.List.Infix
import OskManager.Model.PolishTime

/-! The security log: `security-events/types.ts` and `security-events/record.ts` with the tables
they write. An event carries its school projections. A failed login also queues the detection of
every key it counts for. -/

namespace OSK

open Relational

/-! ### Events -/

inductive SecurityEventType where
  | loginSucceeded | loginFailed | loginDenied | loginProviderError | loginRateLimited
  | repeatedLoginFailures | logoutSucceeded | logoutProviderRevocationFailed | sessionRevoked
  | revokedSessionUsed | authenticationRequired | sessionRejected | sessionRefreshFailed
  | accessDenied | passwordResetRequested | passwordResetFailed | passwordChanged
  | passwordChangeStarted | passwordChangeCompleted | passwordChangeRepairRequired
  | accountCreated | accountBlocked | accountUnblocked | accountArchived
  | accountEmailChangeRequested | accountEmailChanged | accountChangeFailed
  | accountChangeRepairRequired
  deriving DecidableEq, Repr

def SecurityEventType.text : SecurityEventType → String
  | loginSucceeded => "LOGIN_SUCCEEDED"
  | loginFailed => "LOGIN_FAILED"
  | loginDenied => "LOGIN_DENIED"
  | loginProviderError => "LOGIN_PROVIDER_ERROR"
  | loginRateLimited => "LOGIN_RATE_LIMITED"
  | repeatedLoginFailures => "REPEATED_LOGIN_FAILURES"
  | logoutSucceeded => "LOGOUT_SUCCEEDED"
  | logoutProviderRevocationFailed => "LOGOUT_PROVIDER_REVOCATION_FAILED"
  | sessionRevoked => "SESSION_REVOKED"
  | revokedSessionUsed => "REVOKED_SESSION_USED"
  | authenticationRequired => "AUTHENTICATION_REQUIRED"
  | sessionRejected => "SESSION_REJECTED"
  | sessionRefreshFailed => "SESSION_REFRESH_FAILED"
  | accessDenied => "ACCESS_DENIED"
  | passwordResetRequested => "PASSWORD_RESET_REQUESTED"
  | passwordResetFailed => "PASSWORD_RESET_FAILED"
  | passwordChanged => "PASSWORD_CHANGED"
  | passwordChangeStarted => "PASSWORD_CHANGE_STARTED"
  | passwordChangeCompleted => "PASSWORD_CHANGE_COMPLETED"
  | passwordChangeRepairRequired => "PASSWORD_CHANGE_REPAIR_REQUIRED"
  | accountCreated => "ACCOUNT_CREATED"
  | accountBlocked => "ACCOUNT_BLOCKED"
  | accountUnblocked => "ACCOUNT_UNBLOCKED"
  | accountArchived => "ACCOUNT_ARCHIVED"
  | accountEmailChangeRequested => "ACCOUNT_EMAIL_CHANGE_REQUESTED"
  | accountEmailChanged => "ACCOUNT_EMAIL_CHANGED"
  | accountChangeFailed => "ACCOUNT_CHANGE_FAILED"
  | accountChangeRepairRequired => "ACCOUNT_CHANGE_REPAIR_REQUIRED"

inductive SecurityEventCategory where
  | auth | session | access | account | detection
  deriving DecidableEq, Repr

def SecurityEventCategory.text : SecurityEventCategory → String
  | auth => "AUTH"
  | session => "SESSION"
  | access => "ACCESS"
  | account => "ACCOUNT"
  | detection => "DETECTION"

inductive SecurityEventSeverity where
  | info | warning | high
  deriving DecidableEq, Repr

def SecurityEventSeverity.text : SecurityEventSeverity → String
  | info => "INFO"
  | warning => "WARNING"
  | high => "HIGH"

inductive SecurityEventOutcome where
  | success | failure | denied | detected
  deriving DecidableEq, Repr

def SecurityEventOutcome.text : SecurityEventOutcome → String
  | success => "SUCCESS"
  | failure => "FAILURE"
  | denied => "DENIED"
  | detected => "DETECTED"

inductive ActorVisibility where
  | known | unknown | external
  deriving DecidableEq, Repr

def ActorVisibility.text : ActorVisibility → String
  | known => "KNOWN"
  | unknown => "UNKNOWN"
  | external => "EXTERNAL"

inductive IpSource where
  | socket | trustedProxy | unknown
  deriving DecidableEq, Repr

def IpSource.isTrusted : IpSource → Bool
  | socket | trustedProxy => true
  | unknown => false

structure EventDefaults where
  category : SecurityEventCategory
  severity : SecurityEventSeverity
  outcome : SecurityEventOutcome

/-- `text.includes(part)`. -/
def includes (text part : String) : Bool := part.toList <:+: text.toList

/-- `text.startsWith(part)`. -/
def startsWith (text part : String) : Bool := part.toList <+: text.toList

def eventDefaults (type : SecurityEventType) : EventDefaults :=
  if type = .repeatedLoginFailures then
    { category := .detection, severity := .high, outcome := .detected }
  else if type = .accessDenied then
    { category := .access, severity := .warning, outcome := .denied }
  else if startsWith type.text "LOGIN_" || startsWith type.text "PASSWORD_" then
    let failure := includes type.text "FAILED" || decide (type = .loginProviderError) ||
      decide (type = .loginRateLimited) || includes type.text "REPAIR_REQUIRED"
    { category := .auth
      severity := if failure || includes type.text "DENIED" then .warning else .info
      outcome := if failure then .failure else if includes type.text "DENIED" then .denied
        else .success }
  else if startsWith type.text "SESSION_" || startsWith type.text "LOGOUT_" ||
      decide (type = .revokedSessionUsed) || decide (type = .authenticationRequired) then
    let denied := decide (type = .revokedSessionUsed) || decide (type = .authenticationRequired)
    let failure := includes type.text "FAILED" || includes type.text "REJECTED"
    { category := .session
      severity := if failure || denied then .warning else .info
      outcome := if denied then .denied else if failure then .failure else .success }
  else
    let failure := includes type.text "FAILED" || includes type.text "REPAIR_REQUIRED"
    { category := .account
      severity := if failure then .warning else .info
      outcome := if failure then .failure else .success }

structure EventMetadata where
  attemptCount : Option ℤ := none
  windowMinutes : Option ℤ := none

/-- What a school sees of an event. -/
structure SecurityEventSchool where
  schoolId : Uuid
  occurredAt : Instant
  viewerUserId : Option Uuid
  actorVisibility : ActorVisibility
  actorUserId : Option Uuid := none
  actorDisplayName : Option String := none
  actorRole : Option String := none
  targetUserId : Option Uuid
  targetDisplayName : Option String

structure SecurityEvent where
  id : Uuid
  occurredAt : Instant
  type : SecurityEventType
  category : SecurityEventCategory
  severity : SecurityEventSeverity
  outcome : SecurityEventOutcome
  reasonCode : Option String := none
  operationCode : Option String := none
  operationLabelSnapshot : Option String := none
  httpMethod : Option String := none
  routeTemplate : Option String := none
  httpStatus : Option ℤ := none
  actorUserId : Option Uuid := none
  actorRoleSnapshot : Option String := none
  actorDisplayNameSnapshot : Option String := none
  targetUserId : Option Uuid := none
  targetDisplayNameSnapshot : Option String := none
  resourceType : Option String := none
  resourceId : Option String := none
  loginIdentifierHash : Option String := none
  hashKeyVersion : Option String := none
  loginIdentifierMasked : Option String := none
  clientIp : Option String := none
  ipSource : Option IpSource := none
  userAgent : Option String := none
  requestId : Option String := none
  attemptId : String
  eventPhase : String
  source : String
  sourceEventId : Option Uuid := none
  accountActionId : Option Uuid := none
  metadata : EventMetadata := {}
  /-- At most one projection for a school. -/
  schools : Table SecurityEventSchool.schoolId := .empty

/-! ### Detection keys -/

inductive DetectionRule where
  | account | ip
  deriving DecidableEq, Repr

/-- `GLOBAL` or `school:${schoolId}:${viewerUserId ?? 'all'}`. -/
inductive ScopeKey where
  | global
  | school (schoolId : Uuid) (viewerUserId : Option Uuid)
  deriving DecidableEq, Repr

/-- An address, `user:${id}` or `hash:${hash}`. -/
inductive SubjectKey where
  | ip (clientIp : String)
  | user (userId : Uuid)
  | hash (loginIdentifierHash : String)
  deriving DecidableEq, Repr

/-- A subject with the key version that belongs to it: `ip`, `user`, or the version of the key
that made the hash. -/
inductive DetectionSubject where
  | ip (clientIp : String)
  | user (userId : Uuid)
  | hash (loginIdentifierHash keyVersion : String)
  deriving DecidableEq, Repr

def DetectionSubject.subjectKey : DetectionSubject → SubjectKey
  | ip clientIp => .ip clientIp
  | user userId => .user userId
  | hash loginIdentifierHash _ => .hash loginIdentifierHash

def DetectionSubject.keyVersion : DetectionSubject → String
  | ip _ => "ip"
  | user _ => "user"
  | hash _ keyVersion => keyVersion

/-- Addresses are watched by the rule `IP`, everything else by `ACCOUNT`. -/
def DetectionSubject.rule : DetectionSubject → DetectionRule
  | ip _ => .ip
  | user _ | hash _ _ => .account

structure DetectionKey where
  scopeKey : ScopeKey
  subject : DetectionSubject
  deriving DecidableEq

structure SecurityDetectionState where
  key : DetectionKey
  queuedGeneration : ℕ := 0
  doneGeneration : ℕ := 0
  nextEligibleAt : Option Instant := none
  /-- `lastProcessedAt` with `lastProcessedEventId`. -/
  lastProcessed : Option (Instant × Uuid) := none
  lastActiveAt : Instant
  deriving DecidableEq

structure SecurityLog where
  events : Table SecurityEvent.id := .empty
  detectionStates : Table SecurityDetectionState.key := .empty

/-! ### Texts -/

/-- The texts that are hashed by `createHash('sha256')`, as the values they are made of. -/
inductive HashedText where
  | key (rule : DetectionRule) (scopeKey : ScopeKey) (subjectKey : SubjectKey) (keyVersion : String)
  | attempt (rule : DetectionRule) (scopeKey : ScopeKey) (subjectKey : SubjectKey)
      (sourceId : Uuid)

/-- What the services use of the runtime: `node:crypto`, `node:net` and `Date`. -/
structure NodeRuntime where
  sha256 : HashedText → String
  hmacSha256 : String → String → String
  isIP : String → ℕ
  /-- `Date.parse` of a text that is not in the format of the language. -/
  parseOther : String → Option Instant := fun _ => none

/-- The process variables of the log. -/
structure SecurityEnv extends Env where
  hmacKey : Option String
  hmacKeyVersion : Option String

/-- White space as `String.prototype.trim` has it. -/
def isTrimmed (c : Char) : Bool :=
  (9 ≤ c.val && c.val ≤ 13) || c.val == 0x20 || c.val == 0xa0 || c.val == 0x1680 ||
    (0x2000 ≤ c.val && c.val ≤ 0x200a) || c.val == 0x2028 || c.val == 0x2029 ||
    c.val == 0x202f || c.val == 0x205f || c.val == 0x3000 || c.val == 0xfeff

def trim (s : String) : String :=
  String.ofList (((s.toList.dropWhile isTrimmed).reverse.dropWhile isTrimmed).reverse)

def isControl (c : Char) : Bool := c.val ≤ 0x1f || c.val == 0x7f

/-- `value || null` for a text. -/
def orNull (s : String) : Option String := if s.isEmpty then none else some s

def clean (value : Option String) (max : ℕ) : Option String :=
  value.bind fun v =>
    let spaced := String.ofList (v.toList.map fun c => if isControl c then ' ' else c)
    orNull (String.ofList ((trim spaced).toList.take max))

def normalizeLogin (value : String) : String := (trim value).toLower

def loginHash (node : NodeRuntime) (env : SecurityEnv) (login : String) : Option String :=
  env.hmacKey.bind fun key =>
    if key.length < 32 then none else some (node.hmacSha256 key (normalizeLogin login))

def maskLogin (value : String) : String :=
  match (normalizeLogin value).splitOn "@" with
  | name :: domain :: _ =>
    if name.isEmpty || domain.isEmpty then "***"
    else String.ofList (name.toList.take 1) ++ "***@" ++ String.ofList (domain.toList.take 2) ++
      "***"
  | _ => "***"

/-- `/^::ffff:(\d{1,3}(?:\.\d{1,3}){3})$/i`. -/
def mappedIPv4 (value : String) : Option String :=
  let address := String.ofList (value.toList.drop 7)
  let parts := address.splitOn "."
  if (String.ofList (value.toList.take 7)).toLower = "::ffff:" ∧ parts.length = 4 ∧
      parts.all (fun p => decide (1 ≤ p.length) && decide (p.length ≤ 3) && p.all Char.isDigit) then
    some address
  else none

def normalizeIp (node : NodeRuntime) (value : Option String) : Option String :=
  (value.bind orNull).bind fun v =>
    let trimmed := trim v
    match (mappedIPv4 trimmed).filter fun address => node.isIP address = 4 with
    | some address => some address
    | none => if node.isIP trimmed = 0 then none else some trimmed.toLower

/-! ### Recording -/

structure SecurityEventSchoolScope where
  schoolId : Uuid
  viewerUserId : Option Uuid := none
  actorVisibility : Option ActorVisibility := none
  actorUserId : Option Uuid := none
  actorDisplayName : Option String := none
  actorRole : Option String := none
  targetUserId : Option Uuid := none
  targetDisplayName : Option String := none

structure SecurityEventInput where
  type : SecurityEventType
  source : String
  attemptId : String
  eventPhase : Option String := none
  occurredAt : Option Instant := none
  category : Option SecurityEventCategory := none
  severity : Option SecurityEventSeverity := none
  outcome : Option SecurityEventOutcome := none
  reasonCode : Option String := none
  operationCode : Option String := none
  operationLabel : Option String := none
  httpMethod : Option String := none
  routeTemplate : Option String := none
  httpStatus : Option ℤ := none
  actorUserId : Option Uuid := none
  actorRole : Option String := none
  actorDisplayName : Option String := none
  targetUserId : Option Uuid := none
  targetDisplayName : Option String := none
  resourceType : Option String := none
  resourceId : Option String := none
  loginIdentifier : Option String := none
  clientIp : Option String := none
  ipSource : Option IpSource := none
  userAgent : Option String := none
  requestId : Option String := none
  schoolScopes : List SecurityEventSchoolScope := []
  accountActionId : Option Uuid := none
  metadata : EventMetadata := {}

def safeScope (scope : SecurityEventSchoolScope) (input : SecurityEventInput)
    (occurredAt : Instant) : SecurityEventSchool :=
  let actorVisibility := scope.actorVisibility.getD
    (if (scope.actorUserId.or input.actorUserId).isSome then .known else .unknown)
  { schoolId := scope.schoolId
    occurredAt
    viewerUserId := scope.viewerUserId
    actorVisibility
    actorUserId :=
      if actorVisibility = .known then scope.actorUserId.or input.actorUserId else none
    actorDisplayName := match actorVisibility with
      | .external => some "Użytkownik zewnętrzny"
      | .known => clean (scope.actorDisplayName.or input.actorDisplayName) 160
      | .unknown => none
    actorRole :=
      if actorVisibility = .known then clean (scope.actorRole.or input.actorRole) 24 else none
    targetUserId := scope.targetUserId
    targetDisplayName := clean scope.targetDisplayName 160 }

/-- `new Map(entries)` by school: a later entry takes the place of an earlier one. -/
def setSchool (scopes : Table SecurityEventSchool.schoolId) (scope : SecurityEventSchool) :
    Table SecurityEventSchool.schoolId :=
  if h : scope.schoolId ∈ scopes.keys then
    scopes.update scope.schoolId (fun s => { scope with schoolId := s.schoolId }) fun _ => rfl
  else scopes.insert scope h

def safeScopes (input : SecurityEventInput) (occurredAt : Instant) :
    Table SecurityEventSchool.schoolId :=
  (input.schoolScopes.map fun s => safeScope s input occurredAt).foldl setSchool .empty

/-- The subjects a failed login counts for. -/
def detectionSubjects (node : NodeRuntime) (input : SecurityEventInput) (hash : Option String)
    (keyVersion : String) : List DetectionSubject :=
  let account := match input.targetUserId, hash with
    | some userId, _ => [DetectionSubject.user userId]
    | none, some hash => [.hash hash keyVersion]
    | none, none => []
  let ip := match normalizeIp node input.clientIp with
    | some ip => if input.ipSource.any IpSource.isTrusted then [DetectionSubject.ip ip] else []
    | none => []
  account ++ ip

/-- The keys in the order they are built. The source sorts them, so that every call locks them
in one order. -/
def detectionKeys (node : NodeRuntime) (input : SecurityEventInput)
    (scopes : Table SecurityEventSchool.schoolId) (hash : Option String) (keyVersion : String) :
    List DetectionKey :=
  if input.type ≠ .loginFailed then []
  else
    (ScopeKey.global :: scopes.rows.map fun s => .school s.schoolId s.viewerUserId).flatMap
      fun scope =>
      (detectionSubjects node input hash keyVersion).map fun subject => ⟨scope, subject⟩

def SecurityEvent.sameAttempt (a b : SecurityEvent) : Bool :=
  decide (a.source = b.source ∧ a.attemptId = b.attemptId ∧ a.eventPhase = b.eventPhase)

def SecurityEvent.sameActionPhase (a b : SecurityEvent) : Bool :=
  a.accountActionId.isSome &&
    decide (a.accountActionId = b.accountActionId ∧ a.eventPhase = b.eventPhase)

def uniqueViolation : Failure := .other "P2002"

/-- `securityEvent.create` under the primary key and the two unique indexes. -/
def createSecurityEvent (row : SecurityEvent) : Prog Failure SecurityLog Unit := fun log =>
  if h : row.id ∈ log.events.keys then (.error uniqueViolation, log)
  else if log.events.rows.any (fun e => row.sameAttempt e || row.sameActionPhase e) then
    (.error uniqueViolation, log)
  else (.ok (), { log with events := log.events.insert row h })

/-- The nil UUID, before every event's id. -/
def nilUuid : Uuid := 0

/-- The upsert of a detection state. -/
def SecurityLog.queued (occurredAt : Instant) (key : DetectionKey) (log : SecurityLog) :
    SecurityLog :=
  if h : key ∈ log.detectionStates.keys then
    { log with
      detectionStates := log.detectionStates.update key
        (fun s => { s with queuedGeneration := s.queuedGeneration + 1, lastActiveAt := occurredAt })
        (fun _ => rfl) }
  else
    { log with
      detectionStates := log.detectionStates.insert
        { key, queuedGeneration := 1, lastActiveAt := occurredAt } h }

/-- A processed cursor is put back before an event that arrives late. -/
def SecurityLog.rewound (occurredAt : Instant) (key : DetectionKey) (log : SecurityLog) :
    SecurityLog :=
  { log with
    detectionStates := log.detectionStates.updateMany
      (fun s => decide (s.key = key) && s.lastProcessed.any fun p => decide (occurredAt ≤ p.1))
      (fun s => { s with lastProcessed := some (occurredAt - 1, nilUuid), nextEligibleAt := none })
      (fun _ => rfl) }

def queueDetection (occurredAt : Instant) : List DetectionKey → Prog Failure SecurityLog Unit
  | [] => pure ()
  | key :: rest => do
    Prog.write fun log => (log.queued occurredAt key).rewound occurredAt key
    queueDetection occurredAt rest

/-- Eight, four, four, four and twelve hexadecimal digits. -/
def uuidText (id : Uuid) : String :=
  let digits := Nat.toDigits 16 id
  let d := List.replicate (32 - digits.length) '0' ++ digits
  String.ofList (d.take 8 ++ '-' :: (d.drop 8).take 4 ++ '-' :: (d.drop 12).take 4 ++
    '-' :: (d.drop 16).take 4 ++ '-' :: d.drop 20)

def inputSource (input : SecurityEventInput) : String := (clean input.source 32).getD "BE_HTTP"

def inputAttemptId (id : Uuid) (input : SecurityEventInput) : String :=
  (clean input.attemptId 100).getD (uuidText id)

def inputEventPhase (input : SecurityEventInput) : String :=
  (clean input.eventPhase 48).getD "RESULT"

/-- `Number.isSafeInteger` of an integer. -/
def isSafeInteger (n : ℤ) : Bool := n.natAbs < 2 ^ 53

/-- The row that `recordSecurityEvent` creates. -/
def securityEventRow (node : NodeRuntime) (id : Uuid) (occurredAt : Instant) (hash : Option String)
    (keyVersion : String) (scopes : Table SecurityEventSchool.schoolId)
    (input : SecurityEventInput) : SecurityEvent :=
  let defaults := eventDefaults input.type
  { id
    occurredAt
    type := input.type
    category := input.category.getD defaults.category
    severity := input.severity.getD defaults.severity
    outcome := input.outcome.getD defaults.outcome
    reasonCode := clean input.reasonCode 64
    operationCode := clean input.operationCode 96
    operationLabelSnapshot := clean input.operationLabel 160
    httpMethod := clean input.httpMethod 8
    routeTemplate := clean input.routeTemplate 180
    httpStatus := input.httpStatus
    actorUserId := input.actorUserId
    actorRoleSnapshot := clean input.actorRole 24
    actorDisplayNameSnapshot := clean input.actorDisplayName 160
    targetUserId := input.targetUserId
    targetDisplayNameSnapshot := clean input.targetDisplayName 160
    resourceType := clean input.resourceType 48
    resourceId := clean input.resourceId 100
    loginIdentifierHash := hash
    hashKeyVersion := hash.map fun _ => keyVersion
    loginIdentifierMasked := (input.loginIdentifier.bind orNull).map maskLogin
    clientIp := normalizeIp node input.clientIp
    ipSource := input.ipSource
    userAgent := clean input.userAgent 256
    requestId := clean input.requestId 100
    attemptId := inputAttemptId id input
    eventPhase := inputEventPhase input
    source := inputSource input
    accountActionId := input.accountActionId
    metadata :=
      { attemptCount := input.metadata.attemptCount.filter isSafeInteger
        windowMinutes := input.metadata.windowMinutes.filter isSafeInteger }
    schools := scopes }

structure RecordedEvent where
  id : Uuid
  created : Bool

/-- The transaction of `recordSecurityEvent`. -/
def writeSecurityEvent (node : NodeRuntime) (env : SecurityEnv) (id : Uuid)
    (input : SecurityEventInput) : Prog Failure SecurityLog Unit :=
  let occurredAt := input.occurredAt.getD env.now
  let hash := (input.loginIdentifier.bind orNull).bind (loginHash node env)
  let scopes := safeScopes input occurredAt
  let keyVersion := (clean (env.hmacKeyVersion.getD "v1") 24).getD "v1"
  .transaction do
    createSecurityEvent (securityEventRow node id occurredAt hash keyVersion scopes input)
    queueDetection occurredAt (detectionKeys node input scopes hash keyVersion)

def recordSecurityEvent (node : NodeRuntime) (env : SecurityEnv) (input : SecurityEventInput) :
    Prog Failure SecurityLog RecordedEvent := do
  let id ← Prog.query fun log => .ok (env.uuid log.events.keys)
  match ← Prog.attempt (writeSecurityEvent node env id input) with
  | .ok () => return { id, created := true }
  | .error e =>
    let existing ← Prog.query fun log => .ok (log.events.findFirst fun e =>
      decide (e.source = inputSource input ∧ e.attemptId = inputAttemptId id input ∧
        e.eventPhase = inputEventPhase input))
    match existing with
    | some existing =>
      if e = uniqueViolation then return { id := existing.id, created := false }
      else liftM (Except.error e : Except Failure RecordedEvent)
    | none => liftM (Except.error e : Except Failure RecordedEvent)

end OSK
