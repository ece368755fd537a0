import Mathlib.Data.Nat.Digits.Defs
import OskManager.Model.SecurityDetection

/-! The manager's list of security events: `security-events/list.ts` with `listCursor.ts` and
`listFilters.ts`. A page is cut from the sorted rows by a signed cursor, which is bound to the
manager, the school and the query. -/

namespace OSK

open Relational

/-- How the database compares texts: `ILIKE` for a part of a text and for the whole one, both
insensitive to case, and the order of its collation. -/
structure TextRules where
  contains : String → String → Bool
  equals : String → String → Bool
  le : String → String → Bool

/-! ### Rows -/

/-- A row of `security_event_schools` with its event. -/
structure SecurityLogRow where
  event : SecurityEvent
  school : SecurityEventSchool

def SecurityLogRow.position (r : SecurityLogRow) : Position :=
  toLex (r.school.occurredAt, r.event.id)

def SecurityLog.schoolRows (log : SecurityLog) (schoolId : Uuid) : List SecurityLogRow :=
  log.events.rows.filterMap fun e =>
    (e.schools.findUnique schoolId).map fun s => { event := e, school := s }

structure LogActor where
  visibility : ActorVisibility
  userId : Option Uuid
  displayName : Option String
  role : Option String

structure LogTarget where
  userId : Option Uuid
  displayName : Option String

structure SecurityLogItem where
  id : Uuid
  occurredAt : Instant
  type : SecurityEventType
  category : SecurityEventCategory
  severity : SecurityEventSeverity
  outcome : SecurityEventOutcome
  reasonCode : Option String
  operationCode : Option String
  operationLabel : Option String
  httpMethod : Option String
  routeTemplate : Option String
  httpStatus : Option ℤ
  actor : LogActor
  target : LogTarget
  clientIp : Option String
  requestId : Option String

def rowDto (row : SecurityLogRow) : SecurityLogItem where
  id := row.event.id
  occurredAt := row.school.occurredAt
  type := row.event.type
  category := row.event.category
  severity := row.event.severity
  outcome := row.event.outcome
  reasonCode := row.event.reasonCode
  operationCode := row.event.operationCode
  operationLabel := row.event.operationLabelSnapshot
  httpMethod := row.event.httpMethod
  routeTemplate := row.event.routeTemplate
  httpStatus := row.event.httpStatus
  actor :=
    { visibility := row.school.actorVisibility, userId := row.school.actorUserId
      displayName := row.school.actorDisplayName, role := row.school.actorRole }
  target :=
    { userId := row.school.targetUserId, displayName := row.school.targetDisplayName }
  clientIp := row.event.clientIp
  requestId := row.event.requestId

/-! ### Filters -/

inductive FilterField where
  | occurredAt | type | category | severity | outcome | operationCode | actorRole
  | actorVisibility | reasonCode | httpStatus | actorUserId | targetUserId | clientIp
  deriving DecidableEq, Repr

inductive FilterOperator where
  | is | isNot | oneOf | isEmpty | on | before | after | between
  deriving DecidableEq, Repr

inductive FilterValue where
  | text (value : String)
  | texts (values : List String)
  | range (start stop : String)
  deriving DecidableEq, Repr

structure FilterRule where
  field : FilterField
  operator : FilterOperator
  value : Option FilterValue := none
  deriving DecidableEq, Repr

/-- `/^\d{4}-\d{2}-\d{2}$/` with its three numbers. -/
def isoDateParts (value : String) : Option (ℤ × ℤ × ℤ) :=
  let number (digits : List Char) : ℤ := (Nat.ofDigits 10 (digits.reverse.map fun c =>
    c.toNat - '0'.toNat) : ℕ)
  match value.toList with
  | [y₁, y₂, y₃, y₄, '-', m₁, m₂, '-', d₁, d₂] =>
    if [y₁, y₂, y₃, y₄, m₁, m₂, d₁, d₂].all Char.isDigit then
      some (number [y₁, y₂, y₃, y₄], number [m₁, m₂], number [d₁, d₂])
    else none
  | _ => none

/-- The day number of the first day of a month of the Gregorian calendar. -/
def monthStart (year month : ℤ) : Day :=
  let y := if month ≤ 2 then year - 1 else year
  let m := (month + 9) % 12
  365 * y + y / 4 - y / 100 + y / 400 + (153 * m + 2) / 5 - 719468

/-- `Date.parse` of midnight UTC of a date: any day up to 31 is taken, and runs over into the next
month. -/
def parseIsoDate (value : String) : Option Day := do
  let (year, month, day) ← isoDateParts value
  guard (1 ≤ month ∧ month ≤ 12 ∧ 1 ≤ day ∧ day ≤ 31)
  return monthStart year month + day - 1

/-- The date reads back as it was written: it is a day of its month. -/
def isCalendarDate (value : String) : Bool :=
  (isoDateParts value).any fun (year, month, day) =>
    decide (monthStart year month + day - 1 < monthStart (year + month / 12) (month % 12 + 1))

/-- The start of a day in Warsaw: the offset is asked for twice, the second time near the answer. -/
def dayStart (zone : PolishZone) (day : Day) : Except Failure Instant := do
  let midnightUtc := day * msPerDay
  let candidate ← shifted midnightUtc (midnightUtc - 3600000)
  shifted midnightUtc candidate
where
  /-- Midnight by the offset at `candidate`, which the formatter shows in hours and minutes. -/
  shifted (midnightUtc candidate : Instant) : Except Failure Instant := do
    let offset := zone.offset candidate
    throwIf (offset = 0 ∨ offset % msPerMinute ≠ 0) (.badRequest "Nieprawidłowa strefa daty")
    return midnightUtc - offset

def dateStart (zone : PolishZone) (value : String) : Except Failure Instant := do
  let day ← orThrow (parseIsoDate value) (.badRequest "Nieprawidłowa data filtra")
  throwIf (isCalendarDate value = false) (.badRequest "Nieprawidłowa data filtra")
  dayStart zone day

/-- `Date.parse` of midnight UTC of a text. A month is its first day and a year its first month; a
text of another format is left to the runtime. -/
def parseMidnight (node : NodeRuntime) (value : String) : Option Instant :=
  let dates := [value, value ++ "-01", value ++ "-01-01"]
  match dates.find? fun date => (isoDateParts date).isSome with
  | some date => (parseIsoDate date).map fun day => day * msPerDay
  | none => node.parseOther (value ++ "T00:00:00Z")

/-- The days whose year has four digits. -/
def firstIsoDay : Day := -719528
def lastIsoDay : Day := 2932896

/-- A `Date` ends 100,000,000 days from the epoch. -/
def maxTime : Instant := 8640000000000000

/-- The text of the next day goes through `dateStart`, which refuses a year of more than four
digits. -/
def nextDay (node : NodeRuntime) (zone : PolishZone) (value : String) : Except Failure Instant := do
  let utc ← orThrow (parseMidnight node value) (.other "RangeError: Invalid time value")
  let next := utc + msPerDay
  throwIf (next < -maxTime ∨ maxTime < next) (.other "RangeError: Invalid time value")
  let day := next / msPerDay
  throwIf (day < firstIsoDay ∨ lastIsoDay < day) (.badRequest "Nieprawidłowa data filtra")
  dayStart zone day

/-- A condition of the query on a row. -/
abbrev RowCondition := SecurityLogRow → Bool

/-- A column compared with values; `NULL` is equal to none of them, and not unequal either. -/
def stringCondition (operator : FilterOperator) (value : Option FilterValue)
    (column : SecurityLogRow → Option String) : Except Failure RowCondition :=
  match operator, value with
  | .is, some (.text v) => return fun r => decide (column r = some v)
  | .isNot, some (.text v) => return fun r => (column r).any fun c => decide (c ≠ v)
  | .oneOf, some (.texts vs) => return fun r => (column r).any fun c => vs.contains c
  | _, _ => throw (.badRequest "Nieprawidłowy operator filtra")

def dateCondition (node : NodeRuntime) (zone : PolishZone) (operator : FilterOperator)
    (value : Option FilterValue) : Except Failure RowCondition :=
  match value with
  | some (.range start stop) =>
    if operator = .between ∧ start ≤ stop then do
      let gte ← dateStart zone start
      let lt ← nextDay node zone stop
      return fun r => decide (gte ≤ r.school.occurredAt ∧ r.school.occurredAt < lt)
    else throw (.badRequest "Nieprawidłowa data filtra")
  | some (.text v) =>
    match operator with
    | .on => do
      let gte ← dateStart zone v
      let lt ← nextDay node zone v
      return fun r => decide (gte ≤ r.school.occurredAt ∧ r.school.occurredAt < lt)
    | .before => do
      let lt ← dateStart zone v
      return fun r => decide (r.school.occurredAt < lt)
    | .after => do
      let gte ← nextDay node zone v
      return fun r => decide (gte ≤ r.school.occurredAt)
    | _ => throw (.badRequest "Nieprawidłowy operator daty")
  | _ => throw (.badRequest "Nieprawidłowa data filtra")

def ipCondition (node : NodeRuntime) (operator : FilterOperator) (value : Option FilterValue) :
    Except Failure RowCondition :=
  match operator, value with
  | .isEmpty, _ => return fun r => decide (r.event.clientIp = none)
  | .is, some (.text v) | .isNot, some (.text v) => do
    throwIf (node.isIP v = 0) (.badRequest "Nieprawidłowy adres IP")
    stringCondition operator (some (.text v)) fun r => r.event.clientIp
  | _, _ => throw (.badRequest "Nieprawidłowy adres IP")

def hexValue (c : Char) : Option ℕ :=
  if c.isDigit then some (c.toNat - '0'.toNat)
  else if 'a' ≤ c.toLower ∧ c.toLower ≤ 'f' then some (c.toLower.toNat - 'a'.toNat + 10)
  else none

/-- The UUID that a text of 36 hexadecimal digits and hyphens stands for. -/
def parseUuid (value : String) : Option Uuid := do
  let l := value.toList
  guard (l.length = 36 ∧ [8, 13, 18, 23].all fun i => l[i]? = some '-')
  let digits ← (l.filter (· ≠ '-')).mapM hexValue
  guard (digits.length = 32)
  return Nat.ofDigits 16 digits.reverse

def userCondition (operator : FilterOperator) (value : Option FilterValue)
    (column : SecurityLogRow → Option Uuid) : Except Failure RowCondition :=
  match operator, value with
  | .is, some (.text v) => do
    let id ← uuidOf v
    return fun r => decide (column r = some id)
  | .isNot, some (.text v) => do
    let id ← uuidOf v
    return fun r => (column r).any fun c => decide (c ≠ id)
  | _, _ => throw (.badRequest "Nieprawidłowy filtr użytkownika")
where
  /-- A text of another shape is refused here, one that is no UUID by the database. -/
  uuidOf (v : String) : Except Failure Uuid := do
    throwIf (¬(v.length = 36 ∧ v.toList.all fun c => c = '-' || (hexValue c).isSome))
      (.badRequest "Nieprawidłowy filtr użytkownika")
    orThrow (parseUuid v) (.other "Error creating UUID")

/-- `/^\d{3}$/` and its number. -/
def statusCode (v : String) : Option ℤ :=
  if v.length = 3 ∧ v.all Char.isDigit then
    some (Nat.ofDigits 10 (v.toList.reverse.map fun c => c.toNat - '0'.toNat) : ℕ)
  else none

def statusCondition (operator : FilterOperator) (value : Option FilterValue) :
    Except Failure RowCondition :=
  match operator, value with
  | .oneOf, some (.texts vs) => do
    let codes ← orThrow (vs.mapM statusCode) (.badRequest "Nieprawidłowy kod HTTP")
    return fun r => r.event.httpStatus.any fun c => codes.contains c
  | .is, some (.text v) => do
    let code ← orThrow (statusCode v) (.badRequest "Nieprawidłowy kod HTTP")
    return fun r => decide (r.event.httpStatus = some code)
  | .isNot, some (.text v) => do
    let code ← orThrow (statusCode v) (.badRequest "Nieprawidłowy kod HTTP")
    return fun r => r.event.httpStatus.any fun c => decide (c ≠ code)
  | _, _ => throw (.badRequest "Nieprawidłowy kod HTTP")

def filterCondition (node : NodeRuntime) (zone : PolishZone) (rule : FilterRule) :
    Except Failure RowCondition :=
  match rule.field with
  | .occurredAt => dateCondition node zone rule.operator rule.value
  | .clientIp => ipCondition node rule.operator rule.value
  | .actorUserId => userCondition rule.operator rule.value fun r => r.school.actorUserId
  | .targetUserId => userCondition rule.operator rule.value fun r => r.school.targetUserId
  | .httpStatus => statusCondition rule.operator rule.value
  | .actorVisibility =>
    stringCondition rule.operator rule.value fun r => some r.school.actorVisibility.text
  | .actorRole => stringCondition rule.operator rule.value fun r => r.school.actorRole
  | .type => stringCondition rule.operator rule.value fun r => some r.event.type.text
  | .category => stringCondition rule.operator rule.value fun r => some r.event.category.text
  | .severity => stringCondition rule.operator rule.value fun r => some r.event.severity.text
  | .outcome => stringCondition rule.operator rule.value fun r => some r.event.outcome.text
  | .operationCode => stringCondition rule.operator rule.value fun r => r.event.operationCode
  | .reasonCode => stringCondition rule.operator rule.value fun r => r.event.reasonCode

def filterConditions (node : NodeRuntime) (zone : PolishZone) (filters : List FilterRule) :
    Except Failure (List RowCondition) :=
  filters.mapM (filterCondition node zone)

/-! ### Cursors -/

inductive SecurityLogView where
  | all | failedLogins | suspicious | accessDenied | accountChanges
  deriving DecidableEq, Repr

def viewTypes : SecurityLogView → Option (List SecurityEventType)
  | .all => none
  | .failedLogins => some [.loginFailed, .loginDenied, .loginProviderError, .loginRateLimited]
  | .suspicious => some [.repeatedLoginFailures, .revokedSessionUsed, .accessDenied]
  | .accessDenied => some [.accessDenied, .authenticationRequired, .sessionRejected]
  | .accountChanges => some [.accountCreated, .accountBlocked, .accountUnblocked, .accountArchived,
      .accountEmailChangeRequested, .accountEmailChanged, .accountChangeFailed,
      .accountChangeRepairRequired, .passwordChanged, .passwordChangeCompleted]

inductive CursorDirection where
  | older | newer
  deriving DecidableEq, Repr

structure CursorPayload where
  actorId : Uuid
  schoolId : Uuid
  fingerprint : String
  direction : CursorDirection
  occurredAt : Instant
  eventId : Uuid
  expiresAt : Instant
  deriving DecidableEq

/-- The text of a cursor: `body.signature`, with the payload that the body encodes, or any other
text. -/
inductive CursorText where
  | signed (payload : CursorPayload) (signature : String)
  | malformed (text : String)
  deriving DecidableEq

structure ListInput where
  schoolId : Uuid
  limit : ℕ
  cursor : Option CursorText := none
  search : String := ""
  view : SecurityLogView := .all
  filters : List FilterRule := []

/-- The part of the query that its fingerprint is made of. -/
structure FingerprintSource where
  search : String
  view : SecurityLogView
  filters : List FilterRule
  limit : ℕ

/-- What the list uses of `node:crypto`, with the secret of its cursors. -/
structure CursorCrypto where
  sha256 : FingerprintSource → String
  hmacSha256 : String → CursorPayload → String
  configuredSecret : Option String
  processCursorKey : String

def cursorKey (crypto : CursorCrypto) : String :=
  (crypto.configuredSecret.filter fun s => decide (32 ≤ s.length)).getD crypto.processCursorKey

def fingerprint (crypto : CursorCrypto) (input : ListInput) : String :=
  crypto.sha256
    { search := input.search, view := input.view, filters := input.filters, limit := input.limit }

def encodeCursor (crypto : CursorCrypto) (payload : CursorPayload) : CursorText :=
  .signed payload (crypto.hmacSha256 (cursorKey crypto) payload)

def decodeCursor (crypto : CursorCrypto) (now : Instant) (value : CursorText) (actorId : Uuid)
    (input : ListInput) : Except Failure CursorPayload :=
  match value with
  | .malformed _ => throw (.badRequest "Nieprawidłowy kursor listy")
  | .signed payload signature => do
    throwIf (signature ≠ crypto.hmacSha256 (cursorKey crypto) payload)
      (.badRequest "Nieprawidłowy kursor listy")
    throwIf (payload.actorId ≠ actorId ∨ payload.schoolId ≠ input.schoolId ∨
        payload.fingerprint ≠ fingerprint crypto input ∨ payload.expiresAt < now)
      (.badRequest "Kursor wygasł lub nie pasuje do filtrów")
    return payload

/-! ### Pages -/

inductive CollectionStatus where
  | ok | degraded | unknown
  deriving DecidableEq, Repr

/-- The clock, the zone and the state of the collection during one request. -/
structure ListEnv where
  now : Instant
  zone : PolishZone
  collectionStatus : CollectionStatus

structure PageInfo where
  nextCursor : Option CursorText
  previousCursor : Option CursorText
  hasNextPage : Bool
  hasPreviousPage : Bool

structure SecurityLogPage where
  items : List SecurityLogItem
  pageInfo : PageInfo
  collectionStatus : CollectionStatus

def assertSchool (db : Db) (actorId schoolId : Uuid) : Except Failure Unit :=
  throwIf ((db.drivingSchools.findFirst fun s =>
      decide (s.id = schoolId ∧ s.ownerId = actorId ∧ s.deletedAt = none)).isNone = true)
    (.notFound "Nie znaleziono OSK")

/-- The search finds no `NULL`. -/
def TextRules.containsIn (rules : TextRules) (column : Option String) (search : String) : Bool :=
  column.any fun c => rules.contains c search

/-- The conditions on a row apart from the cursor. -/
def SecurityLogRow.matches (rules : TextRules) (actorId : Uuid) (input : ListInput)
    (filters : List RowCondition) (r : SecurityLogRow) : Bool :=
  r.school.viewerUserId.all (fun viewer => decide (viewer = actorId)) &&
  (viewTypes input.view).all (fun types => types.contains r.event.type) &&
  filters.all (fun condition => condition r) &&
  (input.search.isEmpty ||
    rules.containsIn r.school.actorDisplayName input.search ||
    rules.containsIn r.school.targetDisplayName input.search ||
    rules.containsIn r.event.operationLabelSnapshot input.search ||
    rules.contains r.event.type.text input.search)

/-- What the cursor leaves: the rows before it, or after it. -/
def SecurityLogRow.isBeyond (cursor : Option CursorPayload) (r : SecurityLogRow) : Bool :=
  cursor.all fun c =>
    match c.direction with
    | .older => decide (r.school.occurredAt < c.occurredAt ∨
        (r.school.occurredAt = c.occurredAt ∧ r.event.id < c.eventId))
    | .newer => decide (c.occurredAt < r.school.occurredAt ∨
        (r.school.occurredAt = c.occurredAt ∧ c.eventId < r.event.id))

/-- `input.cursor ? decodeCursor(input.cursor, actorId, input) : null`. -/
def listCursor (crypto : CursorCrypto) (now : Instant) (actorId : Uuid) (input : ListInput) :
    Except Failure (Option CursorPayload) :=
  match input.cursor with
  | some value => (decodeCursor crypto now value actorId input).map some
  | none => .ok none

/-- The page that the query finds, with the cursors at its ends. -/
def securityLogPage (crypto : CursorCrypto) (env : ListEnv) (actorId : Uuid) (input : ListInput)
    (cursor : Option CursorPayload) (matched : List SecurityLogRow) : SecurityLogPage :=
  let isNewer := decide (cursor.map CursorPayload.direction = some .newer)
  let found := matched.filter (SecurityLogRow.isBeyond cursor)
  let sorted := if isNewer then found.insertionSort fun a b => a.position ≤ b.position
    else found.insertionSort fun a b => b.position ≤ a.position
  let rows := sorted.take (input.limit + 1)
  let hasOverflow := decide (input.limit < rows.length)
  let page := if isNewer then (rows.take input.limit).reverse else rows.take input.limit
  let make (row : Option SecurityLogRow) (direction : CursorDirection) : Option CursorText :=
    row.map fun row => encodeCursor crypto
      { actorId, schoolId := input.schoolId, fingerprint := fingerprint crypto input, direction
        occurredAt := row.school.occurredAt, eventId := row.event.id
        expiresAt := env.now + 15 * 60000 }
  { items := page.map rowDto
    pageInfo :=
      { nextCursor :=
          if isNewer then make page.getLast? .older
          else if hasOverflow then make page.getLast? .older else none
        previousCursor :=
          if isNewer then if hasOverflow then make page.head? .newer else none
          else if cursor.isSome then make page.head? .newer else none
        hasNextPage := if isNewer then cursor.isSome else hasOverflow
        hasPreviousPage := if isNewer then hasOverflow else cursor.isSome }
    collectionStatus := env.collectionStatus }

/-- The rows of the school that the query matches, apart from its cursor. -/
def SecurityLog.matched (log : SecurityLog) (rules : TextRules) (actorId : Uuid)
    (input : ListInput) (filters : List RowCondition) : List SecurityLogRow :=
  (log.schoolRows input.schoolId).filter (SecurityLogRow.matches rules actorId input filters)

def listManagerSecurityLogs (node : NodeRuntime) (rules : TextRules) (crypto : CursorCrypto)
    (env : ListEnv) (db : Db) (log : SecurityLog) (actorId : Uuid) (input : ListInput) :
    Except Failure SecurityLogPage := do
  assertSchool db actorId input.schoolId
  let cursor ← listCursor crypto env.now actorId input
  let filters ← filterConditions node env.zone input.filters
  return securityLogPage crypto env actorId input cursor (log.matched rules actorId input filters)

end OSK
