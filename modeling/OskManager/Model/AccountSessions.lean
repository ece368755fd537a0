import OskManager.Model.Accounts
import OskManager.Model.SecurityEvents

/-! The sessions of accounts and who is let in by them: `lib/accountSessions.ts` and
`auth.middleware.ts`. -/

namespace OSK

open Relational

/-! ### Sessions -/

inductive AccountSessionDecision where
  | allowed | missingSessionId | unknownSession | sessionUserMismatch | revokedSession
  | accountChangePending
  deriving DecidableEq, Repr

/-- `reason` of a decision. -/
def AccountSessionDecision.text : AccountSessionDecision → String
  | .allowed => "ALLOWED"
  | .missingSessionId => "MISSING_SESSION_ID"
  | .unknownSession => "UNKNOWN_SESSION"
  | .sessionUserMismatch => "SESSION_USER_MISMATCH"
  | .revokedSession => "REVOKED_SESSION"
  | .accountChangePending => "ACCOUNT_CHANGE_PENDING"

def getAccountSessionDecision (db : Db) (userId : Uuid) (sessionId : Option Uuid) :
    AccountSessionDecision :=
  match sessionId with
  | none => .missingSessionId
  | some sessionId =>
    match db.accountSessions.findUnique sessionId with
    | none => .unknownSession
    | some session =>
      if session.userId ≠ userId then .sessionUserMismatch
      else if session.revokedAt ≠ none then .revokedSession
      else if db.accountActions.count (AccountAction.isOpenFor userId) = 0 then .allowed
      else .accountChangePending

/-- `!user?.isActive || user.deletedAt` fails. -/
def User.isUsable (u : User) : Bool := u.isActive && decide (u.deletedAt = none)

def Db.registerSession (db : Db) (session : AccountSession)
    (h : session.sessionId ∉ db.accountSessions.keys) : Db :=
  { db with accountSessions := db.accountSessions.insert session h }

def createSession (session : AccountSession) : Service Bool := fun db =>
  if h : session.sessionId ∈ db.accountSessions.keys then
    (.error (.other "Unique constraint failed"), db)
  else (.ok true, db.registerSession session h)

/-- The session is the one that `sessionIdFromToken` reads from the token. -/
def registerAccountSession (env : Env) (userId : Uuid) (sessionId : Option Uuid) : Service Bool :=
  sessionId.elim (pure false) fun sessionId => Prog.transaction do
    let allowed ← Prog.query fun db => .ok
      ((db.users.findUnique userId).any User.isUsable &&
        decide (db.accountActions.count (AccountAction.isOpenFor userId) = 0))
    if allowed then createSession { sessionId, userId, createdAt := env.now } else return false

def revokeAccountSessions (env : Env) (userId : Uuid) : Service Unit :=
  Prog.write fun db => db.revokeSessions env.now userId

/-! ### The middleware -/

/-- The `Authorization` header, and what `getClaims` says about its token. -/
inductive BearerToken where
  | missing
  | malformed
  | invalid
  | verified (userId : Uuid) (sessionId : Option Uuid)
  deriving DecidableEq, Repr

/-- The answer to a request that is not let in, and the security event of it. -/
structure AuthRejection where
  httpStatus : ℤ
  message : String
  type : SecurityEventType
  reasonCode : String
  deriving DecidableEq

def rejectSession (httpStatus : ℤ) (message reasonCode : String) : AuthRejection where
  httpStatus := httpStatus
  message := message
  type := .sessionRejected
  reasonCode := reasonCode

def authMiddleware (db : Db) : BearerToken → Except AuthRejection User
  | .missing => throw
      { httpStatus := 401, message := "Missing or invalid authorization header"
        type := .authenticationRequired, reasonCode := "MISSING_BEARER_TOKEN" }
  | .malformed => throw (rejectSession 401 "Invalid token format" "MALFORMED_TOKEN")
  | .invalid => throw (rejectSession 401 "Invalid or expired token" "INVALID_TOKEN")
  | .verified userId sessionId => do
    let dbUser ← orThrow (db.users.findUnique userId)
      (rejectSession 404 "Użytkownik nie istnieje" "LOCAL_PROFILE_MISSING")
    throwIf (dbUser.deletedAt ≠ none)
      (rejectSession 403 "Account is no longer available" "ACCOUNT_ARCHIVED")
    throwIf (dbUser.isActive = false) (rejectSession 403 "Account is disabled" "ACCOUNT_DISABLED")
    let sessionDecision := getAccountSessionDecision db userId sessionId
    throwIf (sessionDecision ≠ .allowed)
      { httpStatus := 401, message := "SESSION_REVOKED", reasonCode := sessionDecision.text
        type := if sessionDecision = .revokedSession then .revokedSessionUsed
          else .sessionRejected }
    return dbUser

end OSK
