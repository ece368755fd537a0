import OskManager.Model.Access
import OskManager.Model.Vehicles

/-! Account changes and who may make them: `manager-accounts/access.ts`. A change of an account
that has not ended is an open action of it, and a unique index lets an account have one of them. -/

namespace OSK

open Relational

/-- `status: { in: ['PENDING', 'AUTH_UPDATED', 'REPAIR_REQUIRED'] }`. -/
def AccountActionStatus.isOpen : AccountActionStatus → Bool
  | .pending | .authUpdated | .repairRequired => true
  | .requesting | .completed | .failed => false

def AccountAction.isOpenFor (userId : Uuid) (a : AccountAction) : Bool :=
  decide (a.targetId = userId) && a.status.isOpen

/-- A password reset of the last five minutes that is still being requested. -/
def AccountAction.isResetInProgress (env : Env) (userId : Uuid) (a : AccountAction) : Bool :=
  decide (a.targetId = userId ∧ a.action = .passwordResetRequest ∧ a.status = .requesting ∧
    env.now - 5 * 60000 < a.createdAt)

/-! ### Who may change an account -/

/-- The link to a school of the user's profile, by the role of the user. -/
def User.schoolLinks (db : Db) (u : User) : List Uuid :=
  match u.role with
  | .student => (db.studentProfiles.findFirst fun p => decide (p.userId = u.id)).elim [] fun p =>
      (db.studentSchools.findMany fun l => decide (l.studentId = p.id)).map StudentSchool.schoolId
  | .instructor =>
    (db.instructorProfiles.findFirst fun p => decide (p.userId = u.id)).elim [] fun p =>
      (db.instructorSchools.findMany fun l => decide (l.instructorId = p.id)).map
        InstructorSchool.schoolId
  | _ => []

/-- `accountWhere(schoolId, userId)`. -/
def accountWhere (db : Db) (schoolId userId : Uuid) (u : User) : Bool :=
  decide (u.id = userId ∧ schoolId ∈ u.schoolLinks db)

def assertManagerOwnsSchool (db : Db) (actorId schoolId : Uuid) : Except Failure Unit :=
  let school := db.drivingSchools.findFirst fun s =>
    decide (s.id = schoolId ∧ s.ownerId = actorId ∧ s.deletedAt = none)
  throwIf (school.isNone = true) (.notFound "Driving school not found")

def resolveAccountSchool (db : Db) (userId : Uuid) : Except Failure Uuid := do
  let links := ((db.users.findUnique userId).elim [] fun u => u.schoolLinks db).filter fun schoolId =>
    (db.drivingSchools.findUnique schoolId).any fun s => decide (s.deletedAt = none)
  match links with
  | [] => throw (.notFound "Account not found")
  | [schoolId] => return schoolId
  | _ => throw (.conflict "Account is assigned to multiple active driving schools")

/-- The user of an account with its school and the open actions on it. -/
structure ScopedAccount where
  user : User
  accountActionsFor : List AccountAction
  schoolId : Uuid

def scopedAccount (db : Db) (actorId : Uuid) (schoolId : Option Uuid) (userId : Uuid) :
    Except Failure ScopedAccount := do
  let schoolId ← schoolId.elim (resolveAccountSchool db userId) .ok
  assertManagerOwnsSchool db actorId schoolId
  let user ← orThrow (db.users.findFirst (accountWhere db schoolId userId))
    (.notFound "Account not found")
  return {
    user
    accountActionsFor := db.accountActions.findMany (AccountAction.isOpenFor user.id)
    schoolId }

def requireAvailable (env : Env) (db : Db) (account : ScopedAccount) : Except Failure Unit := do
  throwIf (account.user.deletedAt ≠ none) (.conflict "Account is archived")
  throwIf (account.accountActionsFor ≠ []) (.conflict "Account change already in progress")
  let resetInProgress := db.accountActions.count (AccountAction.isResetInProgress env account.user.id)
  throwIf (resetInProgress ≠ 0) (.conflict "Account change already in progress")

/-! ### Actions and sessions -/

/-- Whether another action of the account is open, as `uq_account_actions_pending_target` asks. -/
def Db.hasOtherOpenAction (db : Db) (actionId targetId : Uuid) : Bool :=
  db.accountActions.rows.any fun a => decide (a.id ≠ actionId) && a.isOpenFor targetId

def AccountAction.withStatus (status : AccountActionStatus) (a : AccountAction) : AccountAction :=
  { a with status }

@[simp] theorem AccountAction.id_withStatus (status : AccountActionStatus) (a : AccountAction) :
    (a.withStatus status).id = a.id := rfl

def Db.setActionStatus (db : Db) (actionId : Uuid) (status : AccountActionStatus) : Db :=
  { db with
    accountActions := db.accountActions.update actionId (AccountAction.withStatus status)
      (AccountAction.id_withStatus status) }

/-- `accountAction.update({ where: { id }, data: { status } })`. -/
def updateActionStatus (actionId : Uuid) (status : AccountActionStatus) : Service Unit := do
  Prog.query fun db => do
    let action ← orThrow (db.accountActions.findUnique actionId) (.other "Record to update not found")
    throwIf (status.isOpen = true ∧ db.hasOtherOpenAction actionId action.targetId = true)
      (.other "Unique constraint failed")
  Prog.write fun db => db.setActionStatus actionId status

/-- The data of `accountAction.create`. -/
structure NewAction where
  actorId : Uuid
  targetId : Uuid
  schoolId : Uuid
  action : AccountActionKind
  status : AccountActionStatus
  oldValue : Option String := none
  newValue : Option String := none

def NewAction.row (data : NewAction) (id : Uuid) (now : Instant) : AccountAction where
  id := id
  actorId := data.actorId
  targetId := data.targetId
  schoolId := data.schoolId
  action := data.action
  status := data.status
  oldValue := data.oldValue
  newValue := data.newValue
  createdAt := now

def Db.nextAction (db : Db) (env : Env) (data : NewAction) : AccountAction :=
  data.row (env.uuid db.accountActions.keys) env.now

def Db.insertAction (db : Db) (env : Env) (data : NewAction) : Db :=
  { db with
    accountActions := db.accountActions.insert (db.nextAction env data) (env.uuid_fresh _) }

def createAction (env : Env) (data : NewAction) : Service AccountAction := do
  let action ← Prog.query fun db => do
    let action := db.nextAction env data
    throwIf (data.status.isOpen = true ∧ db.hasOtherOpenAction action.id data.targetId = true)
      (.other "Unique constraint failed")
    return action
  Prog.write fun db => db.insertAction env data
  return action

/-- `{ userId, revokedAt: null }`. -/
def AccountSession.isLiveOf (userId : Uuid) (s : AccountSession) : Bool :=
  decide (s.userId = userId ∧ s.revokedAt = none)

def AccountSession.revoked (now : Instant) (s : AccountSession) : AccountSession :=
  { s with revokedAt := some now }

@[simp] theorem AccountSession.sessionId_revoked (now : Instant) (s : AccountSession) :
    (s.revoked now).sessionId = s.sessionId := rfl

/-- `accountSession.updateMany({ where: { userId, revokedAt: null }, data: { revokedAt } })`. -/
def Db.revokeSessions (db : Db) (now : Instant) (userId : Uuid) : Db :=
  { db with
    accountSessions := db.accountSessions.updateMany (AccountSession.isLiveOf userId)
      (AccountSession.revoked now) (AccountSession.sessionId_revoked now) }

def Db.updateUser (db : Db) (userId : Uuid) (f : User → User) (hf : ∀ u, (f u).id = u.id) : Db :=
  { db with users := db.users.update userId f hf }

end OSK
