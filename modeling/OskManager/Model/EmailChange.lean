import Mathlib.Logic.Function.Basic
import OskManager.Model.Accounts

/-! The change of an account's e-mail: `manager-accounts/emailChange.ts`. It is written in two
places without a common transaction, so a call stops between its transactions and its requests to
the Auth service, and other calls go on meanwhile. -/

namespace OSK

open Relational

/-! ### Transactions -/

def User.withEmail (email : String) (u : User) : User := { u with email }

@[simp] theorem User.id_withEmail (email : String) (u : User) : (u.withEmail email).id = u.id := rfl

/-- The unique index `users_email_key`, on the users that are not deleted. -/
def Db.emailTaken (db : Db) (u : User) (email : String) : Bool :=
  decide (u.deletedAt = none) &&
    db.users.rows.any fun v => decide (v.id ≠ u.id ∧ v.email = email ∧ v.deletedAt = none)

def finishEmailAction (env : Env) (actionId targetId : Uuid) (email : String) : Service Unit :=
  Prog.transaction do
    Prog.query fun db => do
      let user ← orThrow (db.users.findUnique targetId) (.other "Record to update not found")
      throwIf (db.emailTaken user email = true) (.other "Unique constraint failed")
    Prog.write fun db => db.updateUser targetId (User.withEmail email) (User.id_withEmail email)
    Prog.write fun db => db.revokeSessions env.now targetId
    updateActionStatus actionId .completed

/-- The transaction that begins `changeManagerAccountEmail`. -/
def startEmailChange (env : Env) (actorId : Uuid) (requestedSchoolId : Option Uuid)
    (userId : Uuid) (email : String) : Service AccountAction :=
  Prog.transaction do
    let account ← Prog.query fun db => do
      let account ← scopedAccount db actorId requestedSchoolId userId
      requireAvailable env db account
      throwIf (account.user.email.toLower = email.toLower) (.conflict "Email is unchanged")
      let pending := db.accountActions.count (AccountAction.isOpenFor userId)
      throwIf (pending ≠ 0) (.conflict "Account change already in progress")
      return account
    createAction env
      { actorId, targetId := userId, schoolId := account.schoolId, action := .emailChange
        status := .pending, oldValue := some account.user.email, newValue := some email }

/-- The latest open change of the e-mail, with its new value. -/
def findEmailAction (db : Db) (userId : Uuid) : Except Failure (AccountAction × String) := do
  let changes := (db.accountActions.findMany fun a =>
    a.isOpenFor userId && decide (a.action = .emailChange)).insertionSort
      fun a b => b.createdAt ≤ a.createdAt
  let action ← orThrow changes.head? (.notFound "No email change to reconcile")
  let newValue ← orThrow (action.newValue.filter fun v => !v.isEmpty)
    (.notFound "No email change to reconcile")
  return (action, newValue)

/-! ### Calls -/

structure EmailResult where
  id : Uuid
  email : Option String := none
  status : Option AccountActionStatus := none

/-- A call of `changeManagerAccountEmail` or `reconcileManagerAccountEmail`, at its next transaction
or request. -/
inductive EmailCall where
  | change (actorId : Uuid) (requestedSchoolId : Option Uuid) (userId : Uuid) (email : String)
  | changeAuth (actionId userId : Uuid) (email : String)
  | changeFailed (actionId : Uuid)
  | changeUpdated (actionId userId : Uuid) (email : String)
  | changeFinish (actionId userId : Uuid) (email : String)
  | changeRepair (actionId : Uuid)
  | reconcile (actorId : Uuid) (requestedSchoolId : Option Uuid) (userId : Uuid)
  | reconcileAction (userId : Uuid)
  | reconcileAuth (action : AccountAction) (newValue : String) (userId : Uuid)
  | reconcileFailed (actionId userId : Uuid)
  | reconcileFinish (actionId userId : Uuid) (email : String)
  | ended (result : Except Failure EmailResult)

/-- The database, and the e-mails of the users of the Auth service. -/
structure AccountStores where
  db : Db
  auth : Uuid → Option String

/-- A transaction that may meet a database that does not answer, and what follows it. -/
def inDatabase {α : Type} (answers : Bool) (p : Service α) (s : AccountStores)
    (next : Except Failure α → EmailCall) : EmailCall × AccountStores :=
  if answers then (next (p s.db).1, { s with db := (p s.db).2 })
  else (next (.error (.other "Can't reach database server")), s)

/-- The next call, or the end of this one by a failure. -/
def orEnd {α : Type} (next : α → EmailCall) : Except Failure α → EmailCall
  | .ok a => next a
  | .error e => .ended (.error e)

/-- What `reconcileManagerAccountEmail` does about the e-mail that Auth has. -/
def settle (action : AccountAction) (newValue : String) (userId : Uuid) (authEmail : String) :
    EmailCall :=
  if authEmail.toLower ≠ newValue.toLower then
    if some authEmail.toLower = action.oldValue.map String.toLower then
      .reconcileFailed action.id userId
    else .ended (.error (.conflict "Auth email differs from expected value"))
  else .reconcileFinish action.id userId authEmail

/-- One transaction or one request. `answers` says whether the other side does its work and says
so; `store` is the form in which Auth keeps an e-mail. -/
def EmailCall.next (store : String → String) (env : Env) (answers : Bool) (s : AccountStores) :
    EmailCall → EmailCall × AccountStores
  | .change actorId requestedSchoolId userId email =>
    inDatabase answers (startEmailChange env actorId requestedSchoolId userId email) s <|
      orEnd fun action => .changeAuth action.id userId email
  | .changeAuth actionId userId email =>
    if answers && (s.auth userId).isSome then
      (.changeUpdated actionId userId (store email),
        { s with auth := Function.update s.auth userId (some (store email)) })
    else (.changeFailed actionId, s)
  | .changeFailed actionId =>
    inDatabase answers (updateActionStatus actionId .failed) s <|
      orEnd fun _ => .ended (.error (.badGateway "Email could not be changed in Auth"))
  | .changeUpdated actionId userId email =>
    inDatabase answers (updateActionStatus actionId .authUpdated) s <|
      orEnd fun _ => .changeFinish actionId userId email
  | .changeFinish actionId userId email =>
    inDatabase answers (finishEmailAction env actionId userId email) s fun
      | .ok _ => .ended (.ok { id := userId, email := some email })
      | .error _ => .changeRepair actionId
  | .changeRepair actionId =>
    inDatabase answers (updateActionStatus actionId .repairRequired) s <|
      orEnd fun _ =>
        .ended (.error (.badGateway "Email changed in Auth; account synchronization required"))
  | .reconcile actorId requestedSchoolId userId =>
    inDatabase answers (Prog.query fun db => scopedAccount db actorId requestedSchoolId userId) s <|
      orEnd fun _ => .reconcileAction userId
  | .reconcileAction userId =>
    inDatabase answers (Prog.query fun db => findEmailAction db userId) s <|
      orEnd fun found => .reconcileAuth found.1 found.2 userId
  | .reconcileAuth action newValue userId =>
    match s.auth userId, answers with
    | some authEmail, true => (settle action newValue userId authEmail, s)
    | _, _ => (.ended (.error (.badGateway "Auth user unavailable")), s)
  | .reconcileFailed actionId userId =>
    inDatabase answers (updateActionStatus actionId .failed) s <|
      orEnd fun _ => .ended (.ok { id := userId, status := some .failed })
  | .reconcileFinish actionId userId email =>
    inDatabase answers (finishEmailAction env actionId userId email) s <|
      orEnd fun _ => .ended (.ok { id := userId, email := some email, status := some .completed })
  | .ended result => (.ended result, s)

/-! ### Interleavings -/

/-- Calls that run at the same time. -/
structure EmailSystem (ι : Type) where
  stores : AccountStores
  calls : ι → EmailCall

/-- The next transaction or request of the call `i`. -/
def EmailSystem.resume {ι : Type} [DecidableEq ι] (store : String → String) (s : EmailSystem ι)
    (i : ι) (env : Env) (answers : Bool) : EmailSystem ι :=
  let r := (s.calls i).next store env answers s.stores
  ⟨r.2, Function.update s.calls i r.1⟩

end OSK
