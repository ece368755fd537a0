import Mathlib.Algebra.Order.Group.Unbundled.Abs
import OskManager.Accounts.EmailAgreement
import OskManager.Model.AccountChanges

/-! What any interleaving of the calls that change accounts keeps to: an account has one open change
at a time, password resets are five minutes apart, and nothing but its e-mail is changed of an
account that is archived. -/

namespace OSK

open Relational

/-! ### What a transaction does -/

/-- Nothing is open or being requested for the account. -/
def Db.IsIdle (env : Env) (db : Db) (userId : Uuid) : Prop :=
  ∀ a ∈ db.accountActions.rows, a.isPendingChange env userId = false

structure Db.Available (env : Env) (db : Db) (userId : Uuid) : Prop where
  live : ∀ u, db.users.findUnique userId = some u → u.deletedAt = none
  idle : db.IsIdle env userId

/-- The two databases differ in the users and sessions of one account only. -/
structure Db.SameBut (userId : Uuid) (db db' : Db) : Prop where
  accountActions : db'.accountActions = db.accountActions
  studentSchools : db'.studentSchools = db.studentSchools
  instructorSchools : db'.instructorSchools = db.instructorSchools
  users : ∀ id, id ≠ userId → db'.users.findUnique id = db.users.findUnique id

/-- What a transaction of a call may have done to the database. -/
inductive AccountEffect (env : Env) (db : Db) : Db → Prop where
  | quiet : AccountEffect env db db
  | acted {mid : Db} (data : NewAction) (havailable : db.Available env data.targetId)
      (hmid : db.SameBut data.targetId mid) : AccountEffect env db (mid.insertAction env data)
  | settled {actionId : Uuid} {status : AccountActionStatus} (hstatus : status ≠ .requesting)
      (hfree : status.isOpen = true → ∀ a, db.accountActions.findUnique actionId = some a →
        db.hasOtherOpenAction actionId a.targetId = false) :
      AccountEffect env db (db.setActionStatus actionId status)
  | finished {actionId targetId : Uuid} {email : String} :
      AccountEffect env db (db.finished env.now actionId targetId email)
  | transferred {userId studentId schoolId : Uuid} {profile : StudentProfile}
      (hprofile : profile ∈ db.studentProfiles.rows) (huser : profile.userId = userId)
      (hid : profile.id = studentId) (hidle : db.IsIdle env userId) :
      AccountEffect env db (db.replaceStudentSchool studentId schoolId)

section Effects

variable {env : Env} {db db' : Db} {actorId userId : Uuid} {schoolId : Option Uuid}

theorem Db.SameBut.refl (userId : Uuid) (db : Db) : db.SameBut userId db :=
  ⟨rfl, rfl, rfl, fun _ _ => rfl⟩

theorem Db.SameBut.updateUser (userId : Uuid) (db : Db) (f : User → User)
    (hf : ∀ u, (f u).id = u.id) : db.SameBut userId (db.updateUser userId f hf) := by
  refine ⟨rfl, rfl, rfl, fun id hid => ?_⟩
  have hfind := Table.findUnique_update db.users userId f hf id
  rw [if_neg hid] at hfind
  exact hfind

theorem isPendingChange_eq_false {a : AccountAction} : a.isPendingChange env userId = false ↔
    a.isOpenFor userId = false ∧ a.isResetInProgress env userId = false :=
  Bool.or_eq_false_iff

/-- An account in scope that passes `requireAvailable`. -/
theorem available_of_scoped {account : ScopedAccount}
    (hscoped : scopedAccount db actorId schoolId userId = .ok account) {u : Unit}
    (h : requireAvailable env db account = .ok u) : db.Available env userId := by
  obtain ⟨huser, -, hactions⟩ := scopedAccount_ok hscoped
  have hid : account.user.id = userId := Table.key_of_findUnique huser
  simp only [requireAvailable, except_bind_eq_ok, throwIf_eq_ok, not_not] at h
  obtain ⟨_, hlive, _, hopen, hreset⟩ := h
  constructor
  · intro u hu
    rw [huser] at hu
    cases hu
    exact hlive
  · intro a ha
    rw [isPendingChange_eq_false]
    constructor
    · rw [hactions, Table.findMany, List.filter_eq_nil_iff] at hopen
      exact Bool.not_eq_true _ ▸ hopen a ha
    · rw [hid, Table.count, List.length_eq_zero_iff, Table.findMany,
        List.filter_eq_nil_iff] at hreset
      exact Bool.not_eq_true _ ▸ hreset a ha

theorem updateManagerAccountProfile_effect {data : AccountProfileData} {updated : User}
    (h : updateManagerAccountProfile env actorId schoolId userId data db = (.ok updated, db')) :
    AccountEffect env db db' := by
  rw [updateManagerAccountProfile, Prog.transaction_eq_ok, Prog.query_bind_eq_ok] at h
  obtain ⟨account, haccount, h⟩ := h
  simp only [except_bind_eq_ok] at haccount
  obtain ⟨_, hscoped, _, havailable, heq⟩ := haccount
  cases heq
  simp only [writeManagerAccountProfile, Prog.bind_eq_ok, Prog.write_eq_ok, Prog.pure_eq_ok] at h
  obtain ⟨_, _, ⟨_, _, rfl, _, _, hcreate, _, rfl⟩, _, rfl⟩ := h
  rw [(createAction_ok hcreate).2]
  exact .acted _ (available_of_scoped hscoped havailable) (.updateUser ..)

theorem Db.SameBut.revokeSessions {mid : Db} (h : db.SameBut userId mid) (now : Instant) :
    db.SameBut userId (mid.revokeSessions now userId) :=
  ⟨h.accountActions, h.studentSchools, h.instructorSchools, h.users⟩

theorem setManagerAccountActive_effect {isActive : Bool} {r : AccountStatusResult}
    (h : setManagerAccountActive env actorId schoolId userId isActive db = (.ok r, db')) :
    AccountEffect env db db' := by
  rw [setManagerAccountActive, Prog.transaction_eq_ok, Prog.query_bind_eq_ok] at h
  obtain ⟨account, haccount, h⟩ := h
  simp only [except_bind_eq_ok] at haccount
  obtain ⟨_, hscoped, _, havailable, heq⟩ := haccount
  cases heq
  split at h
  · obtain ⟨_, rfl⟩ := Prog.pure_eq_ok.mp h
    exact .quiet
  · simp only [writeManagerAccountActive, Prog.bind_eq_ok, Prog.write_eq_ok, Prog.pure_eq_ok] at h
    obtain ⟨_, _, rfl, _, _, rfl, _, _, hcreate, _, rfl⟩ := h
    rw [(createAction_ok hcreate).2]
    exact .acted _ (available_of_scoped hscoped havailable)
      ((Db.SameBut.updateUser ..).revokeSessions _)

theorem archiveManagerAccount_effect {r : Uuid}
    (h : archiveManagerAccount env actorId schoolId userId db = (.ok r, db')) :
    AccountEffect env db db' := by
  rw [archiveManagerAccount, Prog.transaction_eq_ok, Prog.query_bind_eq_ok] at h
  obtain ⟨account, haccount, h⟩ := h
  simp only [Prog.bind_eq_ok, Prog.when_eq_ok, Prog.pure_eq_ok, decide_eq_true_eq,
    decide_eq_false_iff_not] at h
  obtain ⟨_, _, ⟨hlive, hwrite⟩ | ⟨-, rfl⟩, _, rfl⟩ := h
  · simp only [prepareArchive, except_bind_eq_ok, onlyIf_eq_ok] at haccount
    obtain ⟨account', hscoped, _, havailable, heq⟩ := haccount
    cases heq
    obtain ⟨_, havailable, -⟩ := havailable hlive
    simp only [writeArchiveAccount, Prog.bind_eq_ok, Prog.write_eq_ok, Prog.pure_eq_ok] at hwrite
    obtain ⟨_, _, rfl, _, _, rfl, _, _, hcreate, _, rfl⟩ := hwrite
    rw [(createAction_ok hcreate).2]
    exact .acted _ (available_of_scoped hscoped havailable)
      ((Db.SameBut.updateUser ..).revokeSessions _)
  · exact .quiet

theorem startPasswordReset_effect {r : ScopedAccount × AccountAction}
    (h : startPasswordReset env actorId schoolId userId db = (.ok r, db')) :
    AccountEffect env db db' := by
  rw [startPasswordReset, Prog.transaction_eq_ok, Prog.query_bind_eq_ok] at h
  obtain ⟨account, haccount, h⟩ := h
  simp only [except_bind_eq_ok, throwIf_eq_ok] at haccount
  obtain ⟨_, hscoped, _, havailable, _, hactive, heq⟩ := haccount
  cases heq
  simp only [Prog.bind_eq_ok, Prog.pure_eq_ok] at h
  obtain ⟨_, _, hcreate, _, rfl⟩ := h
  rw [(createAction_ok hcreate).2]
  exact .acted _ (available_of_scoped hscoped havailable) (.refl _ _)

theorem startEmailChange_effect {email : String} {action : AccountAction}
    (h : startEmailChange env actorId schoolId userId email db = (.ok action, db')) :
    AccountEffect env db db' := by
  rw [startEmailChange, Prog.transaction_eq_ok, Prog.query_bind_eq_ok] at h
  obtain ⟨account, haccount, hcreate⟩ := h
  simp only [except_bind_eq_ok, throwIf_eq_ok] at haccount
  obtain ⟨_, hscoped, _, havailable, _, hnew, _, hpending, heq⟩ := haccount
  cases heq
  rw [(createAction_ok hcreate).2]
  exact .acted _ (available_of_scoped hscoped havailable) (.refl _ _)

theorem updateActionStatus_effect {actionId : Uuid} {status : AccountActionStatus}
    (hstatus : status ≠ .requesting) {u : Unit}
    (h : updateActionStatus actionId status db = (.ok u, db')) : AccountEffect env db db' := by
  simp only [updateActionStatus, Prog.query_bind_eq_ok, Prog.write_eq_ok, except_bind_eq_ok,
    orThrow_eq_ok, throwIf_eq_ok, not_and, Bool.not_eq_true] at h
  obtain ⟨_, ⟨action, hfind, hfree⟩, rfl⟩ := h
  refine .settled hstatus fun hopen a ha => ?_
  rw [hfind] at ha
  cases ha
  exact hfree hopen

theorem transferStudent_effect {actor : Actor} {school : Uuid} {u : Unit}
    (h : transferStudent env actor userId school db = (.ok u, db')) : AccountEffect env db db' := by
  rw [transferStudent, Prog.transaction_eq_ok, Prog.query_bind_eq_ok] at h
  obtain ⟨_, hchecks, h⟩ := h
  simp only [except_bind_eq_ok, throwIf_eq_ok, not_not] at hchecks
  obtain ⟨_, hpending, _⟩ := hchecks
  rw [attachStudentToSchoolReplaceInTx, Prog.query_bind_eq_ok] at h
  obtain ⟨profile, hprofile, h⟩ := h
  simp only [except_bind_eq_ok, orThrow_eq_ok] at hprofile
  obtain ⟨_, _, hprofile⟩ := hprofile
  obtain ⟨hmem, huser⟩ := Table.mem_of_findFirst hprofile
  obtain ⟨_, rfl⟩ := Prog.write_eq_ok.mp h
  refine .transferred hmem (of_decide_eq_true huser) rfl fun a ha => ?_
  rw [Table.count, List.length_eq_zero_iff, Table.findMany, List.filter_eq_nil_iff] at hpending
  exact Bool.not_eq_true _ ▸ hpending a ha

/-- A transaction that succeeds does what it does, and one that fails does nothing. -/
theorem transact_effect {answers : Bool} {s : AccountStores} {α κ : Type} {p : Service α}
    {next : Except Failure α → κ} (hfails : Prog.FailsWithin (fun s t => t = s) p)
    (hok : ∀ a db', p s.db = (.ok a, db') → AccountEffect env s.db db') :
    AccountEffect env s.db (s.transact answers p next).2.db := by
  unfold AccountStores.transact
  split
  · rcases hp : p s.db with ⟨e | a, db'⟩
    · have hsame : db' = s.db := hfails _ _ _ hp
      rw [hsame]
      exact .quiet
    · exact hok a db' hp
  · exact .quiet

variable {runtime : AccountRuntime} {answers : Bool} {s : AccountStores}

theorem inDatabase_account {α : Type} {p : Service α} {next : Except Failure α → EmailCall}
    (hfails : Prog.FailsWithin (fun s t => t = s) p)
    (hok : ∀ a db', p s.db = (.ok a, db') → AccountEffect env s.db db') :
    AccountEffect env s.db (inDatabase answers p s next).2.db := by
  have heffect : AccountEffect env s.db (s.transact answers p next).2.db :=
    transact_effect hfails hok
  exact heffect

theorem EmailCall.next_account (store : String → String) (c : EmailCall) :
    AccountEffect env s.db (c.next store env answers s).2.db := by
  cases c with
  | change actorId schoolId userId email =>
    exact inDatabase_account (startEmailChange_fails actorId userId schoolId email)
      fun _ _ => startEmailChange_effect
  | changeAuth =>
    rw [EmailCall.next]
    split <;> exact .quiet
  | changeFailed actionId | reconcileFailed actionId userId =>
    exact inDatabase_account (updateActionStatus_fails actionId .failed)
      fun _ _ h => updateActionStatus_effect (by decide) h
  | changeUpdated actionId userId email =>
    exact inDatabase_account (updateActionStatus_fails actionId .authUpdated)
      fun _ _ h => updateActionStatus_effect (by decide) h
  | changeFinish actionId userId email | reconcileFinish actionId userId email =>
    have hfails : Prog.FailsWithin (fun s t => t = s)
        (finishEmailAction env actionId userId email) := finishEmailAction_fails actionId userId email
    refine inDatabase_account hfails fun _ _ h => ?_
    rw [(finishEmailAction_ok h).2]
    exact .finished
  | changeRepair actionId =>
    exact inDatabase_account (updateActionStatus_fails actionId .repairRequired)
      fun _ _ h => updateActionStatus_effect (by decide) h
  | reconcile | reconcileAction =>
    refine inDatabase_account (query_fails _) fun _ _ h => ?_
    obtain ⟨_, rfl⟩ := Prog.query_eq_ok.mp h
    exact .quiet
  | reconcileAuth action newValue userId =>
    rw [show (EmailCall.next store env answers s (.reconcileAuth action newValue userId)).2 = s by
      rcases hauth : s.auth userId with _ | authEmail <;> cases answers <;>
        simp only [EmailCall.next, hauth]]
    exact .quiet
  | ended => exact .quiet

/-- One transaction or request of any call. -/
theorem AccountCall.next_account (c : AccountCall) :
    AccountEffect env s.db (c.next runtime env answers s).2.db := by
  cases c with
  | email c => exact c.next_account runtime.store
  | profile =>
    exact transact_effect (Prog.FailsWithin.unchanged _)
      fun _ _ => updateManagerAccountProfile_effect
  | active =>
    exact transact_effect (Prog.FailsWithin.unchanged _) fun _ _ => setManagerAccountActive_effect
  | archive =>
    exact transact_effect (Prog.FailsWithin.unchanged _) fun _ _ => archiveManagerAccount_effect
  | reset =>
    rw [AccountCall.next]
    split
    · exact .quiet
    · exact transact_effect (Prog.FailsWithin.unchanged _) fun _ _ => startPasswordReset_effect
  | resetMail => exact .quiet
  | resetSettled actionId sent =>
    refine transact_effect (updateActionStatus_fails actionId _) fun _ _ =>
      updateActionStatus_effect ?_
    cases sent <;> exact nofun
  | transfer =>
    rw [AccountCall.next]
    split
    · exact .quiet
    · refine transact_effect (query_fails _) fun _ _ h => ?_
      obtain ⟨_, rfl⟩ := Prog.query_eq_ok.mp h
      exact .quiet
  | transferLinks =>
    exact transact_effect (Prog.FailsWithin.unchanged _) fun _ _ => transferStudent_effect
  | transferSchool =>
    refine transact_effect (query_fails _) fun _ _ h => ?_
    obtain ⟨_, rfl⟩ := Prog.query_eq_ok.mp h
    exact .quiet
  | ended => exact .quiet

end Effects

/-! ### What every transaction keeps -/

/-- A password reset whose mail is not known to be sent. -/
def AccountAction.IsRequested (a : AccountAction) : Prop :=
  a.action = .passwordResetRequest ∧ a.status = .requesting

/-- An account has one open action at most, and its unsettled password resets were begun five
minutes apart. -/
structure Db.ChangesApart (db : Db) : Prop where
  oneOpen : ∀ a ∈ db.accountActions.rows, ∀ b ∈ db.accountActions.rows, a.targetId = b.targetId →
    a.status.isOpen = true → b.status.isOpen = true → a = b
  resets : ∀ a ∈ db.accountActions.rows, ∀ b ∈ db.accountActions.rows, a.targetId = b.targetId →
    a.IsRequested → b.IsRequested → a ≠ b → 5 * 60000 ≤ |a.createdAt - b.createdAt|

def Db.actionsOf (db : Db) (userId : Uuid) : List AccountAction :=
  db.accountActions.findMany fun a => decide (a.targetId = userId)

/-- The account has the actions that it had, if with other statuses. -/
def Db.SameActions (userId : Uuid) (db db' : Db) : Prop :=
  ∃ status : AccountAction → AccountActionStatus,
    db'.actionsOf userId = (db.actionsOf userId).map fun a => a.withStatus (status a)

/-- The user is as it was, if with another e-mail. -/
def Db.SameAccount (userId : Uuid) (db db' : Db) : Prop :=
  ∀ u, db.users.findUnique userId = some u →
    ∃ email, db'.users.findUnique userId = some (u.withEmail email)

/-- The user but for its e-mail, its links with schools as a student and as an instructor, and its
actions but for their statuses are as they were. -/
structure Db.LeavesAlone (userId : Uuid) (db db' : Db) : Prop where
  user : db.SameAccount userId db'
  studentLinks : ∀ p ∈ db.studentProfiles.rows, p.userId = userId →
    db'.studentSchools.findUnique p.id = db.studentSchools.findUnique p.id
  instructorLinks : db'.instructorSchools = db.instructorSchools
  actions : db.SameActions userId db'

/-- Users that are archived keep all but their e-mail, and get no action. -/
def Db.KeepsArchived (db db' : Db) : Prop :=
  ∀ userId u, db.users.findUnique userId = some u → u.deletedAt ≠ none →
    db.SameAccount userId db' ∧ db.SameActions userId db'

section Steps

variable {env : Env} {db db' mid : Db} {userId : Uuid}

theorem mem_acted {data : NewAction} (hmid : db.SameBut data.targetId mid) {a : AccountAction} :
    a ∈ (mid.insertAction env data).accountActions.rows ↔
      a ∈ db.accountActions.rows ∨ a = mid.nextAction env data := by
  rw [mem_insertAction, hmid.accountActions]

/-- The rows after a change of a status. -/
theorem mem_setActionStatus_cases {actionId : Uuid} {status : AccountActionStatus}
    {a : AccountAction} (ha : a ∈ (db.setActionStatus actionId status).accountActions.rows) :
    (a ∈ db.accountActions.rows ∧ a.id ≠ actionId) ∨
      ∃ b ∈ db.accountActions.rows, b.id = actionId ∧ a = b.withStatus status := by
  rcases Table.mem_updateMany_cases (AccountAction.id_withStatus status) ha with
    ⟨hmem, hid⟩ | ⟨b, hb, hid, rfl⟩
  · exact Or.inl ⟨hmem, of_decide_eq_false hid⟩
  · exact Or.inr ⟨b, hb, of_decide_eq_true hid, rfl⟩

theorem not_other_open {actionId targetId : Uuid}
    (h : db.hasOtherOpenAction actionId targetId = false) {a : AccountAction}
    (ha : a ∈ db.accountActions.rows) (hid : a.id ≠ actionId)
    (htarget : a.targetId = targetId) : a.status.isOpen = false := by
  rw [Db.hasOtherOpenAction, List.any_eq_false] at h
  have hrow := h a ha
  rw [AccountAction.isOpenFor, decide_eq_true hid, decide_eq_true htarget] at hrow
  simpa using hrow

/-- No pending change of the account: its rows are settled, or begun five minutes ago. -/
theorem settled_of_idle {a : AccountAction} (h : a.isPendingChange env userId = false)
    (htarget : a.targetId = userId) :
    a.status.isOpen = false ∧ (a.IsRequested → a.createdAt ≤ env.now - 5 * 60000) := by
  obtain ⟨hopen, hreset⟩ := isPendingChange_eq_false.mp h
  constructor
  · rw [AccountAction.isOpenFor, decide_eq_true htarget, Bool.true_and] at hopen
    exact hopen
  · intro hrequested
    rw [AccountAction.isResetInProgress, decide_eq_false_iff_not] at hreset
    exact not_lt.mp fun hlt => hreset ⟨htarget, hrequested.1, hrequested.2, hlt⟩

theorem Db.ChangesApart.acted (h : db.ChangesApart) {data : NewAction}
    (havailable : db.Available env data.targetId) (hmid : db.SameBut data.targetId mid) :
    (mid.insertAction env data).ChangesApart := by
  have hold : ∀ b ∈ db.accountActions.rows, b.targetId = data.targetId → b.status.isOpen = false ∧
      (b.IsRequested → b.createdAt ≤ env.now - 5 * 60000) := fun b hb htarget =>
    settled_of_idle (havailable.idle b hb) htarget
  have hnow : (mid.nextAction env data).createdAt = env.now := rfl
  have htargetNew : (mid.nextAction env data).targetId = data.targetId := rfl
  constructor
  · intro a ha b hb htarget haopen hbopen
    rcases (mem_acted hmid).mp ha with ha | rfl <;> rcases (mem_acted hmid).mp hb with hb | rfl
    · exact h.oneOpen a ha b hb htarget haopen hbopen
    · rw [(hold a ha (htarget.trans htargetNew)).1] at haopen
      cases haopen
    · rw [(hold b hb (htarget.symm.trans htargetNew)).1] at hbopen
      cases hbopen
    · rfl
  · intro a ha b hb htarget hareq hbreq hne
    rcases (mem_acted hmid).mp ha with ha | rfl <;> rcases (mem_acted hmid).mp hb with hb | rfl
    · exact h.resets a ha b hb htarget hareq hbreq hne
    · have hle := (hold a ha (htarget.trans htargetNew)).2 hareq
      rw [hnow, abs_sub_comm]
      exact (le_sub_comm.mp hle).trans (le_abs_self _)
    · have hle := (hold b hb (htarget.symm.trans htargetNew)).2 hbreq
      rw [hnow]
      exact (le_sub_comm.mp hle).trans (le_abs_self _)
    · exact absurd rfl hne

theorem Db.ChangesApart.settled (h : db.ChangesApart) {actionId : Uuid}
    {status : AccountActionStatus} (hstatus : status ≠ .requesting)
    (hfree : status.isOpen = true → ∀ a, db.accountActions.findUnique actionId = some a →
      db.hasOtherOpenAction actionId a.targetId = false) :
    (db.setActionStatus actionId status).ChangesApart := by
  -- An action that stays open has no other one beside it.
  have halone : ∀ a ∈ db.accountActions.rows, a.id ≠ actionId → ∀ c ∈ db.accountActions.rows,
      c.id = actionId → a.targetId = c.targetId → a.status.isOpen = true →
      status.isOpen = false := by
    intro a ha hid c hc hcid htarget haopen
    rw [← Bool.not_eq_true]
    intro hopen
    have hother := hfree hopen c (hcid ▸ Table.findUnique_of_mem hc)
    rw [not_other_open hother ha hid htarget] at haopen
    cases haopen
  constructor
  · intro a ha b hb htarget haopen hbopen
    rcases mem_setActionStatus_cases ha with ⟨ha, haid⟩ | ⟨c, hc, hcid, rfl⟩ <;>
      rcases mem_setActionStatus_cases hb with ⟨hb, hbid⟩ | ⟨d, hd, hdid, rfl⟩
    · exact h.oneOpen a ha b hb htarget haopen hbopen
    · rw [AccountAction.withStatus, halone a ha haid d hd hdid htarget haopen] at hbopen
      cases hbopen
    · rw [AccountAction.withStatus, halone b hb hbid c hc hcid htarget.symm hbopen] at haopen
      cases haopen
    · rw [db.accountActions.key_inj hc hd (hcid.trans hdid.symm)]
  · intro a ha b hb htarget hareq hbreq
    rcases mem_setActionStatus_cases ha with ⟨ha, -⟩ | ⟨c, -, -, rfl⟩
    · rcases mem_setActionStatus_cases hb with ⟨hb, -⟩ | ⟨d, -, -, rfl⟩
      · exact h.resets a ha b hb htarget hareq hbreq
      · exact absurd hbreq.2 hstatus
    · exact absurd hareq.2 hstatus

/-- No action, no two that are not apart. -/
theorem Db.ChangesApart.of_none (h : db.accountActions.rows = []) : db.ChangesApart := by
  constructor <;> intro a ha <;> rw [h] at ha <;> cases ha

theorem Db.ChangesApart.of_actions (h : db.ChangesApart)
    (hsame : db'.accountActions = db.accountActions) : db'.ChangesApart := by
  constructor
  · rw [hsame]
    exact h.oneOpen
  · rw [hsame]
    exact h.resets

theorem Db.ChangesApart.step (h : db.ChangesApart) (heffect : AccountEffect env db db') :
    db'.ChangesApart := by
  cases heffect with
  | quiet => exact h
  | acted data havailable hmid => exact h.acted havailable hmid
  | settled hstatus hfree => exact h.settled hstatus hfree
  | @finished actionId targetId email =>
    have hbefore : (db.withAccountEmail env.now targetId email).ChangesApart := h.of_actions rfl
    have hcompleted : AccountActionStatus.completed ≠ .requesting := by decide
    exact hbefore.settled hcompleted nofun
  | transferred => exact h.of_actions rfl

theorem Db.SameAccount.refl (userId : Uuid) (db : Db) : db.SameAccount userId db :=
  fun u hu => ⟨u.email, hu⟩

theorem Db.SameActions.of_list {userId : Uuid} (hsame : db'.actionsOf userId = db.actionsOf userId) :
    db.SameActions userId db' :=
  ⟨AccountAction.status, hsame.trans (List.map_id _).symm⟩

theorem Db.SameActions.of_actions (userId : Uuid)
    (hsame : db'.accountActions = db.accountActions) : db.SameActions userId db' :=
  .of_list (congrArg (fun t => Table.findMany t _) hsame)

theorem Db.SameActions.trans {userId : Uuid} (h : db.SameActions userId mid)
    (h' : mid.SameActions userId db') : db.SameActions userId db' := by
  obtain ⟨status, hmid⟩ := h
  obtain ⟨status', hlast⟩ := h'
  rw [hmid, List.map_map] at hlast
  exact ⟨_, hlast⟩

theorem setActionStatus_actions (userId actionId : Uuid) (status : AccountActionStatus) :
    db.SameActions userId (db.setActionStatus actionId status) := by
  refine ⟨fun a => if a.id = actionId then status else a.status, ?_⟩
  have hrows : (db.setActionStatus actionId status).actionsOf userId =
      (db.actionsOf userId).map _ :=
    Table.findMany_updateMany _ _ _ _ (AccountAction.id_withStatus status) fun _ => rfl
  rw [hrows]
  refine List.map_congr_left fun a _ => ?_
  dsimp only
  by_cases hid : a.id = actionId
  · rw [if_pos (decide_eq_true hid), if_pos hid]
  · rw [if_neg (Bool.eq_false_iff.mp (decide_eq_false hid)), if_neg hid]
    rfl

theorem Db.LeavesAlone.refl (userId : Uuid) (db : Db) : db.LeavesAlone userId db where
  user := .refl userId db
  studentLinks _ _ _ := rfl
  instructorLinks := rfl
  actions := .of_actions userId rfl

theorem setActionStatus_alone (userId actionId : Uuid) (status : AccountActionStatus) :
    db.LeavesAlone userId (db.setActionStatus actionId status) where
  user u hu := ⟨u.email, hu⟩
  studentLinks _ _ _ := rfl
  instructorLinks := rfl
  actions := setActionStatus_actions userId actionId status

theorem withAccountEmail_user (userId : Uuid) (now : Instant) (targetId : Uuid) (email : String) :
    db.SameAccount userId (db.withAccountEmail now targetId email) := by
  intro u hu
  have hfind : (db.withAccountEmail now targetId email).users.findUnique userId =
      if userId = targetId then (db.users.findUnique userId).map (User.withEmail email)
      else db.users.findUnique userId :=
    Table.findUnique_update _ _ _ (User.id_withEmail email) _
  rw [hfind, hu]
  split
  · exact ⟨email, rfl⟩
  · exact ⟨u.email, rfl⟩

theorem finished_alone (userId : Uuid) (now : Instant) (actionId targetId : Uuid)
    (email : String) : db.LeavesAlone userId (db.finished now actionId targetId email) := by
  have hstatus : (db.withAccountEmail now targetId email).LeavesAlone userId
      (db.finished now actionId targetId email) :=
    setActionStatus_alone userId actionId .completed
  exact ⟨withAccountEmail_user userId now targetId email, fun _ _ _ => rfl, rfl, hstatus.actions⟩

/-- What is done for another account leaves this one alone. -/
theorem Db.LeavesAlone.acted {data : NewAction} (hmid : db.SameBut data.targetId mid)
    (hother : userId ≠ data.targetId) : db.LeavesAlone userId (mid.insertAction env data) where
  user u hu := ⟨u.email, (hmid.users userId hother).trans hu⟩
  studentLinks _ _ _ := congrArg (fun t => Table.findUnique t _) hmid.studentSchools
  instructorLinks := hmid.instructorSchools
  actions := by
    have hnew : (mid.insertAction env data).actionsOf userId = mid.actionsOf userId :=
      mid.accountActions.findMany_insert_other (r := mid.nextAction env data) (env.uuid_fresh _)
        (decide_eq_false (Ne.symm hother))
    exact .of_list (hnew.trans (congrArg (fun t => Table.findMany t _) hmid.accountActions))

theorem replaceStudentSchool_other {studentId schoolId id : Uuid} (h : id ≠ studentId) :
    (db.replaceStudentSchool studentId schoolId).studentSchools.findUnique id =
      db.studentSchools.findUnique id := by
  rw [Db.replaceStudentSchool, Table.findUnique_insert, if_neg h]
  ext l
  rw [Table.findUnique_eq_some, Table.findUnique_eq_some, Table.mem_deleteMany]
  refine ⟨fun hl => ⟨hl.1.1, hl.2⟩, fun hl => ⟨⟨hl.1, decide_eq_false ?_⟩, hl.2⟩⟩
  rw [hl.2]
  exact h

/-- An account is changed only while nothing is pending for it. -/
theorem AccountEffect.idle_or_alone (heffect : AccountEffect env db db') (userId : Uuid) :
    db.IsIdle env userId ∨ db.LeavesAlone userId db' := by
  cases heffect with
  | quiet => exact Or.inr (.refl _ _)
  | acted data havailable hmid =>
    by_cases hown : userId = data.targetId
    · rw [hown]
      exact Or.inl havailable.idle
    · exact Or.inr (.acted hmid hown)
  | settled => exact Or.inr (setActionStatus_alone ..)
  | finished => exact Or.inr (finished_alone ..)
  | @transferred owner studentId schoolId profile hprofile huser hid hidle =>
    by_cases hown : userId = owner
    · rw [hown]
      exact Or.inl hidle
    · refine Or.inr ⟨.refl userId db, fun p hp hpuser => ?_, rfl, .of_actions userId rfl⟩
      apply replaceStudentSchool_other
      intro hsame
      have hp' := db.studentProfiles.key_inj hp hprofile (hsame.trans hid.symm)
      exact hown (hpuser.symm.trans ((congrArg _ hp').trans huser))

theorem AccountEffect.archived (heffect : AccountEffect env db db') : db.KeepsArchived db' := by
  intro userId u hu harchived
  have halone : ∀ {db' : Db}, db.LeavesAlone userId db' →
      db.SameAccount userId db' ∧ db.SameActions userId db' := fun h => ⟨h.user, h.actions⟩
  cases heffect with
  | quiet => exact halone (.refl _ _)
  | acted data havailable hmid =>
    refine halone (.acted hmid fun hown => ?_)
    rw [hown] at hu
    exact harchived (havailable.live u hu)
  | settled => exact halone (setActionStatus_alone ..)
  | finished => exact halone (finished_alone ..)
  | transferred => exact ⟨.refl userId db, .of_actions userId rfl⟩

theorem Db.KeepsArchived.refl (db : Db) : db.KeepsArchived db := fun userId _ _ _ =>
  ⟨.refl userId db, .of_actions userId rfl⟩

theorem Db.KeepsArchived.trans (h : db.KeepsArchived mid) (h' : mid.KeepsArchived db') :
    db.KeepsArchived db' := by
  intro userId u hu harchived
  obtain ⟨huser, hactions⟩ := h userId u hu harchived
  obtain ⟨email, hmid⟩ := huser u hu
  obtain ⟨huser', hactions'⟩ := h' userId (u.withEmail email) hmid harchived
  obtain ⟨email', hlast⟩ := huser' _ hmid
  constructor
  · intro v hv
    rw [hu] at hv
    cases hv
    exact ⟨email', hlast⟩
  · exact hactions.trans hactions'

end Steps

/-! ### Whole runs -/

section Runs

variable {ι : Type} [DecidableEq ι] {runtime : AccountRuntime}

theorem AccountSystem.run_keeps {s : AccountSystem ι} (h : s.stores.db.ChangesApart)
    (turns : List (AccountTurn ι)) : (s.run runtime turns).stores.db.ChangesApart ∧
      s.stores.db.KeepsArchived (s.run runtime turns).stores.db := by
  induction turns generalizing s with
  | nil => exact ⟨h, .refl _⟩
  | cons turn rest ih =>
    have heffect : AccountEffect turn.env s.stores.db (s.resume runtime turn).stores.db :=
      AccountCall.next_account _
    obtain ⟨hapart, hkeeps⟩ := ih (h.step heffect)
    exact ⟨hapart, heffect.archived.trans hkeeps⟩

/-- Calls of any number, any of whose transactions and requests may fail, in any order and at any
times: the changes of an account stay apart, archived users keep all but their e-mail, and the next
transaction leaves an account alone unless nothing is pending for it. -/
theorem accountChanges_apart (s : AccountSystem ι) (h : s.stores.db.ChangesApart)
    (turns : List (AccountTurn ι)) :
    (s.run runtime turns).stores.db.ChangesApart ∧
      s.stores.db.KeepsArchived (s.run runtime turns).stores.db ∧
      ∀ turn userId, (s.run runtime turns).stores.db.IsIdle turn.env userId ∨
        (s.run runtime turns).stores.db.LeavesAlone userId
          ((s.run runtime turns).resume runtime turn).stores.db := by
  obtain ⟨hapart, hkeeps⟩ := AccountSystem.run_keeps h turns
  refine ⟨hapart, hkeeps, fun turn userId => ?_⟩
  have heffect : AccountEffect turn.env (s.run runtime turns).stores.db
      ((s.run runtime turns).resume runtime turn).stores.db := AccountCall.next_account _
  exact heffect.idle_or_alone userId

end Runs

namespace ResetAndRename

def runtime : AccountRuntime where
  store := id
  newURL path base := .ok (base ++ path)
  frontendUrls := some "https://osk.pl,https://test.osk.pl"

def anna : AccountProfileData := { firstName := "Anna", lastName := "Nowak", phone := none }

/-- A password reset of the student's account and two forms with a new name. -/
def start : AccountSystem (Fin 3) where
  stores := { db := EmailRace.db, auth := fun _ => none }
  calls
    | 0 => .reset 1 (some 10) 3
    | 1 => .profile 1 (some 10) 3 anna
    | 2 => .profile 1 (some 10) 3 anna

def turn (call : Fin 3) : AccountTurn (Fin 3) :=
  { call, env := SmallSchool.envAt (SmallSchool.clock 20000 10 0), answers := true }

def nameAfter (calls : List (Fin 3)) : Option String :=
  ((start.run runtime (calls.map turn)).stores.db.users.findUnique 3).map User.firstName

end ResetAndRename

open ResetAndRename in
/-- The first form is refused while the reset is on its way, the second one is taken after it. -/
theorem accountChanges_apart_resetAndRename :
    nameAfter [0, 1] = some "" ∧ nameAfter [0, 1, 0, 0, 2] = some "Anna" ∧
      (start.run runtime ([0, 1, 0, 0, 2].map turn)).stores.db.ChangesApart :=
  ⟨by decide +kernel, by decide +kernel,
    (accountChanges_apart start (.of_none rfl) _).1⟩

end OSK
