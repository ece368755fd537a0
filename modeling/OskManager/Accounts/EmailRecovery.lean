import OskManager.Accounts.AccountChanges

/-! A change of an e-mail that has stopped between the two stores. A reconciliation that nothing
disturbs ends it, if Auth has the e-mail of before or after the change. -/

namespace OSK

open Relational

/-- The steps of a call that nothing disturbs, at the given times. -/
def EmailCall.alone (store : String → String) (c : EmailCall) (s : AccountStores) :
    List Env → EmailCall × AccountStores
  | [] => (c, s)
  | env :: rest => (c.next store env true s).1.alone store (c.next store env true s).2 rest

/-- Auth has the e-mail of after the change, which is free here, or the one of before it. -/
def AccountStores.Settles (s : AccountStores) (user : User) (a : AccountAction)
    (newValue authEmail : String) : Prop :=
  if authEmail.toLower = newValue.toLower then s.db.emailTaken user authEmail = false
  else some authEmail.toLower = a.oldValue.map String.toLower

section Recovery

variable {store : String → String} {s : AccountStores} {actorId userId : Uuid}
  {schoolId : Option Uuid} {account : ScopedAccount} {a : AccountAction}
  {newValue authEmail : String}

/-- The open change of an account is the one that is found. -/
theorem findEmailAction_sole {db : Db} (h : db.ChangesApart) (ha : a ∈ db.accountActions.rows)
    (hopen : a.isOpenFor userId = true) (hkind : a.action = .emailChange)
    (hnew : a.newValue = some newValue) (hne : newValue.isEmpty = false) :
    findEmailAction db userId = .ok (a, newValue) := by
  have hsole : ((db.accountActions.findMany fun b =>
      b.isOpenFor userId && decide (b.action = .emailChange)).insertionSort
        fun b c => c.createdAt ≤ b.createdAt).head? = some a := by
    generalize hsorted : ((db.accountActions.findMany fun b =>
      b.isOpenFor userId && decide (b.action = .emailChange)).insertionSort
        fun b c => c.createdAt ≤ b.createdAt) = sorted
    have hmem : ∀ b, b ∈ sorted ↔ b ∈ db.accountActions.rows ∧ b.isOpenFor userId = true ∧
        b.action = .emailChange := by
      intro b
      rw [← hsorted, List.mem_insertionSort, Table.mem_findMany, Bool.and_eq_true,
        decide_eq_true_eq]
    cases sorted with
    | nil => exact absurd ((hmem a).mpr ⟨ha, hopen, hkind⟩) List.not_mem_nil
    | cons b rest =>
      obtain ⟨hb, hbopen, -⟩ := (hmem b).mp List.mem_cons_self
      obtain ⟨htarget, hstatus⟩ := isOpenFor_eq_true.mp hopen
      obtain ⟨hbtarget, hbstatus⟩ := isOpenFor_eq_true.mp hbopen
      rw [h.oneOpen b hb a ha (hbtarget.trans htarget.symm) hbstatus hstatus]
      rfl
  have hvalue : a.newValue.filter (fun v => !v.isEmpty) = some newValue := by
    rw [hnew, Option.filter_some, hne, Bool.not_false, if_pos rfl]
  simp only [findEmailAction, except_bind_eq_ok, orThrow_eq_ok]
  exact ⟨a, hsole, newValue, hvalue, rfl⟩

theorem alone_cons (c : EmailCall) (env : Env) (rest : List Env) :
    c.alone store s (env :: rest) =
      (c.next store env true s).1.alone store (c.next store env true s).2 rest := rfl

/-- The first three steps of a reconciliation find out which of the e-mails Auth has. -/
theorem reconcile_settles (h : s.db.ChangesApart)
    (hscope : scopedAccount s.db actorId schoolId userId = .ok account)
    (ha : a ∈ s.db.accountActions.rows) (hopen : a.isOpenFor userId = true)
    (hkind : a.action = .emailChange) (hnew : a.newValue = some newValue)
    (hne : newValue.isEmpty = false) (hauth : s.auth userId = some authEmail)
    (e₁ e₂ e₃ : Env) (rest : List Env) :
    (EmailCall.reconcile actorId schoolId userId).alone store s (e₁ :: e₂ :: e₃ :: rest) =
      (settle a newValue userId authEmail).alone store s rest := by
  have hfirst : (EmailCall.reconcile actorId schoolId userId).next store e₁ true s =
      (.reconcileAction userId, s) := by
    simp only [EmailCall.next, inDatabase, if_true, Prog.query, hscope, orEnd]
  have hsecond : (EmailCall.reconcileAction userId).next store e₂ true s =
      (.reconcileAuth a newValue userId, s) := by
    simp only [EmailCall.next, inDatabase, if_true, Prog.query,
      findEmailAction_sole h ha hopen hkind hnew hne, orEnd]
  have hthird : (EmailCall.reconcileAuth a newValue userId).next store e₃ true s =
      (settle a newValue userId authEmail, s) := by
    simp only [EmailCall.next, hauth]
  rw [alone_cons, hfirst, alone_cons, hsecond, alone_cons, hthird]

/-- A status that closes an action is always written. -/
theorem updateActionStatus_run {db : Db} {status : AccountActionStatus}
    (ha : a ∈ db.accountActions.rows) (hclosed : status.isOpen = false) :
    updateActionStatus a.id status db = (.ok (), db.setActionStatus a.id status) := by
  simp only [updateActionStatus, Prog.query_bind_eq_ok, Prog.write_eq_ok, except_bind_eq_ok,
    orThrow_eq_ok, throwIf_eq_ok, hclosed, Bool.false_eq_true, false_and, not_false_eq_true]
  exact ⟨(), ⟨a, Table.findUnique_of_mem ha, trivial⟩, trivial⟩

theorem finishEmailAction_run {db : Db} {user : User} {email : String} {env : Env}
    (huser : db.users.findUnique userId = some user) (ha : a ∈ db.accountActions.rows) :
    finishEmailAction env a.id userId email db =
      if db.emailTaken user email = true then (.error (.other "Unique constraint failed"), db)
      else (.ok (), db.finished env.now a.id userId email) := by
  have hcheck : (do
      let user ← orThrow (db.users.findUnique userId) (.other "Record to update not found")
      throwIf (db.emailTaken user email = true) (.other "Unique constraint failed")) =
      throwIf (db.emailTaken user email = true) (Failure.other "Unique constraint failed") := by
    rw [huser]
    rfl
  split
  · next htaken =>
    apply Prog.transaction_of_error
    apply Prog.bind_of_error
    rw [Prog.query, hcheck, throwIf, if_pos htaken]
  · next hfree =>
    have hwritten : a ∈ (db.withAccountEmail env.now userId email).accountActions.rows := ha
    have hstatus : updateActionStatus a.id .completed (db.withAccountEmail env.now userId email) =
        (.ok (), db.finished env.now a.id userId email) := updateActionStatus_run hwritten rfl
    rw [finishEmailAction, Prog.transaction_eq_ok, Prog.query_bind_eq_ok]
    refine ⟨(), ?_, ?_⟩
    · rw [hcheck, throwIf, if_neg hfree]
    · exact hstatus

/-- Once its open action is closed, an account has none. -/
theorem noOpenAction_closed {db : Db} (h : db.ChangesApart) (ha : a ∈ db.accountActions.rows)
    (hopen : a.isOpenFor userId = true) {status : AccountActionStatus}
    (hclosed : status.isOpen = false) : (db.setActionStatus a.id status).NoOpenAction userId := by
  intro b hb
  rw [← Bool.not_eq_true]
  intro hbopen
  obtain ⟨htarget, hstatus⟩ := isOpenFor_eq_true.mp hopen
  obtain ⟨hbtarget, hbstatus⟩ := isOpenFor_eq_true.mp hbopen
  rcases mem_setActionStatus_cases hb with ⟨hb, hid⟩ | ⟨c, -, -, rfl⟩
  · exact hid (congrArg _ (h.oneOpen b hb a ha (hbtarget.trans htarget.symm) hbstatus hstatus))
  · rw [AccountAction.withStatus, hclosed] at hbstatus
    cases hbstatus

/-- The last step of a reconciliation. -/
theorem settle_alone (h : s.db.ChangesApart)
    (huser : s.db.users.findUnique userId = some account.user)
    (ha : a ∈ s.db.accountActions.rows) (hopen : a.isOpenFor userId = true)
    (hauth : s.auth userId = some authEmail) (env : Env) :
    (s.Settles account.user a newValue authEmail → ∃ result s',
      (settle a newValue userId authEmail).alone store s [env] = (.ended (.ok result), s') ∧
        s'.auth = s.auth ∧ s'.db.NoOpenAction userId ∧
        (authEmail.toLower = newValue.toLower → s'.Agree userId)) ∧
      (¬s.Settles account.user a newValue authEmail →
        ∃ e, (settle a newValue userId authEmail).alone store s [env] = (.ended (.error e), s)) := by
  unfold AccountStores.Settles settle
  by_cases hsame : authEmail.toLower = newValue.toLower
  · -- Auth has the new e-mail, which the database takes unless another account has it.
    simp only [hsame, if_true, ne_eq, not_true_eq_false, if_false, EmailCall.alone, EmailCall.next,
      inDatabase, finishEmailAction_run huser ha]
    refine ⟨fun hfree => ?_, fun htaken => ?_⟩
    · rw [hfree, if_neg Bool.false_ne_true]
      refine ⟨_, _, rfl, rfl, ?_, fun _ => ?_⟩
      · have hbefore : (s.db.withAccountEmail env.now userId authEmail).ChangesApart :=
          h.of_actions rfl
        exact noOpenAction_closed hbefore ha hopen rfl
      · unfold AccountStores.Agree
        rw [email_finished, if_pos rfl, huser, hauth]
        rfl
    · rw [if_pos (Bool.not_eq_false _ ▸ htaken)]
      exact ⟨_, rfl⟩
  · simp only [hsame, if_false, ne_eq, not_false_eq_true, if_true]
    by_cases hold : some authEmail.toLower = a.oldValue.map String.toLower
    · have hfailed : updateActionStatus a.id .failed s.db =
          (.ok (), s.db.setActionStatus a.id .failed) := updateActionStatus_run ha rfl
      simp only [hold, if_true, EmailCall.alone, EmailCall.next, inDatabase, hfailed]
      exact ⟨fun _ => ⟨_, _, rfl, rfl, noOpenAction_closed h ha hopen rfl, fun hc => hc.elim⟩,
        fun hc => absurd trivial hc⟩
    · rw [if_neg hold]
      exact ⟨fun hc => absurd hc hold, fun _ => ⟨_, rfl⟩⟩

end Recovery

/-- Whatever has happened before: a reconciliation of an open change that nothing disturbs ends it
if Auth has the e-mail of before or after the change and the database can take it, and otherwise
fails and changes nothing. -/
theorem reconcile_recovers {ι : Type} [DecidableEq ι] {runtime : AccountRuntime}
    (start : AccountSystem ι) (hstart : start.stores.db.ChangesApart) (turns : List (AccountTurn ι))
    {s : AccountStores} (hs : (start.run runtime turns).stores = s) {actorId userId : Uuid}
    {schoolId : Option Uuid} {account : ScopedAccount}
    (hscope : scopedAccount s.db actorId schoolId userId = .ok account) {a : AccountAction}
    (ha : a ∈ s.db.accountActions.rows) (hopen : a.isOpenFor userId = true)
    (hkind : a.action = .emailChange) {newValue authEmail : String}
    (hnew : a.newValue = some newValue) (hne : newValue.isEmpty = false)
    (hauth : s.auth userId = some authEmail) (e₁ e₂ e₃ e₄ : Env) :
    (s.Settles account.user a newValue authEmail → ∃ result s',
      (EmailCall.reconcile actorId schoolId userId).alone runtime.store s [e₁, e₂, e₃, e₄] =
          (.ended (.ok result), s') ∧
        s'.auth = s.auth ∧ s'.db.NoOpenAction userId ∧
        (authEmail.toLower = newValue.toLower → s'.Agree userId)) ∧
      (¬s.Settles account.user a newValue authEmail → ∃ e,
        (EmailCall.reconcile actorId schoolId userId).alone runtime.store s [e₁, e₂, e₃, e₄] =
          (.ended (.error e), s)) := by
  have hapart : s.db.ChangesApart := hs ▸ (AccountSystem.run_keeps hstart turns).1
  rw [reconcile_settles hapart hscope ha hopen hkind hnew hne hauth e₁ e₂ e₃ [e₄]]
  exact settle_alone hapart (scopedAccount_ok hscope).1 ha hopen hauth e₄

namespace StoppedChange

open ResetAndRename (runtime)

def turn : AccountTurn (Fin 1) :=
  { call := 0, env := SmallSchool.envAt (SmallSchool.clock 20000 10 0), answers := true }

def start : AccountSystem (Fin 1) where
  stores := EmailRace.start.stores
  calls _ := .email (.change 1 (some 10) 3 "first@osk.pl")

/-- The change has updated Auth when its server stops. -/
def stopped : AccountStores := (start.run runtime [turn, turn]).stores

def env : Env := SmallSchool.envAt (SmallSchool.clock 20000 11 0)

end StoppedChange

open StoppedChange in
theorem reconcile_recovers_stoppedChange : ∃ result s',
    (EmailCall.reconcile 1 (some 10) 3).alone id stopped [env, env, env, env] =
        (.ended (.ok result), s') ∧
      s'.auth = stopped.auth ∧ s'.db.NoOpenAction 3 ∧ s'.Agree 3 := by
  have hopen : stopped.db.accountActions.rows.any (fun a => a.isOpenFor 3 &&
      decide (a.action = .emailChange ∧ a.newValue = some "first@osk.pl")) = true := by
    decide +kernel
  obtain ⟨a, ha, hopen⟩ := List.any_eq_true.mp hopen
  rw [Bool.and_eq_true, decide_eq_true_eq] at hopen
  have hscoped : (scopedAccount stopped.db 1 (some 10) 3).isOk = true := by decide +kernel
  have hfree : ∀ u ∈ stopped.db.users.rows, stopped.db.emailTaken u "first@osk.pl" = false := by
    decide +kernel
  have hauth : stopped.auth 3 = some "first@osk.pl" := by decide +kernel
  cases hscope : scopedAccount stopped.db 1 (some 10) 3 with
  | error e =>
    rw [hscope] at hscoped
    cases hscoped
  | ok account =>
    have huser := Table.mem_of_findUnique (scopedAccount_ok hscope).1
    have hsettles : stopped.Settles account.user a "first@osk.pl" "first@osk.pl" := by
      rw [AccountStores.Settles, if_pos rfl]
      exact hfree _ huser
    have hstopped : (start.run ResetAndRename.runtime [turn, turn]).stores = stopped := rfl
    obtain ⟨result, s', hrun, hkept, hnone, hagree⟩ := (reconcile_recovers start (.of_none rfl)
      [turn, turn] hstopped hscope ha hopen.1 hopen.2.1 hopen.2.2 (by decide) hauth
      env env env env).1 hsettles
    exact ⟨result, s', hrun, hkept, hnone, hagree rfl⟩

end OSK
