import Mathlib.Logic.Relation
import OskManager.Accounts.AccountWrites
import OskManager.Sample.SmallSchool

/-! The e-mail of an account is kept here and in Auth, and calls that change or reconcile it run at
the same time. The two agree whenever no change is open, provided that no call acts on what it has
seen before: an update reaches Auth while its action is open, and what is written of Auth is still
so. The code makes sure of neither. -/

namespace OSK

open Relational

/-! ### What a step does -/

/-- The action whose update has not reached Auth. -/
def EmailCall.awaits : EmailCall → Option Uuid
  | .changeAuth actionId _ _ | .changeFailed actionId => some actionId
  | _ => none

/-- The action that a call goes on with is a row of the account. -/
def EmailCall.Grounded (db : Db) : EmailCall → Prop
  | .changeAuth actionId userId email => ∃ a, db.accountActions.findUnique actionId = some a ∧
      a.targetId = userId ∧ a.newValue = some email ∧
      a.oldValue.map String.toLower ≠ some email.toLower
  | .changeFailed actionId => ∃ a, db.accountActions.findUnique actionId = some a
  | .changeUpdated actionId userId _ | .changeFinish actionId userId _
  | .reconcileFailed actionId userId | .reconcileFinish actionId userId _ =>
    ∃ a, db.accountActions.findUnique actionId = some a ∧ a.targetId = userId
  | .reconcileAuth action _ userId =>
    ∃ a, db.accountActions.findUnique action.id = some a ∧ a.targetId = userId
  | .change _ _ _ _ | .changeRepair _ | .reconcile _ _ _ | .reconcileAction _ | .ended _ => True

theorem EmailCall.Grounded.mono {db db' : Db} {c : EmailCall} (h : c.Grounded db)
    (hkeeps : db.KeepsActions db') : c.Grounded db' := by
  cases c with
  | changeAuth actionId userId email =>
    obtain ⟨a, ha, htarget, hnew, hold⟩ := h
    obtain ⟨b, hb, htarget', hold', hnew'⟩ := hkeeps _ _ ha
    exact ⟨b, hb, htarget'.trans htarget, hnew'.trans hnew, by rwa [hold']⟩
  | changeFailed actionId =>
    obtain ⟨a, ha⟩ := h
    obtain ⟨b, hb, _⟩ := hkeeps _ _ ha
    exact ⟨b, hb⟩
  | changeUpdated | changeFinish | reconcileFailed | reconcileFinish | reconcileAuth =>
    obtain ⟨a, ha, htarget⟩ := h
    obtain ⟨b, hb, htarget', _⟩ := hkeeps _ _ ha
    exact ⟨b, hb, htarget'.trans htarget⟩
  | change | changeRepair | reconcile | reconcileAction | ended => trivial

/-- The steps of the calls, by what they do to the two stores. -/
inductive EmailEffect (store : String → String) (answers : Bool) (s : AccountStores) :
    EmailCall → EmailCall → AccountStores → Prop where
  | quiet {c c' : EmailCall} (hawaits : c'.awaits = none ∨ c'.awaits = c.awaits)
      (hgrounded : c.Grounded s.db → c'.Grounded s.db) : EmailEffect store answers s c c' s
  | started {c : EmailCall} {env : Env} {data : NewAction} {email : String}
      (hnew : data.newValue = some email)
      (hold : data.oldValue.map String.toLower ≠ some email.toLower) :
      EmailEffect store answers s c (.changeAuth (s.db.nextAction env data).id data.targetId email)
        { s with db := s.db.insertAction env data }
  | applied {actionId userId : Uuid} {email : String} (hanswers : answers = true) :
      EmailEffect store answers s (.changeAuth actionId userId email)
        (.changeUpdated actionId userId (store email))
        { s with auth := Function.update s.auth userId (some (store email)) }
  | marked {c c' : EmailCall} {actionId : Uuid} {status : AccountActionStatus}
      (hopen : status.isOpen = true) (hawaits : c'.awaits = none)
      (hgrounded : c.Grounded s.db → c'.Grounded s.db) :
      EmailEffect store answers s c c' { s with db := s.db.setActionStatus actionId status }
  | failed {c : EmailCall} {actionId : Uuid} {result : Except Failure EmailResult}
      (hanswers : answers = true)
      (hc : c = .changeFailed actionId ∨ ∃ userId, c = .reconcileFailed actionId userId) :
      EmailEffect store answers s c (.ended result)
        { s with db := s.db.setActionStatus actionId .failed }
  | finished {c : EmailCall} {now : Instant} {actionId userId : Uuid} {email : String}
      {result : Except Failure EmailResult} (hanswers : answers = true)
      (hc : c = .changeFinish actionId userId email ∨ c = .reconcileFinish actionId userId email)
      (huser : ∃ user, s.db.users.findUnique userId = some user) :
      EmailEffect store answers s c (.ended result)
        { s with db := s.db.finished now actionId userId email }

section Step

variable {store : String → String} {env : Env} {answers : Bool} {s : AccountStores}

theorem EmailEffect.ends {c : EmailCall} (result : Except Failure EmailResult) :
    EmailEffect store answers s c (.ended result) s := .quiet (Or.inl rfl) fun _ => trivial

/-- A transaction succeeds, or it fails and leaves the database as it was. -/
theorem inDatabase_cases {α : Type} {p : Service α} {next : Except Failure α → EmailCall}
    (hfails : Prog.FailsWithin (fun s t => t = s) p) :
    (∃ a db', answers = true ∧ p s.db = (.ok a, db') ∧
      inDatabase answers p s next = (next (.ok a), { s with db := db' })) ∨
      ∃ e, inDatabase answers p s next = (next (.error e), s) := by
  cases answers with
  | false => exact Or.inr ⟨_, rfl⟩
  | true =>
    rcases hp : p s.db with ⟨e | a, db'⟩
    · refine Or.inr ⟨e, ?_⟩
      have hsame : db' = s.db := hfails _ _ _ hp
      rw [inDatabase, if_pos rfl, hp, hsame]
    · exact Or.inl ⟨a, db', rfl, rfl, by rw [inDatabase, if_pos rfl, hp]⟩

theorem query_fails {α : Type} (f : Db → Except Failure α) :
    Prog.FailsWithin (fun s t => t = s) (Prog.query f : Service α) :=
  Prog.FailsWithin.of_keeps (Prog.Keeps.query (R := fun s t => t = s) (fun _ => rfl) f)

theorem settle_effect {action : AccountAction} {newValue authEmail : String} {userId : Uuid}
    {c : EmailCall} (hc : c = .reconcileAuth action newValue userId) :
    EmailEffect store answers s c (settle action newValue userId authEmail) s := by
  subst hc
  unfold settle
  split
  · split
    · exact .quiet (Or.inl rfl) id
    · exact .ends _
  · exact .quiet (Or.inl rfl) id

/-- A step in the database by what it does when the transaction succeeds and when it does not. -/
theorem inDatabase_effect {α : Type} {p : Service α} {next : Except Failure α → EmailCall}
    {c : EmailCall} (hfails : Prog.FailsWithin (fun s t => t = s) p)
    (hok : ∀ a db', answers = true → p s.db = (.ok a, db') →
      EmailEffect store answers s c (next (.ok a)) { s with db := db' })
    (herror : ∀ e, EmailEffect store answers s c (next (.error e)) s) :
    EmailEffect store answers s c (inDatabase answers p s next).1
      (inDatabase answers p s next).2 := by
  rcases inDatabase_cases hfails with ⟨a, db', hanswers, hrun, heq⟩ | ⟨e, heq⟩
  · rw [heq]
    exact hok a db' hanswers hrun
  · rw [heq]
    exact herror e

theorem next_effect (c : EmailCall) :
    EmailEffect store answers s c (c.next store env answers s).1 (c.next store env answers s).2 := by
  cases c with
  | change actionId schoolId userId email =>
    refine inDatabase_effect (startEmailChange_fails actionId userId schoolId email)
      (fun _ _ _ hrun => ?_) fun _ => .ends _
    obtain ⟨data, rfl, rfl, rfl, hnew, hold⟩ := startEmailChange_ok hrun
    exact .started hnew hold
  | changeAuth actionId userId email =>
    rw [EmailCall.next]
    split
    · next hanswers => exact .applied (Bool.and_eq_true_iff.mp hanswers).1
    · refine .quiet (Or.inr rfl) fun h => ?_
      obtain ⟨a, ha, _⟩ := h
      exact ⟨a, ha⟩
  | changeFailed actionId =>
    refine inDatabase_effect (updateActionStatus_fails actionId .failed)
      (fun _ _ hanswers hrun => ?_) fun _ => .ends _
    rw [updateActionStatus_ok hrun]
    exact .failed hanswers (Or.inl rfl)
  | changeUpdated actionId userId email =>
    refine inDatabase_effect (updateActionStatus_fails actionId .authUpdated)
      (fun _ _ _ hrun => ?_) fun _ => .ends _
    rw [updateActionStatus_ok hrun]
    exact .marked rfl rfl id
  | changeFinish actionId userId email =>
    refine inDatabase_effect (finishEmailAction_fails actionId userId email)
      (fun _ _ hanswers hrun => ?_) fun _ => .quiet (Or.inl rfl) fun _ => trivial
    obtain ⟨huser, rfl⟩ := finishEmailAction_ok hrun
    exact .finished hanswers (Or.inl rfl) huser
  | changeRepair actionId =>
    refine inDatabase_effect (updateActionStatus_fails actionId .repairRequired)
      (fun _ _ _ hrun => ?_) fun _ => .ends _
    rw [updateActionStatus_ok hrun]
    exact .marked rfl rfl id
  | reconcile actorId schoolId userId =>
    refine inDatabase_effect (query_fails fun db => scopedAccount db actorId schoolId userId)
      (fun _ _ _ hrun => ?_) fun _ => .ends _
    obtain ⟨_, rfl⟩ := Prog.query_eq_ok.mp hrun
    exact .quiet (Or.inl rfl) fun _ => trivial
  | reconcileAction userId =>
    refine inDatabase_effect (query_fails fun db => findEmailAction db userId)
      (fun _ _ _ hrun => ?_) fun _ => .ends _
    obtain ⟨hfound, rfl⟩ := Prog.query_eq_ok.mp hrun
    obtain ⟨hrow, htarget⟩ := findEmailAction_ok hfound
    exact .quiet (Or.inl rfl) fun _ => ⟨_, hrow, htarget⟩
  | reconcileAuth action newValue userId =>
    rcases hauth : s.auth userId with _ | authEmail
    · simp only [EmailCall.next, hauth]
      exact .ends _
    · cases answers with
      | false =>
        simp only [EmailCall.next, hauth]
        exact .ends _
      | true =>
        simp only [EmailCall.next, hauth]
        exact settle_effect rfl
  | reconcileFailed actionId userId =>
    refine inDatabase_effect (updateActionStatus_fails actionId .failed)
      (fun _ _ hanswers hrun => ?_) fun _ => .ends _
    rw [updateActionStatus_ok hrun]
    exact .failed hanswers (Or.inr ⟨userId, rfl⟩)
  | reconcileFinish actionId userId email =>
    refine inDatabase_effect (finishEmailAction_fails actionId userId email)
      (fun _ _ hanswers hrun => ?_) fun _ => .ends _
    obtain ⟨huser, rfl⟩ := finishEmailAction_ok hrun
    exact .finished hanswers (Or.inr rfl) huser
  | ended result => exact .ends _

end Step

/-! ### Agreement -/

/-- The e-mail here is the one in Auth. -/
def AccountStores.Agree (s : AccountStores) (userId : Uuid) : Prop :=
  (s.db.users.findUnique userId).map User.email = s.auth userId

instance (s : AccountStores) (userId : Uuid) : Decidable (s.Agree userId) :=
  inferInstanceAs (Decidable ((s.db.users.findUnique userId).map User.email = s.auth userId))

/-- The account has no action in `PENDING`, `AUTH_UPDATED` or `REPAIR_REQUIRED`. -/
def Db.NoOpenAction (db : Db) (userId : Uuid) : Prop :=
  ∀ a ∈ db.accountActions.rows, a.isOpenFor userId = false

instance (db : Db) (userId : Uuid) : Decidable (db.NoOpenAction userId) :=
  inferInstanceAs (Decidable (∀ a ∈ db.accountActions.rows, a.isOpenFor userId = false))

/-- What a call acts on is still so: the action it updates Auth for is open, the e-mail it writes is
the one in Auth, and Auth has the old e-mail where an open action is failed for that. -/
def EmailCall.isTimely (s : AccountStores) : EmailCall → Bool
  | .changeAuth actionId _ _ =>
    (s.db.accountActions.findUnique actionId).any fun a => a.status.isOpen
  | .changeFinish _ userId email | .reconcileFinish _ userId email =>
    decide (s.auth userId = some email)
  | .reconcileFailed actionId userId =>
    (s.db.accountActions.findUnique actionId).all fun a => !a.status.isOpen ||
      decide ((s.auth userId).map String.toLower = a.oldValue.map String.toLower)
  | _ => true

/-- The open action that has updated Auth but not the database. -/
structure EmailSystem.Ahead {ι : Type} (s : EmailSystem ι) (userId : Uuid) (a : AccountAction) :
    Prop where
  mem : a ∈ s.stores.db.accountActions.rows
  isOpen : a.isOpenFor userId = true
  auth : (s.stores.auth userId).map String.toLower = a.newValue.map String.toLower
  changes : a.oldValue.map String.toLower ≠ a.newValue.map String.toLower
  reached : ∀ i, (s.calls i).awaits ≠ some a.id

/-- The e-mails of an account agree, or an open action is ahead of the database. -/
structure EmailSystem.Tracked {ι : Type} (s : EmailSystem ι) (userId : Uuid) : Prop where
  agreeOr : s.stores.Agree userId ∨ ∃ a, s.Ahead userId a
  grounded : ∀ i, (s.calls i).Grounded s.stores.db
  distinct : ∀ i j id, (s.calls i).awaits = some id → (s.calls j).awaits = some id → i = j

section Run

variable {ι : Type} [DecidableEq ι] {store : String → String} {s t : EmailSystem ι} {i : ι}
  {userId : Uuid} {c' : EmailCall} {stores' : AccountStores}

theorem awaits_mem_keys {db : Db} {c : EmailCall} {id : Uuid} (h : c.awaits = some id)
    (hgrounded : c.Grounded db) : id ∈ db.accountActions.keys := by
  have hrow : ∃ a, db.accountActions.findUnique id = some a := by
    cases c with
    | changeAuth =>
      cases h
      obtain ⟨a, ha, _⟩ := hgrounded
      exact ⟨a, ha⟩
    | changeFailed =>
      cases h
      exact hgrounded
    | _ => cases h
  obtain ⟨a, ha⟩ := hrow
  exact (Table.mem_keys _ _).mpr ⟨a, Table.mem_of_findUnique ha, Table.key_of_findUnique ha⟩

/-- The awaiting calls after a step, where the step awaits nothing new. -/
theorem awaits_update (hawaits : c'.awaits = none ∨ c'.awaits = (s.calls i).awaits) {j : ι}
    {id : Uuid} (h : (Function.update s.calls i c' j).awaits = some id) :
    (s.calls j).awaits = some id := by
  by_cases hj : j = i
  · subst hj
    rw [Function.update_self] at h
    rcases hawaits with hnone | hsame
    · rw [hnone] at h
      cases h
    · rwa [← hsame]
  · rwa [Function.update_of_ne hj] at h

/-- A step that awaits nothing new keeps what the calls hold, if the rows stay. -/
theorem EmailSystem.Tracked.keep (h : s.Tracked userId)
    (hawaits : c'.awaits = none ∨ c'.awaits = (s.calls i).awaits)
    (hkeeps : s.stores.db.KeepsActions stores'.db)
    (hgrounded : c'.Grounded stores'.db)
    (hagree : stores'.Agree userId ∨
      ∃ a, (⟨stores', Function.update s.calls i c'⟩ : EmailSystem ι).Ahead userId a) :
    (⟨stores', Function.update s.calls i c'⟩ : EmailSystem ι).Tracked userId where
  agreeOr := hagree
  grounded j := by
    by_cases hj : j = i
    · subst hj
      simpa using hgrounded
    · simp only [Function.update_of_ne hj]
      exact (h.grounded j).mono hkeeps
  distinct j k id hj hk :=
    h.distinct j k id (awaits_update hawaits hj) (awaits_update hawaits hk)

/-- The action is still ahead after a step that leaves it open and Auth's e-mail alone. -/
theorem EmailSystem.Ahead.keep {a b : AccountAction} (h : s.Ahead userId a)
    (hawaits : c'.awaits = none ∨ c'.awaits = (s.calls i).awaits ∨ c'.awaits ≠ some a.id)
    (hmem : b ∈ stores'.db.accountActions.rows) (hopen : b.isOpenFor userId = true)
    (hid : b.id = a.id) (hold : b.oldValue = a.oldValue) (hnew : b.newValue = a.newValue)
    (hauth : stores'.auth userId = s.stores.auth userId) :
    (⟨stores', Function.update s.calls i c'⟩ : EmailSystem ι).Ahead userId b where
  mem := hmem
  isOpen := hopen
  auth := by
    rw [hauth, hnew]
    exact h.auth
  changes := by
    rw [hold, hnew]
    exact h.changes
  reached j := by
    rw [hid]
    by_cases hj : j = i
    · subst hj
      simp only [Function.update_self]
      rcases hawaits with hnone | hsame | hother
      · rw [hnone]
        exact fun hc => nomatch hc
      · rw [hsame]
        exact h.reached j
      · exact hother
    · simp only [Function.update_of_ne hj]
      exact h.reached j

/-- A new action is awaited by its own call only. -/
theorem EmailSystem.Tracked.started (h : s.Tracked userId) {env : Env} {data : NewAction}
    {email : String} (hnew : data.newValue = some email)
    (hold : data.oldValue.map String.toLower ≠ some email.toLower) :
    (⟨{ s.stores with db := s.stores.db.insertAction env data },
      Function.update s.calls i (.changeAuth (s.stores.db.nextAction env data).id data.targetId
        email)⟩ : EmailSystem ι).Tracked userId := by
  have hkeeps : s.stores.db.KeepsActions (s.stores.db.insertAction env data) :=
    insertAction_keeps data
  have hnot : ∀ k, (s.calls k).awaits ≠ some (s.stores.db.nextAction env data).id :=
    fun k hk => nextAction_fresh env s.stores.db data (awaits_mem_keys hk (h.grounded k))
  refine ⟨?_, fun j => ?_, fun j k id hj hk => ?_⟩
  · rcases h.agreeOr with hagree | ⟨a, ha⟩
    · exact Or.inl hagree
    · have hother : some (s.stores.db.nextAction env data).id ≠ some a.id := by
        intro hid
        refine nextAction_fresh env s.stores.db data ((Table.mem_keys _ _).mpr ⟨a, ha.mem, ?_⟩)
        exact (Option.some_inj.mp hid).symm
      exact Or.inr ⟨a, ha.keep (Or.inr (Or.inr hother)) (mem_insertAction.mpr (Or.inl ha.mem))
        ha.isOpen rfl rfl rfl rfl⟩
  · by_cases hj : j = i
    · subst hj
      simp only [Function.update_self]
      exact ⟨_, by rw [findUnique_insertAction, if_pos rfl], rfl, hnew, hold⟩
    · simp only [Function.update_of_ne hj]
      exact (h.grounded j).mono hkeeps
  · dsimp only at hj hk
    by_cases hji : j = i <;> by_cases hki : k = i
    · rw [hji, hki]
    · rw [hji, Function.update_self] at hj
      rw [Function.update_of_ne hki] at hk
      exact absurd (hk.trans hj.symm) (hnot k)
    · rw [hki, Function.update_self] at hk
      rw [Function.update_of_ne hji] at hj
      exact absurd (hj.trans hk.symm) (hnot j)
    · rw [Function.update_of_ne hji] at hj
      rw [Function.update_of_ne hki] at hk
      exact h.distinct j k id hj hk

/-- Auth takes the e-mail of an open action, which is then ahead of the database. -/
theorem EmailSystem.Tracked.applied (hstore : ∀ e, (store e).toLower = e.toLower)
    (h : s.Tracked userId) {actionId v : Uuid} {email : String}
    (hcall : s.calls i = .changeAuth actionId v email)
    (htimely : (s.calls i).isTimely s.stores = true) :
    (⟨{ s.stores with auth := Function.update s.stores.auth v (some (store email)) },
      Function.update s.calls i (.changeUpdated actionId v (store email))⟩ :
      EmailSystem ι).Tracked userId := by
  have hgi := h.grounded i
  rw [hcall] at hgi htimely
  obtain ⟨a, hfind, htarget, hnew, hold⟩ := hgi
  have hopen : a.status.isOpen = true := by
    rwa [EmailCall.isTimely, hfind, Option.any_some] at htimely
  refine h.keep (Or.inl rfl) (Db.KeepsActions.refl _) ⟨a, hfind, htarget⟩ ?_
  by_cases hv : v = userId
  · subst hv
    refine Or.inr ⟨a, Table.mem_of_findUnique hfind, isOpenFor_eq_true.mpr ⟨htarget, hopen⟩,
      ?_, ?_, fun j hj => ?_⟩
    · simp only [Function.update_self, Option.map_some, hstore, hnew]
    · rw [hnew]
      exact hold
    · -- The call that waited for this update has gone on.
      by_cases hji : j = i
      · subst hji
        simp [EmailCall.awaits] at hj
      · simp only [Function.update_of_ne hji] at hj
        refine hji (h.distinct j i _ hj ?_)
        rw [hcall, EmailCall.awaits, Table.key_of_findUnique hfind]
  · have hauth : Function.update s.stores.auth v (some (store email)) userId =
        s.stores.auth userId := Function.update_of_ne (Ne.symm hv) _ _
    rcases h.agreeOr with hagree | ⟨b, hb⟩
    · exact Or.inl (Eq.trans hagree hauth.symm)
    · exact Or.inr ⟨b, hb.keep (Or.inl rfl) hb.mem hb.isOpen rfl rfl rfl hauth⟩

/-- An action is marked with a status in which it is still open. -/
theorem EmailSystem.Tracked.marked (h : s.Tracked userId) {actionId : Uuid}
    {status : AccountActionStatus} (hopen : status.isOpen = true) (hawaits : c'.awaits = none)
    (hgrounded : c'.Grounded s.stores.db) :
    (⟨{ s.stores with db := s.stores.db.setActionStatus actionId status },
      Function.update s.calls i c'⟩ : EmailSystem ι).Tracked userId := by
  refine h.keep (Or.inl hawaits) (setActionStatus_keeps _ _)
    (hgrounded.mono (setActionStatus_keeps _ _)) ?_
  rcases h.agreeOr with hagree | ⟨a, ha⟩
  · exact Or.inl hagree
  · refine Or.inr ⟨_, ha.keep (Or.inl hawaits) (mem_setActionStatus _ _ ha.mem) ?_ ?_ ?_ ?_ rfl⟩
    · split
      · exact isOpenFor_eq_true.mpr ⟨(isOpenFor_eq_true.mp ha.isOpen).1, hopen⟩
      · exact ha.isOpen
    all_goals split <;> rfl

/-- The action that a timely call fails is not the one that is ahead. -/
theorem EmailSystem.Tracked.failed (h : s.Tracked userId) {actionId : Uuid}
    {result : Except Failure EmailResult}
    (hcall : s.calls i = .changeFailed actionId ∨ ∃ v, s.calls i = .reconcileFailed actionId v)
    (htimely : (s.calls i).isTimely s.stores = true) :
    (⟨{ s.stores with db := s.stores.db.setActionStatus actionId .failed },
      Function.update s.calls i (.ended result)⟩ : EmailSystem ι).Tracked userId := by
  have hgi := h.grounded i
  refine h.keep (Or.inl rfl) (setActionStatus_keeps _ _) trivial ?_
  rcases h.agreeOr with hagree | ⟨a, ha⟩
  · exact Or.inl hagree
  · have hne : a.id ≠ actionId := by
      intro hid
      rcases hcall with hc | ⟨v, hc⟩
      · refine ha.reached i ?_
        rw [hc, hid, EmailCall.awaits]
      · obtain ⟨htarget, hopen⟩ := isOpenFor_eq_true.mp ha.isOpen
        have hfind := Table.findUnique_of_mem ha.mem
        rw [hc] at hgi htimely
        obtain ⟨b, hb, hbv⟩ := hgi
        rw [hid] at hfind
        obtain rfl : a = b := Option.some_inj.mp (hfind.symm.trans hb)
        rw [EmailCall.isTimely, hfind, Option.all_some, hopen, Bool.not_true, Bool.false_or,
          decide_eq_true_eq, ← hbv, htarget] at htimely
        exact ha.changes (htimely.symm.trans ha.auth)
    have hmem := mem_setActionStatus actionId .failed ha.mem
    rw [if_neg hne] at hmem
    exact Or.inr ⟨a, ha.keep (Or.inl rfl) hmem ha.isOpen rfl rfl rfl rfl⟩

/-- The database takes the e-mail that Auth has. -/
theorem EmailSystem.Tracked.finished (h : s.Tracked userId) {now : Instant}
    {actionId v : Uuid} {email : String} {result : Except Failure EmailResult}
    (hcall : s.calls i = .changeFinish actionId v email ∨
      s.calls i = .reconcileFinish actionId v email)
    (huser : ∃ user, s.stores.db.users.findUnique v = some user)
    (htimely : (s.calls i).isTimely s.stores = true) :
    (⟨{ s.stores with db := s.stores.db.finished now actionId v email },
      Function.update s.calls i (.ended result)⟩ : EmailSystem ι).Tracked userId := by
  have hgi := h.grounded i
  have hground : ∃ b, s.stores.db.accountActions.findUnique actionId = some b ∧
      b.targetId = v := by
    rcases hcall with hc | hc <;> rw [hc] at hgi <;> exact hgi
  have hauth : s.stores.auth v = some email := by
    rcases hcall with hc | hc <;> rw [hc] at htimely <;> exact of_decide_eq_true htimely
  refine h.keep (Or.inl rfl) finished_keeps trivial ?_
  by_cases hv : userId = v
  · subst hv
    obtain ⟨user, huser⟩ := huser
    refine Or.inl ?_
    unfold AccountStores.Agree
    rw [email_finished, if_pos rfl, huser, hauth]
    rfl
  · rcases h.agreeOr with hagree | ⟨a, ha⟩
    · refine Or.inl ?_
      unfold AccountStores.Agree
      rw [email_finished, if_neg hv]
      exact hagree
    · -- The finished action is of another account.
      have hne : a.id ≠ actionId := by
        intro hid
        obtain ⟨b, hb, rfl⟩ := hground
        have hfind := Table.findUnique_of_mem ha.mem
        rw [hid] at hfind
        obtain rfl : a = b := Option.some_inj.mp (hfind.symm.trans hb)
        exact hv (isOpenFor_eq_true.mp ha.isOpen).1.symm
      have hmem := mem_finished now v email ha.mem hne
      exact Or.inr ⟨a, ha.keep (Or.inl rfl) hmem ha.isOpen rfl rfl rfl rfl⟩

/-- One transaction or request that acts on what is still so. -/
theorem EmailSystem.Tracked.step (hstore : ∀ e, (store e).toLower = e.toLower)
    (h : s.Tracked userId) {env : Env} {answers : Bool}
    (htimely : answers = true → (s.calls i).isTimely s.stores = true) :
    (s.resume store i env answers).Tracked userId := by
  have heffect : EmailEffect store answers s.stores (s.calls i)
    ((s.calls i).next store env answers s.stores).1
    ((s.calls i).next store env answers s.stores).2 := next_effect _
  have hgi := h.grounded i
  unfold EmailSystem.resume
  dsimp only
  generalize (s.calls i).next store env answers s.stores = next at heffect
  obtain ⟨c', stores'⟩ := next
  generalize hcall : s.calls i = c at heffect hgi
  cases heffect with
  | quiet hawaits hgrounded =>
    rw [← hcall] at hawaits
    refine h.keep hawaits (Db.KeepsActions.refl _) (hgrounded hgi) ?_
    rcases h.agreeOr with hagree | ⟨a, ha⟩
    · exact Or.inl hagree
    · exact Or.inr ⟨a, ha.keep (hawaits.imp_right Or.inl) ha.mem ha.isOpen rfl rfl rfl rfl⟩
  | started hnew hold => exact h.started hnew hold
  | applied hanswers => exact h.applied hstore hcall (htimely hanswers)
  | marked hopen hawaits hgrounded => exact h.marked hopen hawaits (hgrounded hgi)
  | failed hanswers hc =>
    rw [← hcall] at hc
    exact h.failed hc (htimely hanswers)
  | finished hanswers hc huser =>
    rw [← hcall] at hc
    exact h.finished hc huser (htimely hanswers)

/-! ### Whole runs -/

/-- Whose transaction or request comes next, when, and whether the other side does its work. -/
structure EmailTurn (ι : Type) where
  call : ι
  env : Env
  answers : Bool

def EmailSystem.run (store : String → String) : EmailSystem ι → List (EmailTurn ι) → EmailSystem ι
  | s, [] => s
  | s, turn :: rest => (s.resume store turn.call turn.env turn.answers).run store rest

/-- Every turn of the run acts on what is still so. -/
def EmailSystem.isTimely (store : String → String) : EmailSystem ι → List (EmailTurn ι) → Bool
  | _, [] => true
  | s, turn :: rest => (!turn.answers || (s.calls turn.call).isTimely s.stores) &&
      (s.resume store turn.call turn.env turn.answers).isTimely store rest

/-- A call that has not begun. -/
def EmailCall.isNew : EmailCall → Bool
  | .change _ _ _ _ | .reconcile _ _ _ => true
  | _ => false

/-- A call that has returned its result. -/
def EmailCall.hasSucceeded : EmailCall → Bool
  | .ended (.ok _) => true
  | _ => false

omit [DecidableEq ι] in
theorem EmailSystem.Tracked.start (hnew : ∀ i, (s.calls i).isNew = true)
    (hagree : s.stores.Agree userId) : s.Tracked userId where
  agreeOr := Or.inl hagree
  grounded i := by
    have hi := hnew i
    generalize s.calls i = c at hi
    cases c with
    | change | reconcile => trivial
    | _ => cases hi
  distinct i _ _ hi _ := by
    have hi' := hnew i
    generalize s.calls i = c at hi hi'
    cases c with
    | change | reconcile => cases hi
    | _ => cases hi'

theorem EmailSystem.Tracked.run (hstore : ∀ e, (store e).toLower = e.toLower)
    (h : s.Tracked userId) {turns : List (EmailTurn ι)} (htimely : s.isTimely store turns = true) :
    (s.run store turns).Tracked userId := by
  induction turns generalizing s with
  | nil => exact h
  | cons turn rest ih =>
    rw [EmailSystem.isTimely, Bool.and_eq_true] at htimely
    obtain ⟨hturn, hrest⟩ := htimely
    refine ih (h.step hstore fun hanswers => ?_) hrest
    rwa [hanswers, Bool.not_true, Bool.false_or] at hturn

/-- In a run whose calls act on what is still so, an account without an open action has the same
e-mail here and in Auth. -/
theorem emailChange_agrees (hstore : ∀ e, (store e).toLower = e.toLower)
    (hnew : ∀ i, (s.calls i).isNew = true) (hagree : s.stores.Agree userId)
    {turns : List (EmailTurn ι)} (htimely : s.isTimely store turns = true)
    (hnone : (s.run store turns).stores.db.NoOpenAction userId) :
    (s.run store turns).stores.Agree userId := by
  rcases ((EmailSystem.Tracked.start hnew hagree).run hstore htimely).agreeOr with h | ⟨a, ha⟩
  · exact h
  · exact absurd ha.isOpen (by rw [hnone a ha.mem]; decide)

end Run

/-! ### Two changes and a repair -/

namespace EmailRace

def db : Db :=
  { SmallSchool.db with
    users := ⟨[{ id := 1, role := .manager, email := "manager@osk.pl" },
      { id := 3, role := .student, email := "old@osk.pl" }], by decide⟩ }

/-- Two changes of the student's e-mail and a reconciliation, with equal e-mails. -/
def start : EmailSystem (Fin 3) where
  stores := { db, auth := fun userId => if userId = 3 then some "old@osk.pl" else none }
  calls
    | 0 => .change 1 (some 10) 3 "first@osk.pl"
    | 1 => .reconcile 1 (some 10) 3
    | 2 => .change 1 (some 10) 3 "second@osk.pl"

def turn (call : Fin 3) : EmailTurn (Fin 3) :=
  { call, env := SmallSchool.envAt (SmallSchool.clock 20000 10 0), answers := true }

/-- The first change comes to its end, and then the second one. -/
def inTurn : List (EmailTurn (Fin 3)) := [0, 0, 0, 0, 2, 2, 2, 2].map turn

/-- The first change stops when it has updated Auth and is completed by the reconciliation; it goes
on after the second change. -/
def overtaken : List (EmailTurn (Fin 3)) := [0, 0, 1, 1, 1, 1, 2, 2, 2, 2, 0, 0].map turn

end EmailRace

open EmailRace in
theorem emailChange_agrees_inTurn :
    (start.run id inTurn).stores.Agree 3 :=
  emailChange_agrees (fun _ => rfl) (by decide +kernel) (by decide +kernel) (by decide +kernel)
    (by decide +kernel)

open EmailRace in
/-- All three calls succeed, no action is open, and the database has the first e-mail while Auth has
the second. -/
theorem emailChange_diverges :
    (∀ i, (start.calls i).isNew = true) ∧ start.stores.Agree 3 ∧
      (∀ i, ((start.run id overtaken).calls i).hasSucceeded = true) ∧
      (start.run id overtaken).stores.db.NoOpenAction 3 ∧
      ¬(start.run id overtaken).stores.Agree 3 := by
  refine ⟨?_, ?_, ?_, ?_, ?_⟩ <;> decide +kernel

end OSK
