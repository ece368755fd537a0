import OskManager.Model.AccountStatus
import OskManager.Model.EmailChange

/-! What the transactions on accounts write, and that they write nothing when they fail. -/

namespace OSK

open Relational

variable {env : Env} {db db' : Db}

/-- A row of the table is still there, with the same target and values. -/
def Db.KeepsActions (db db' : Db) : Prop :=
  ∀ id a, db.accountActions.findUnique id = some a → ∃ b,
    db'.accountActions.findUnique id = some b ∧ b.targetId = a.targetId ∧
      b.oldValue = a.oldValue ∧ b.newValue = a.newValue

theorem Db.KeepsActions.refl (db : Db) : db.KeepsActions db := fun _ a ha => ⟨a, ha, rfl, rfl, rfl⟩

/-! ### Actions -/

theorem isOpenFor_eq_true {userId : Uuid} {a : AccountAction} :
    a.isOpenFor userId = true ↔ a.targetId = userId ∧ a.status.isOpen = true := by
  simp only [AccountAction.isOpenFor, Bool.and_eq_true, decide_eq_true_eq]

theorem updateActionStatus_ok {actionId : Uuid} {status : AccountActionStatus} {u : Unit}
    (h : updateActionStatus actionId status db = (.ok u, db')) :
    db' = db.setActionStatus actionId status := by
  simp only [updateActionStatus, Prog.query_bind_eq_ok, Prog.write_eq_ok] at h
  obtain ⟨_, _, rfl⟩ := h
  rfl

theorem updateActionStatus_fails (actionId : Uuid) (status : AccountActionStatus) :
    Prog.FailsWithin (fun s t => t = s) (updateActionStatus actionId status) :=
  Prog.FailsWithin.bind (fun _ _ _ h h' => h'.trans h)
    (Prog.Keeps.query (R := fun s t => t = s) (fun _ => rfl) _) fun _ => Prog.FailsWithin.write _

theorem createAction_ok {data : NewAction} {action : AccountAction}
    (h : createAction env data db = (.ok action, db')) :
    action = db.nextAction env data ∧ db' = db.insertAction env data := by
  rw [createAction, Prog.query_bind_eq_ok] at h
  obtain ⟨a, ha, h⟩ := h
  simp only [Prog.bind_eq_ok, Prog.write_eq_ok, Prog.pure_eq_ok] at h
  obtain ⟨_, _, rfl, rfl, rfl⟩ := h
  simp only [except_bind_eq_ok, throwIf_eq_ok] at ha
  obtain ⟨_, _, ha⟩ := ha
  cases ha
  exact ⟨rfl, rfl⟩

theorem setActionStatus_keeps (actionId : Uuid) (status : AccountActionStatus) :
    db.KeepsActions (db.setActionStatus actionId status) := by
  intro id a ha
  rw [Db.setActionStatus, Table.findUnique_update]
  split
  · rw [ha]
    exact ⟨_, rfl, rfl, rfl, rfl⟩
  · exact ⟨a, ha, rfl, rfl, rfl⟩

theorem mem_setActionStatus (actionId : Uuid) (status : AccountActionStatus) {a : AccountAction}
    (ha : a ∈ db.accountActions.rows) :
    (if a.id = actionId then a.withStatus status else a) ∈
      (db.setActionStatus actionId status).accountActions.rows := by
  refine (Table.mem_updateMany _ _ _ (AccountAction.id_withStatus status) _).mpr ⟨a, ha, ?_⟩
  simp only [decide_eq_true_eq]

theorem nextAction_fresh (env : Env) (db : Db) (data : NewAction) :
    (db.nextAction env data).id ∉ db.accountActions.keys := env.uuid_fresh _

theorem mem_insertAction {data : NewAction} {a : AccountAction} :
    a ∈ (db.insertAction env data).accountActions.rows ↔
      a ∈ db.accountActions.rows ∨ a = db.nextAction env data :=
  Table.mem_insert _ _ (nextAction_fresh env db data) _

theorem findUnique_insertAction (data : NewAction) (id : Uuid) :
    (db.insertAction env data).accountActions.findUnique id =
      if id = (db.nextAction env data).id then some (db.nextAction env data)
      else db.accountActions.findUnique id :=
  Table.findUnique_insert _ _ (nextAction_fresh env db data) _

theorem insertAction_keeps (data : NewAction) : db.KeepsActions (db.insertAction env data) := by
  intro id a ha
  refine ⟨a, ?_, rfl, rfl, rfl⟩
  rw [findUnique_insertAction, if_neg, ha]
  intro hid
  have hkey := (Table.mem_keys _ _).mpr ⟨a, Table.mem_of_findUnique ha, Table.key_of_findUnique ha⟩
  exact nextAction_fresh env db data (hid ▸ hkey)

/-! ### The scope of an account -/

theorem scopedAccount_ok {actorId userId : Uuid} {schoolId : Option Uuid} {account : ScopedAccount}
    (h : scopedAccount db actorId schoolId userId = .ok account) :
    db.users.findUnique userId = some account.user ∧
      account.schoolId ∈ account.user.schoolLinks db ∧
      account.accountActionsFor = db.accountActions.findMany (AccountAction.isOpenFor userId) := by
  simp only [scopedAccount, except_bind_eq_ok, orThrow_eq_ok] at h
  obtain ⟨schoolId, _, _, _, user, huser, h⟩ := h
  cases h
  obtain ⟨hmem, hwhere⟩ := Table.mem_of_findFirst huser
  rw [accountWhere, decide_eq_true_eq] at hwhere
  obtain ⟨rfl, hlinks⟩ := hwhere
  exact ⟨Table.findUnique_of_mem hmem, hlinks, rfl⟩

/-! ### Blocking and archiving -/

theorem setManagerAccountActive_ok {actorId userId : Uuid} {schoolId : Option Uuid}
    {isActive : Bool} {r : AccountStatusResult}
    (h : setManagerAccountActive env actorId schoolId userId isActive db = (.ok r, db')) :
    db' = db ∨ ∃ data, db' = ((db.updateUser userId (User.withActive isActive)
      (User.id_withActive isActive)).revokeSessions env.now userId).insertAction env data := by
  rw [setManagerAccountActive, Prog.transaction_eq_ok, Prog.query_bind_eq_ok] at h
  obtain ⟨account, _, h⟩ := h
  split at h
  · obtain ⟨_, rfl⟩ := Prog.pure_eq_ok.mp h
    exact Or.inl rfl
  · simp only [writeManagerAccountActive, Prog.bind_eq_ok, Prog.write_eq_ok,
      Prog.pure_eq_ok] at h
    obtain ⟨_, _, rfl, _, _, rfl, action, s, hcreate, _, rfl⟩ := h
    exact Or.inr ⟨_, (createAction_ok hcreate).2⟩

/-- What an archived account leaves, apart from its action. -/
def Db.archiveUser (db : Db) (now : Instant) (userId : Uuid) : Db :=
  (db.updateUser userId (User.archived now) (User.id_archived now)).revokeSessions now userId

theorem archiveManagerAccount_ok {actorId userId r : Uuid} {schoolId : Option Uuid}
    (h : archiveManagerAccount env actorId schoolId userId db = (.ok r, db')) :
    ∃ account, prepareArchive env db actorId schoolId userId = .ok account ∧
      ((account.user.deletedAt ≠ none ∧ db' = db) ∨ (account.user.deletedAt = none ∧
        ∃ data, db' = (db.archiveUser env.now userId).insertAction env data)) := by
  rw [archiveManagerAccount, Prog.transaction_eq_ok, Prog.query_bind_eq_ok] at h
  obtain ⟨account, haccount, h⟩ := h
  simp only [Prog.bind_eq_ok, Prog.when_eq_ok, Prog.pure_eq_ok, decide_eq_true_eq,
    decide_eq_false_iff_not] at h
  obtain ⟨_, _, ⟨hlive, hwrite⟩ | ⟨harchived, rfl⟩, _, rfl⟩ := h
  · simp only [writeArchiveAccount, Prog.bind_eq_ok, Prog.write_eq_ok, Prog.pure_eq_ok] at hwrite
    obtain ⟨_, _, rfl, _, _, rfl, action, s, hcreate, _, rfl⟩ := hwrite
    exact ⟨account, haccount, Or.inr ⟨hlive, _, (createAction_ok hcreate).2⟩⟩
  · exact ⟨account, haccount, Or.inl ⟨harchived, rfl⟩⟩

/-! ### The e-mail -/

theorem startEmailChange_ok {actorId userId : Uuid} {schoolId : Option Uuid} {email : String}
    {action : AccountAction}
    (h : startEmailChange env actorId schoolId userId email db = (.ok action, db')) :
    ∃ data : NewAction, action = db.nextAction env data ∧ db' = db.insertAction env data ∧
      data.targetId = userId ∧ data.newValue = some email ∧
      data.oldValue.map String.toLower ≠ some email.toLower := by
  simp only [startEmailChange, Prog.transaction_eq_ok, Prog.query_bind_eq_ok, except_bind_eq_ok,
    throwIf_eq_ok] at h
  obtain ⟨_, ⟨account, _, _, _, _, hnew, _, _, hreturn⟩, hcreate⟩ := h
  cases hreturn
  obtain ⟨haction, hdb⟩ := createAction_ok hcreate
  exact ⟨_, haction, hdb, rfl, rfl, fun heq => hnew (Option.some_inj.mp heq)⟩

theorem startEmailChange_fails (actorId userId : Uuid) (schoolId : Option Uuid) (email : String) :
    Prog.FailsWithin (fun s t => t = s) (startEmailChange env actorId schoolId userId email) :=
  Prog.FailsWithin.unchanged _

/-- What a finished change leaves, apart from its action. -/
def Db.withAccountEmail (db : Db) (now : Instant) (targetId : Uuid) (email : String) : Db :=
  (db.updateUser targetId (User.withEmail email) (User.id_withEmail email)).revokeSessions now
    targetId

/-- What a finished change leaves. -/
def Db.finished (db : Db) (now : Instant) (actionId targetId : Uuid) (email : String) : Db :=
  (db.withAccountEmail now targetId email).setActionStatus actionId .completed

theorem finishEmailAction_ok {actionId targetId : Uuid} {email : String} {u : Unit}
    (h : finishEmailAction env actionId targetId email db = (.ok u, db')) :
    (∃ user, db.users.findUnique targetId = some user) ∧
      db' = db.finished env.now actionId targetId email := by
  rw [finishEmailAction, Prog.transaction_eq_ok, Prog.query_bind_eq_ok] at h
  obtain ⟨_, hrow, h⟩ := h
  simp only [except_bind_eq_ok, orThrow_eq_ok] at hrow
  obtain ⟨user, huser, _⟩ := hrow
  simp only [Prog.bind_eq_ok, Prog.write_eq_ok] at h
  obtain ⟨_, _, rfl, _, _, rfl, hstatus⟩ := h
  exact ⟨⟨user, huser⟩, updateActionStatus_ok hstatus⟩

theorem finishEmailAction_fails (actionId targetId : Uuid) (email : String) :
    Prog.FailsWithin (fun s t => t = s) (finishEmailAction env actionId targetId email) :=
  Prog.FailsWithin.unchanged _

theorem email_finished {now : Instant} {actionId targetId userId : Uuid} {email : String} :
    ((db.finished now actionId targetId email).users.findUnique userId).map User.email =
      if userId = targetId then (db.users.findUnique userId).map fun _ => email
      else (db.users.findUnique userId).map User.email := by
  have husers : (db.finished now actionId targetId email).users.findUnique userId =
      if userId = targetId then (db.users.findUnique userId).map (User.withEmail email)
      else db.users.findUnique userId :=
    Table.findUnique_update _ _ _ (User.id_withEmail email) _
  rw [husers]
  split
  · rw [Option.map_map]
    rfl
  · rfl

theorem finished_keeps {now : Instant} {actionId targetId : Uuid} {email : String} :
    db.KeepsActions (db.finished now actionId targetId email) := by
  have hstatus : (db.withAccountEmail now targetId email).KeepsActions
      (db.finished now actionId targetId email) := setActionStatus_keeps actionId .completed
  exact hstatus

theorem mem_finished (now : Instant) {actionId : Uuid} (targetId : Uuid) (email : String)
    {a : AccountAction} (ha : a ∈ db.accountActions.rows) (hne : a.id ≠ actionId) :
    a ∈ (db.finished now actionId targetId email).accountActions.rows := by
  have hbefore : a ∈ (db.withAccountEmail now targetId email).accountActions.rows := ha
  have hmem := mem_setActionStatus actionId .completed hbefore
  rwa [if_neg hne] at hmem

theorem findEmailAction_ok {userId : Uuid} {found : AccountAction × String}
    (h : findEmailAction db userId = .ok found) :
    db.accountActions.findUnique found.1.id = some found.1 ∧ found.1.targetId = userId := by
  simp only [findEmailAction, except_bind_eq_ok, orThrow_eq_ok] at h
  obtain ⟨action, hhead, newValue, _, h⟩ := h
  cases h
  have hmem := List.mem_of_mem_head? (Option.mem_def.mpr hhead)
  rw [List.mem_insertionSort, Table.mem_findMany, Bool.and_eq_true, isOpenFor_eq_true] at hmem
  exact ⟨Table.findUnique_of_mem hmem.1, hmem.2.1.1⟩

end OSK
