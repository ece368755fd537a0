import Mathlib.Logic.Relation
import OskManager.Accounts.AccountWrites
import OskManager.Model.AccountSessions
import OskManager.Model.InstructorCommands
import OskManager.Sample.SmallSchool

/-! The sessions of an account that was inactive or archived. Not every step that blocks an account
revokes its sessions, but the only one that makes an account usable again does. -/

namespace OSK

open Relational

/-! ### What every step keeps -/

/-- The user exists, is active and is not archived. -/
def Db.isUsable (db : Db) (userId : Uuid) : Bool := (db.users.findUnique userId).any User.isUsable

/-- A session stays with its user, and stays revoked. One whose user was not usable before and is
usable now has been revoked. -/
structure Outlives (db db' : Db) : Prop where
  stays : ∀ id r, db.accountSessions.findUnique id = some r → ∃ r',
    db'.accountSessions.findUnique id = some r' ∧ r'.userId = r.userId ∧
      (r.revokedAt ≠ none → r'.revokedAt ≠ none)
  revived : ∀ id r r', db.accountSessions.findUnique id = some r →
    db'.accountSessions.findUnique id = some r' → db'.isUsable r.userId = true →
      db.isUsable r.userId = true ∨ r'.revokedAt ≠ none

theorem Outlives.refl (db : Db) : Outlives db db where
  stays _ r h := ⟨r, h, rfl, id⟩
  revived _ _ _ _ _ h := Or.inl h

theorem Outlives.trans {a b c : Db} (hab : Outlives a b) (hbc : Outlives b c) : Outlives a c where
  stays id r hr := by
    obtain ⟨r', hr', huser, hrevoked⟩ := hab.stays id r hr
    obtain ⟨r'', hr'', huser', hrevoked'⟩ := hbc.stays id r' hr'
    exact ⟨r'', hr'', huser'.trans huser, fun h => hrevoked' (hrevoked h)⟩
  revived id r r'' hr hr'' husable := by
    obtain ⟨r', hr', huser, _⟩ := hab.stays id r hr
    rw [← huser] at husable
    rcases hbc.revived id r' r'' hr' hr'' husable with hb | hrevoked
    · rw [huser] at hb
      rcases hab.revived id r r' hr hr' hb with ha | hrevoked
      · exact Or.inl ha
      · obtain ⟨q, hq, _, hkept⟩ := hbc.stays id r' hr'
        obtain rfl : r'' = q := Option.some_inj.mp (hr''.symm.trans hq)
        exact Or.inr (hkept hrevoked)
    · exact Or.inr hrevoked

/-- Only the two tables matter. -/
theorem Outlives.congr {a b c : Db} (h : Outlives a b) (husers : c.users = b.users)
    (hsessions : c.accountSessions = b.accountSessions) : Outlives a c where
  stays id r hr := by
    rw [hsessions]
    exact h.stays id r hr
  revived id r r' hr hr' husable := by
    rw [hsessions] at hr'
    rw [Db.isUsable, husers] at husable
    exact h.revived id r r' hr hr' husable

section Steps

variable {env : Env} {db : Db}

theorem findUnique_revokeSessions (now : Instant) (userId id : Uuid) :
    (db.revokeSessions now userId).accountSessions.findUnique id =
      (db.accountSessions.findUnique id).map fun r =>
        if r.isLiveOf userId then r.revoked now else r :=
  Table.findUnique_updateMany _ _ _ (AccountSession.sessionId_revoked now) _

theorem revoked_after (now : Instant) (userId : Uuid) (r : AccountSession)
    (h : r.userId = userId ∨ r.revokedAt ≠ none) :
    (if r.isLiveOf userId then r.revoked now else r).revokedAt ≠ none := by
  split
  · exact fun hnone => nomatch hnone
  · next hlive =>
    rcases h with rfl | h
    · intro hnone
      exact hlive (decide_eq_true ⟨rfl, hnone⟩)
    · exact h

/-- Rewriting a user and revoking all sessions of it. -/
theorem outlives_updateUser (now : Instant) (userId : Uuid) (f : User → User)
    (hf : ∀ u, (f u).id = u.id) :
    Outlives db ((db.updateUser userId f hf).revokeSessions now userId) where
  stays id r hr := by
    rw [findUnique_revokeSessions, Db.updateUser, hr]
    refine ⟨_, rfl, ?_, fun h => revoked_after now userId r (Or.inr h)⟩
    dsimp only
    split <;> rfl
  revived id r r' hr hr' husable := by
    rw [findUnique_revokeSessions, Db.updateUser, hr] at hr'
    obtain rfl := Option.some_inj.mp hr'
    by_cases huser : r.userId = userId
    · exact Or.inr (revoked_after now userId r (Or.inl huser))
    · refine Or.inl ?_
      have hsame : ((db.updateUser userId f hf).revokeSessions now userId).users.findUnique r.userId
          = db.users.findUnique r.userId := by
        refine (Table.findUnique_update db.users userId f hf r.userId).trans ?_
        rw [if_neg huser]
      rwa [Db.isUsable, hsame] at husable

theorem setManagerAccountActive_outlives (actorId userId : Uuid) (schoolId : Option Uuid)
    (isActive : Bool) :
    Prog.Keeps Outlives (setManagerAccountActive env actorId schoolId userId isActive) := by
  refine Prog.Keeps.transaction Outlives.refl fun db r db' h => ?_
  rcases setManagerAccountActive_ok (Prog.transaction_eq_ok.mpr h) with rfl | ⟨data, rfl⟩
  · exact Outlives.refl _
  · exact (outlives_updateUser _ _ _ _).congr rfl rfl

theorem archiveManagerAccount_outlives (actorId userId : Uuid) (schoolId : Option Uuid) :
    Prog.Keeps Outlives (archiveManagerAccount env actorId schoolId userId) := by
  refine Prog.Keeps.transaction Outlives.refl fun db r db' h => ?_
  obtain ⟨_, _, ⟨_, rfl⟩ | ⟨_, data, rfl⟩⟩ :=
    archiveManagerAccount_ok (Prog.transaction_eq_ok.mpr h)
  · exact Outlives.refl _
  · exact (outlives_updateUser _ _ _ _).congr rfl rfl

theorem finishEmailAction_outlives (actionId targetId : Uuid) (email : String) :
    Prog.Keeps Outlives (finishEmailAction env actionId targetId email) := by
  refine Prog.Keeps.transaction Outlives.refl fun db r db' h => ?_
  obtain ⟨_, rfl⟩ := finishEmailAction_ok (Prog.transaction_eq_ok.mpr h)
  exact (outlives_updateUser _ _ _ _).congr rfl rfl

theorem revokeAccountSessions_outlives (userId : Uuid) :
    Prog.Keeps Outlives (revokeAccountSessions env userId) := by
  refine Prog.Keeps.write fun db => ?_
  have hsame : db.users.update userId id (fun _ => rfl) = db.users := by
    simp [Table.update, Table.updateMany]
  exact (outlives_updateUser env.now userId id fun _ => rfl).congr hsame.symm rfl

/-- A new session has an id of its own. -/
theorem registerSession_outlives (session : AccountSession)
    (h : session.sessionId ∉ db.accountSessions.keys) :
    Outlives db (db.registerSession session h) := by
  have hfind : ∀ id r, db.accountSessions.findUnique id = some r →
      (db.registerSession session h).accountSessions.findUnique id = some r := by
    intro id r hr
    refine (Table.findUnique_insert _ _ h _).trans ?_
    rw [if_neg, hr]
    rintro rfl
    exact h ((Table.mem_keys _ _).mpr ⟨r, Table.mem_of_findUnique hr, Table.key_of_findUnique hr⟩)
  refine ⟨fun id r hr => ⟨r, hfind id r hr, rfl, fun h => h⟩, fun id r r' hr hr' husable => ?_⟩
  exact Or.inl husable

theorem registerAccountSession_outlives (userId : Uuid) (sessionId : Option Uuid) :
    Prog.Keeps Outlives (registerAccountSession env userId sessionId) := by
  cases sessionId with
  | none => exact Prog.Keeps.pure Outlives.refl _
  | some sessionId =>
    refine Prog.Keeps.transaction Outlives.refl fun db r db' h => ?_
    rw [Prog.query_bind_eq_ok] at h
    obtain ⟨allowed, _, h⟩ := h
    split at h
    · unfold createSession at h
      split at h
      · cases h
      · cases h
        exact registerSession_outlives _ _
    · obtain ⟨_, rfl⟩ := Prog.pure_eq_ok.mp h
      exact Outlives.refl _

/-- A user who is not usable stays so under the admin's flag. -/
theorem deactivated_outlives (p : User → Bool) :
    Outlives db { db with
      users := db.users.updateMany p (User.withActive false) (User.id_withActive false) } where
  stays _ r hr := ⟨r, hr, rfl, id⟩
  revived _ r _ _ _ husable := by
    refine Or.inl ?_
    rw [Db.isUsable, Table.findUnique_updateMany] at husable
    rw [Db.isUsable]
    rcases hu : db.users.findUnique r.userId with _ | u
    · rw [hu] at husable
      cases husable
    · rw [hu, Option.map_some, Option.any_some] at husable
      rw [Option.any_some]
      split at husable
      · cases husable
      · exact husable

theorem writeSoftDelete_outlives (actor : Actor) (deletion : SoftDelete) :
    Prog.Keeps Outlives (writeSoftDelete env actor deletion) := by
  cases deletion with
  | byManager schoolId userId =>
    exact fun db => setManagerAccountActive_outlives actor.id userId (some schoolId) false db
  | byAdmin userId =>
    have htrans : ∀ a b c, Outlives a b → Outlives b c → Outlives a c := fun _ _ _ => Outlives.trans
    refine Prog.Keeps.bind htrans (Prog.Keeps.query Outlives.refl _) fun _ => ?_
    refine Prog.Keeps.bind htrans ?_ fun _ => Prog.Keeps.query Outlives.refl _
    exact Prog.Keeps.write fun db => deactivated_outlives _

end Steps

/-! ### Runs -/

/-- One transaction of a call. What an admin or a manager has read of the instructor may be of any
state before. -/
inductive SessionStep : Db → Db → Prop where
  | register (env : Env) (userId : Uuid) (sessionId : Option Uuid) (db : Db) :
      SessionStep db (registerAccountSession env userId sessionId db).2
  | setActive (env : Env) (actorId : Uuid) (schoolId : Option Uuid) (userId : Uuid)
      (isActive : Bool) (db : Db) :
      SessionStep db (setManagerAccountActive env actorId schoolId userId isActive db).2
  | archive (env : Env) (actorId : Uuid) (schoolId : Option Uuid) (userId : Uuid) (db : Db) :
      SessionStep db (archiveManagerAccount env actorId schoolId userId db).2
  | softDelete (env : Env) (actor : Actor) (instructorId : Uuid) (seen : Db) (deletion : SoftDelete)
      (hseen : prepareSoftDelete seen actor instructorId = .ok deletion) (db : Db) :
      SessionStep db (writeSoftDelete env actor deletion db).2
  | finishEmail (env : Env) (actionId targetId : Uuid) (email : String) (db : Db) :
      SessionStep db (finishEmailAction env actionId targetId email db).2
  | revoke (env : Env) (userId : Uuid) (db : Db) :
      SessionStep db (revokeAccountSessions env userId db).2

abbrev SessionRun : Db → Db → Prop := Relation.ReflTransGen SessionStep

/-- A whole call for an instructor is a step, or it is refused. -/
theorem softDeleteInstructor_run (env : Env) (actor : Actor) (instructorId : Uuid) (db : Db) :
    SessionRun db (softDeleteInstructorForManagerOrAdmin env actor instructorId db).2 := by
  rw [softDeleteInstructorForManagerOrAdmin, Prog.query_bind_run]
  cases hseen : prepareSoftDelete db actor instructorId with
  | error e => exact .refl
  | ok deletion => exact .single (.softDelete env actor instructorId db deletion hseen db)

theorem SessionStep.outlives {db db' : Db} (h : SessionStep db db') : Outlives db db' := by
  cases h with
  | register env userId sessionId => exact registerAccountSession_outlives userId sessionId db
  | setActive env actorId schoolId userId isActive =>
    exact setManagerAccountActive_outlives actorId userId schoolId isActive db
  | archive env actorId schoolId userId =>
    exact archiveManagerAccount_outlives actorId userId schoolId db
  | softDelete env actor instructorId seen deletion _ =>
    exact writeSoftDelete_outlives actor deletion db
  | finishEmail env actionId targetId email =>
    exact finishEmailAction_outlives actionId targetId email db
  | revoke env userId => exact revokeAccountSessions_outlives userId db

theorem SessionRun.outlives {db db' : Db} (h : SessionRun db db') : Outlives db db' := by
  induction h with
  | refl => exact Outlives.refl _
  | tail _ hstep ih => exact ih.trans hstep.outlives

/-- Who is let in has a usable account and a session of it that is not revoked. -/
theorem authMiddleware_ok {db : Db} {userId : Uuid} {sessionId : Option Uuid} {u : User}
    (h : authMiddleware db (.verified userId sessionId) = .ok u) :
    db.isUsable userId = true ∧ ∃ id r, sessionId = some id ∧
      db.accountSessions.findUnique id = some r ∧ r.userId = userId ∧ r.revokedAt = none := by
  simp only [authMiddleware, except_bind_eq_ok, orThrow_eq_ok, throwIf_eq_ok, not_not] at h
  obtain ⟨user, huser, _, hlive, _, hactive, _, hdecision, _⟩ := h
  refine ⟨?_, ?_⟩
  · rw [Db.isUsable, huser, Option.any_some, User.isUsable, Bool.and_eq_true, decide_eq_true_eq]
    exact ⟨Bool.eq_true_of_not_eq_false hactive, hlive⟩
  · unfold getAccountSessionDecision at hdecision
    cases sessionId with
    | none => cases hdecision
    | some id =>
      dsimp only at hdecision
      rcases hfind : db.accountSessions.findUnique id with _ | r
      · rw [hfind] at hdecision
        cases hdecision
      · rw [hfind] at hdecision
        dsimp only at hdecision
        split at hdecision
        · cases hdecision
        · next hsame =>
          split at hdecision
          · cases hdecision
          · next hrevoked => exact ⟨id, r, rfl, hfind, not_not.mp hsame, not_not.mp hrevoked⟩

/-- A session of an account that was inactive or archived later on is never let in again. -/
theorem oldSessions_rejected {before during after : Db} {s : AccountSession}
    (hregistered : s ∈ before.accountSessions.rows) (hrun : SessionRun before during)
    {u : User} (huser : during.users.findUnique s.userId = some u)
    (hblocked : u.isActive = false ∨ u.deletedAt ≠ none) (hrun' : SessionRun during after)
    (userId : Uuid) :
    (authMiddleware after (.verified userId (some s.sessionId))).isOk = false := by
  rcases h : authMiddleware after (.verified userId (some s.sessionId)) with _ | v
  · rfl
  · exfalso
    obtain ⟨husable, id, r, hid, hr, hrUser, hlive⟩ := authMiddleware_ok h
    cases hid
    obtain ⟨q, hq, hqUser, _⟩ :=
      hrun.outlives.stays s.sessionId s (Table.findUnique_of_mem hregistered)
    obtain ⟨r', hr', hrUser', _⟩ := hrun'.outlives.stays s.sessionId q hq
    obtain rfl : r = r' := Option.some_inj.mp (hr.symm.trans hr')
    rw [← hrUser, hrUser'] at husable
    rcases hrun'.outlives.revived s.sessionId q r hq hr husable with hbefore | hrevoked
    · rw [Db.isUsable, hqUser, huser, Option.any_some, User.isUsable, Bool.and_eq_true,
        decide_eq_true_eq] at hbefore
      rcases hblocked with hinactive | harchived
      · rw [hinactive] at hbefore
        exact absurd hbefore.1 Bool.false_ne_true
      · exact harchived hbefore.2
    · exact hrevoked hlive

namespace Unblocked

def env : Env := SmallSchool.envAt (SmallSchool.clock 20000 10 0)

def session : AccountSession where
  sessionId := 100
  userId := 2
  createdAt := env.now

/-- The first instructor has the session. -/
def registered : Db := (registerAccountSession env 2 (some 100) SmallSchool.db).2

/-- An admin deactivates the instructor, which leaves the session as it is. -/
def blocked : Db := (writeSoftDelete env ⟨9, .admin⟩ (.byAdmin 2) registered).2

/-- The manager unblocks the account, and the session 101 is registered. -/
def unblocked : Db :=
  (registerAccountSession env 2 (some 101)
    (setManagerAccountActive env 1 (some 10) 2 true blocked).2).2

end Unblocked

open Unblocked in
theorem oldSessions_rejected_unblocked :
    (authMiddleware unblocked (.verified 2 (some 100))).isOk = false ∧
      (authMiddleware unblocked (.verified 2 (some 101))).isOk = true := by
  refine ⟨?_, by decide +kernel⟩
  have hblock : SessionRun registered blocked :=
    .single (.softDelete env ⟨9, .admin⟩ 20 registered (.byAdmin 2) rfl registered)
  have hunblock : SessionRun blocked unblocked :=
    .tail (.single (.setActive env 1 (some 10) 2 true blocked)) (.register env 2 (some 101) _)
  have hregistered : session ∈ registered.accountSessions.rows :=
    Table.mem_of_findUnique (k := 100) rfl
  exact oldSessions_rejected hregistered hblock
    (u := { id := 2, role := .instructor, isActive := false }) rfl (Or.inl rfl) hunblock 2

end OSK
