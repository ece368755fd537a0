import OskManager.Accounts.RegisteredRows

/-! What one turn of a registration does to the stores: nothing, a new user of Auth, or the whole
account in the tables. -/

namespace OSK

open Relational

variable {ι : Type} {store : String → String} {birthDateRequired : Bool} {env : Env}

/-! ### Who may register -/

/-- The actor may bring people to the school. -/
def MayEnrolAt (s : AccountTables) (actor : User) (schoolId : Uuid) : Prop :=
  ∃ school ∈ s.db.drivingSchools.rows, school.id = schoolId ∧ school.deletedAt = none ∧
    (actor.role = .admin ∨ (actor.role = .manager ∧ school.ownerId = actor.id) ∨
      (actor.role = .instructor ∧ ∃ l ∈ s.db.instructorSchools.rows,
        InstructorOfUser s actor.id l.instructorId ∧ l.schoolId = schoolId))

/-- The account is a student's or an instructor's, and its school one of the actor. -/
structure Permitted (s : AccountTables) (r : RegistrationRequest) : Prop where
  role : canInvokerRegisterUserWithRole r.actor.role r.targetRole = true
  instructorSchool : r.targetRole = .instructor →
    ∃ k, r.validatedInstructorSchoolId = some k ∧ MayEnrolAt s r.actor k
  studentSchool : r.targetRole = .student →
    (r.actor.role = .admin ∧ r.validatedStudentSchoolId = none) ∨
      ∃ k, r.validatedStudentSchoolId = some k ∧ MayEnrolAt s r.actor k

theorem MayEnrolAt.mono {id : Uuid} {s t : AccountTables} {actor : User} {schoolId : Uuid}
    (h : MayEnrolAt s actor schoolId) (honly : OnlyRows id s t) : MayEnrolAt t actor schoolId := by
  obtain ⟨school, hschool, hid, hdeleted, hmay⟩ := h
  refine ⟨school, ?_, hid, hdeleted, hmay.imp_right (Or.imp_right ?_)⟩
  · rw [honly.schools]
    exact hschool
  · intro hinstructor
    obtain ⟨hrole, l, hl, ⟨p, hp, hof⟩, hlink⟩ := hinstructor
    exact ⟨hrole, l, honly.links hl, ⟨p, honly.instructors hp, hof⟩, hlink⟩

theorem Permitted.mono {id : Uuid} {s t : AccountTables} {r : RegistrationRequest}
    (h : Permitted s r) (honly : OnlyRows id s t) : Permitted t r where
  role := h.role
  instructorSchool := by
    intro hrole
    obtain ⟨k, hk, hmay⟩ := h.instructorSchool hrole
    exact ⟨k, hk, hmay.mono honly⟩
  studentSchool := by
    intro hrole
    rcases h.studentSchool hrole with hadmin | ⟨k, hk, hmay⟩
    · exact Or.inl hadmin
    · exact Or.inr ⟨k, hk, hmay.mono honly⟩

theorem validSchool_ok {db : Db} {schoolId : Uuid} {school : DrivingSchool}
    (h : validSchool db schoolId = .ok school) :
    school ∈ db.drivingSchools.rows ∧ school.id = schoolId ∧ school.deletedAt = none := by
  rw [validSchool, orThrow_eq_ok, Option.filter_eq_some_iff] at h
  exact ⟨Table.mem_of_findUnique h.1, Table.key_of_findUnique h.1, of_decide_eq_true h.2⟩

theorem resolveInstructorSchool_ok {s : AccountTables} {actor : User} {body : RegisterBody}
    {email : String} {schoolId : Uuid}
    (h : resolveInstructorSchoolId s.db actor body email = .ok schoolId) :
    MayEnrolAt s actor schoolId := by
  simp only [resolveInstructorSchoolId, validateInstructorRegistrationSchoolBeforeSignUp,
    except_bind_eq_ok, throwIf_eq_ok] at h
  obtain ⟨_, _, k, _, _, ⟨_, hrole, school, hschool, _, howner, _⟩, h⟩ := h
  cases h
  obtain ⟨hmem, hid, hdeleted⟩ := validSchool_ok hschool
  refine ⟨school, hmem, hid, hdeleted, ?_⟩
  cases hactor : actor.role with
  | admin => exact Or.inl rfl
  | manager =>
    refine Or.inr (Or.inl ⟨rfl, ?_⟩)
    by_contra hne
    exact howner ⟨by rw [hactor]; exact nofun, hne⟩
  | instructor | student =>
    rw [hactor] at hrole
    exact absurd ⟨nofun, nofun⟩ hrole

theorem validateStudentSchool_ok {s : AccountTables} {actor : User} {schoolId k : Uuid}
    (h : validateStudentSchool s.db actor schoolId = .ok k) :
    k = schoolId ∧ MayEnrolAt s actor schoolId := by
  simp only [validateStudentSchool, validateStudentRegistrationSchoolBeforeSignUp,
    except_bind_eq_ok] at h
  obtain ⟨_, ⟨school, hschool, hmay⟩, h⟩ := h
  cases h
  obtain ⟨hmem, hid, hdeleted⟩ := validSchool_ok hschool
  refine ⟨rfl, school, hmem, hid, hdeleted, ?_⟩
  cases hactor : actor.role with
  | admin => exact Or.inl rfl
  | manager =>
    rw [hactor] at hmay
    dsimp only at hmay
    rw [throwIf_eq_ok, not_not] at hmay
    exact Or.inr (Or.inl ⟨rfl, hmay⟩)
  | instructor =>
    rw [hactor] at hmay
    dsimp only at hmay
    rw [throwIf_eq_ok, Bool.not_eq_true, Option.isNone_eq_false_iff,
      Table.findFirst_isSome] at hmay
    obtain ⟨l, hl, hwhere⟩ := hmay
    rw [Bool.and_eq_true_iff, Option.any_eq_true] at hwhere
    obtain ⟨hlink, p, hp, huser⟩ := hwhere
    exact Or.inr (Or.inr ⟨rfl, l, hl, ⟨p, Table.mem_of_findUnique hp, of_decide_eq_true huser,
      Table.key_of_findUnique hp⟩, of_decide_eq_true hlink⟩)
  | student =>
    rw [hactor] at hmay
    cases hmay

theorem resolveStudentSchoolForInstructor_ok {s : AccountTables} {actor : User}
    {body : RegisterBody} {schoolId : Uuid}
    (h : resolveStudentSchoolIdForInstructor s.db actor body = .ok schoolId) :
    MayEnrolAt s actor schoolId := by
  rw [resolveStudentSchoolIdForInstructor, except_bind_eq_ok] at h
  obtain ⟨explicit, _, h⟩ := h
  cases explicit with
  | some k =>
    obtain ⟨rfl, hmay⟩ := validateStudentSchool_ok h
    exact hmay
  | none =>
    dsimp only at h
    split at h
    · cases h
    · obtain ⟨rfl, hmay⟩ := validateStudentSchool_ok h
      exact hmay
    · cases h

theorem resolveStudentSchool_ok {s : AccountTables} {actor : User} {body : RegisterBody}
    {schoolId : Option Uuid} (hactor : actor.role ≠ .student)
    (h : resolveStudentSchoolId s.db actor body = .ok schoolId) :
    (actor.role = .admin ∧ schoolId = none) ∨ ∃ k, schoolId = some k ∧ MayEnrolAt s actor k := by
  unfold resolveStudentSchoolId at h
  split at h
  · next hadmin =>
    rw [except_bind_eq_ok] at h
    obtain ⟨explicit, _, h⟩ := h
    cases explicit with
    | none =>
      cases h
      exact Or.inl ⟨hadmin, rfl⟩
    | some k =>
      obtain ⟨k', hk, rfl⟩ := except_map_eq_ok.mp h
      obtain ⟨rfl, hmay⟩ := validateStudentSchool_ok hk
      exact Or.inr ⟨_, rfl, hmay⟩
  · simp only [except_bind_eq_ok] at h
    obtain ⟨_, _, k, _, h⟩ := h
    obtain ⟨k', hk, rfl⟩ := except_map_eq_ok.mp h
    obtain ⟨rfl, hmay⟩ := validateStudentSchool_ok hk
    exact Or.inr ⟨_, rfl, hmay⟩
  · obtain ⟨k, hk, rfl⟩ := except_map_eq_ok.mp h
    exact Or.inr ⟨k, rfl, resolveStudentSchoolForInstructor_ok hk⟩
  · next hstudent => exact absurd hstudent hactor

theorem prepareRegistration_ok {s : AccountTables} {actor : User} {body : RegisterBody}
    {r : RegistrationRequest}
    (h : prepareRegistration env birthDateRequired actor body s.db = .ok r) : Permitted s r := by
  simp only [prepareRegistration, except_bind_eq_ok, throwIf_eq_ok, orThrow_eq_ok,
    Bool.not_eq_false] at h
  obtain ⟨_, _, targetRole, hrole, _, _, _, hmay, h⟩ := h
  have hactor : actor.role ≠ .student := by
    intro hstudent
    rw [hstudent] at hmay
    cases targetRole <;> cases hmay
  split at h
  · next hinstructor =>
    rw [except_bind_eq_ok] at h
    obtain ⟨_, _, h⟩ := h
    rw [except_bind_eq_ok] at h
    obtain ⟨k, hk, h⟩ := h
    cases h
    refine ⟨hmay, fun _ => ⟨k, rfl, resolveInstructorSchool_ok hk⟩, fun hstudent => ?_⟩
    rw [hinstructor] at hstudent
    cases hstudent
  · next hinstructor =>
    rw [except_bind_eq_ok] at h
    obtain ⟨k, hk, h⟩ := h
    cases h
    exact ⟨hmay, fun h => absurd h hinstructor, fun _ => resolveStudentSchool_ok hactor hk⟩

/-! ### The turns of a call -/

/-- The account that the call is about, once Auth has a user for it. -/
def RegisterCall.input : RegisterCall → Option PersistRegisteredUserInput
  | .submitted _ _ | .signingUp _ | .refused _ => none
  | .lookingUp a | .lookingUpEmail a | .creating a | .collided a | .updating a | .responding a
  | .ended a _ => some a

def RegisterCall.request : RegisterCall → Option RegistrationRequest
  | .signingUp r => some r
  | c => c.input.map PersistRegisteredUserInput.toRegistrationRequest

/-- The call has no more to write. -/
def RegisterCall.isSettled : RegisterCall → Bool
  | .responding _ | .ended _ _ => true
  | _ => false

/-- The call has stored the account, and says so unless its last read fails. -/
def RegisterCall.Stored (a : PersistRegisteredUserInput) (c : RegisterCall) : Prop :=
  c = .responding a ∨ ∃ r, c = .ended a (.ok r)

/-- What a turn of a call may do. -/
inductive RegisterEffect (store : String → String) (c : RegisterCall) (s : RegistrationStores) :
    RegisterCall → RegistrationStores → Prop where
  | idle {c' : RegisterCall} (input : c'.input = c.input)
      (request : ∀ r, c'.request = some r → c.request = some r)
      (settled : c.isSettled = true → c'.isSettled = true)
      (stored : ∀ a, c'.Stored a → c.Stored a) : RegisterEffect store c s c' s
  | prepared {r : RegistrationRequest} (input : c.input = none) (permitted : Permitted s.tables r) :
      RegisterEffect store c s (.signingUp r) s
  | lost {user : AuthUser} {e : Failure} (input : c.input = none) (fresh : user.id ∉ s.auth.keys) :
      RegisterEffect store c s (.refused e) { s with auth := s.auth.insert user fresh }
  | created {r : RegistrationRequest} {user : AuthUser} (request : c = .signingUp r)
      (fresh : user.id ∉ s.auth.keys) (email : user.email = store r.emailTrimmed)
      (sole : ∀ u ∈ s.auth.rows, u.email ≠ user.email) :
      RegisterEffect store c s (.lookingUp { r with authUserId := user.id })
        { s with auth := s.auth.insert user fresh }
  | written {a : PersistRegisteredUserInput} {t : AccountTables} {c' : RegisterCall}
      (input : c.input = some a) (input' : c'.input = some a) (settled : c'.isSettled = true)
      (registered : Registered a s.tables t) : RegisterEffect store c s c' { s with tables := t }

/-- A read leaves the stores alone and has an answer, if only that there is none. -/
theorem RegisterEffect.of_query {α : Type} {c : RegisterCall} {delivery : Delivery}
    {f : AccountTables → Except Failure α} {s : RegistrationStores}
    {next : Except Failure α → RegisterCall}
    (h : ∀ r, (∀ a, r = .ok a → f s.tables = .ok a) → RegisterEffect store c s (next r) s) :
    RegisterEffect store c s (inTables delivery (Prog.query f) s next).1
      (inTables delivery (Prog.query f) s next).2 := by
  cases delivery with
  | answered => exact h _ fun _ h => h
  | lost | failed => exact h _ nofun

/-- A transaction is done or not, and when it is not, it fails for the call. -/
theorem RegisterEffect.of_transaction {α : Type} {c : RegisterCall} {delivery : Delivery}
    {p : AccountService α} {s : RegistrationStores} {next : Except Failure α → RegisterCall}
    (hfailed : ∀ e, RegisterEffect store c s (next (.error e)) s)
    (hdone : ∀ a t r, Prog.transaction p s.tables = (.ok a, t) → r ≠ .error uniqueViolation →
      RegisterEffect store c s (next r) { s with tables := t }) :
    RegisterEffect store c s (inTables delivery (Prog.transaction p) s next).1
      (inTables delivery (Prog.transaction p) s next).2 := by
  rcases hrun : Prog.transaction p s.tables with ⟨e | a, t⟩
  · have hsame : t = s.tables := Prog.FailsWithin.unchanged p s.tables e t hrun
    subst hsame
    unfold inTables
    rw [hrun]
    cases delivery with
    | answered => exact hfailed e
    | lost | failed => exact hfailed _
  · unfold inTables
    rw [hrun]
    cases delivery with
    | answered => exact hdone a t (.ok a) hrun nofun
    | lost => exact hdone a t _ hrun (by simp [uniqueViolation])
    | failed => exact hfailed _

/-- A step that has read only and has not stored the account. -/
theorem RegisterEffect.read {a : PersistRegisteredUserInput} {c c' : RegisterCall}
    {s : RegistrationStores} (hinput : c.input = some a) (hinput' : c'.input = some a)
    (hrequest : c.request = some a.toRegistrationRequest)
    (hrequest' : c'.request = some a.toRegistrationRequest) (hsettled : c.isSettled = false)
    (hstored : ∀ a, ¬c'.Stored a) : RegisterEffect store c s c' s := by
  refine .idle (hinput'.trans hinput.symm) (fun r hr => ?_) (fun h => ?_)
    fun a h => absurd h (hstored a)
  · rw [hrequest, ← hrequest']
    exact hr
  · rw [hsettled] at h
    cases h

theorem not_stored_ended {a a' : PersistRegisteredUserInput} {e : Failure} :
    ¬(RegisterCall.ended a (.error e)).Stored a' := by
  intro h
  rcases h with h | ⟨_, h⟩ <;> cases h

theorem RegisterEffect.refused {c : RegisterCall} {s : RegistrationStores} {e : Failure}
    (hinput : c.input = none) : RegisterEffect store c s (.refused e) s := by
  refine .idle hinput.symm ?_ ?_ ?_
  · intro r hr
    cases hr
  · intro hsettled
    cases c <;> cases hinput <;> cases hsettled
  · intro a ha
    rcases ha with ha | ⟨_, ha⟩ <;> cases ha

theorem createAuthUser_effect (r : RegistrationRequest) (delivery : Delivery)
    (s : RegistrationStores) : RegisterEffect store (.signingUp r) s
      (createAuthUser store env r delivery s).1 (createAuthUser store env r delivery s).2 := by
  have hrefused (e : Failure) : RegisterEffect store (.signingUp r) s (.refused e) s :=
    .refused rfl
  unfold createAuthUser
  dsimp only
  split
  · split
    · exact hrefused _
    · exact hrefused _
  · next hfree =>
    have hfresh := env.uuid_fresh s.auth.keys
    let user : AuthUser := ⟨env.uuid s.auth.keys, store r.emailTrimmed⟩
    cases delivery with
    | answered =>
      refine @RegisterEffect.created store _ s r user rfl hfresh rfl ?_
      intro u hu hemail
      exact hfree (List.any_eq_true.mpr ⟨u, hu, decide_eq_true hemail⟩)
    | lost => exact @RegisterEffect.lost store _ s user _ rfl hfresh
    | failed => exact hrefused _

/-- A call that gives up, having stored nothing. -/
theorem RegisterEffect.fails {c : RegisterCall} {s : RegistrationStores}
    {a : PersistRegisteredUserInput} {e : Failure} (hinput : c.input = some a)
    (hrequest : c.request = some a.toRegistrationRequest) (hsettled : c.isSettled = false) :
    RegisterEffect store c s (.ended a (.error e)) s :=
  .read hinput rfl hrequest rfl hsettled fun _ => not_stored_ended

theorem RegisterCall.next_effect {c : RegisterCall} {delivery : Delivery} {s : RegistrationStores}
    (hcomplete : PapersComplete s.tables) :
    RegisterEffect store c s (c.next store birthDateRequired env delivery s).1
      (c.next store birthDateRequired env delivery s).2 := by
  cases c with
  | submitted actor body =>
    apply RegisterEffect.of_query
    intro r hread
    cases r with
    | ok request => exact .prepared rfl (prepareRegistration_ok (hread request rfl))
    | error e => exact .refused rfl
  | signingUp r => exact createAuthUser_effect r delivery s
  | lookingUp a =>
    apply RegisterEffect.of_query
    intro r _
    rcases r with e | _ | existingById
    · exact .fails rfl rfl rfl
    · exact .read rfl rfl rfl rfl rfl fun _ h => by rcases h with h | ⟨_, h⟩ <;> cases h
    · dsimp only
      split
      · exact .fails rfl rfl rfl
      · exact .read rfl rfl rfl rfl rfl fun _ h => by rcases h with h | ⟨_, h⟩ <;> cases h
  | lookingUpEmail a =>
    apply RegisterEffect.of_query
    intro r _
    rcases r with e | _ | existingByEmail
    · exact .fails rfl rfl rfl
    · exact .read rfl rfl rfl rfl rfl fun _ h => by rcases h with h | ⟨_, h⟩ <;> cases h
    · exact .fails rfl rfl rfl
  | creating a =>
    apply RegisterEffect.of_transaction
    · intro e
      unfold afterCreate
      dsimp only
      split
      · exact .read rfl rfl rfl rfl rfl fun _ h => by rcases h with h | ⟨_, h⟩ <;> cases h
      · exact .fails rfl rfl rfl
    · intro _ t r hwritten hanswer
      have hregistered := createRegisteredUser_ok hwritten
      rcases r with e | _
      · have hother : e ≠ uniqueViolation := fun h => hanswer (congrArg _ h)
        rw [afterCreate, if_neg hother]
        exact .written rfl rfl rfl hregistered
      · exact .written rfl rfl rfl hregistered
  | collided a =>
    apply RegisterEffect.of_query
    intro r _
    rcases r with e | row
    · exact .fails rfl rfl rfl
    · dsimp only
      split
      · exact .read rfl rfl rfl rfl rfl fun _ h => by rcases h with h | ⟨_, h⟩ <;> cases h
      · exact .fails rfl rfl rfl
  | updating a =>
    apply RegisterEffect.of_transaction
    · intro e
      exact .fails rfl rfl rfl
    · intro _ t r hwritten _
      have hregistered := updateExistingRegisteredUser_ok hcomplete hwritten
      rcases r with e | _
      · exact .written rfl rfl rfl hregistered
      · exact .written rfl rfl rfl hregistered
  | responding a =>
    apply RegisterEffect.of_query
    intro r _
    refine .idle rfl (fun _ h => h) (fun _ => rfl) fun a' hstored => Or.inl ?_
    rcases hstored with hstored | ⟨_, hstored⟩ <;> cases hstored
    rfl
  | refused e => exact .idle rfl (fun _ h => h) (fun h => h) fun _ h => h
  | ended a r => exact .idle rfl (fun _ h => h) (fun h => h) fun _ h => h

/-! ### What follows from a turn -/

/-- The account has a user of Auth that was not there before, under an e-mail that nobody had. -/
structure EntersAuth (store : String → String) (s s' : RegistrationStores)
    (a : PersistRegisteredUserInput) : Prop where
  user : ∃ u ∈ s'.auth.rows, u.id = a.authUserId ∧ u.email = store a.emailTrimmed
  fresh : ∀ u ∈ s.auth.rows, u.id ≠ a.authUserId ∧ u.email ≠ store a.emailTrimmed

section Turns

variable {c c' : RegisterCall} {s s' : RegistrationStores} {a : PersistRegisteredUserInput}

theorem RegisterCall.request_of_input (h : c.input = some a) :
    c.request = some a.toRegistrationRequest := by
  cases c <;> cases h <;> rfl

theorem RegisterCall.Stored.input (h : c.Stored a) : c.input = some a := by
  rcases h with rfl | ⟨_, rfl⟩ <;> rfl

theorem RegisterEffect.auth_subset (h : RegisterEffect store c s c' s') :
    s.auth.rows ⊆ s'.auth.rows := by
  cases h with
  | idle | prepared | written => exact fun _ h => h
  | lost _ fresh | created _ fresh => exact fun _ h => (Table.mem_insert _ _ fresh _).mpr (Or.inl h)

theorem RegisterEffect.input_kept (h : RegisterEffect store c s c' s') (ha : c.input = some a) :
    c'.input = some a := by
  cases h with
  | idle input => exact input.trans ha
  | prepared input | lost input =>
    rw [input] at ha
    cases ha
  | created request =>
    rw [request] at ha
    cases ha
  | written input input' =>
    rw [input] at ha
    cases ha
    exact input'

theorem RegisterEffect.input_cases (h : RegisterEffect store c s c' s') (ha : c'.input = some a) :
    c.input = some a ∨ EntersAuth store s s' a := by
  cases h with
  | idle input => exact Or.inl (input.symm.trans ha)
  | prepared | lost => cases ha
  | @created r user _ fresh email sole =>
    cases ha
    refine Or.inr ⟨⟨user, (Table.mem_insert _ _ fresh _).mpr (Or.inr rfl), rfl, email⟩, ?_⟩
    intro u hu
    refine ⟨fun hid => fresh ((Table.mem_keys _ _).mpr ⟨u, hu, hid⟩), fun hemail => ?_⟩
    exact sole u hu (hemail.trans email.symm)
  | written input input' => exact Or.inl (input.trans (input'.symm.trans ha))

theorem RegisterEffect.settled_kept (h : RegisterEffect store c s c' s')
    (hsettled : c.isSettled = true) : c'.isSettled = true := by
  cases h with
  | idle _ _ settled => exact settled hsettled
  | prepared input | lost input => cases c <;> cases input <;> cases hsettled
  | created request =>
    rw [request] at hsettled
    cases hsettled
  | written _ _ settled => exact settled

theorem RegisterEffect.tables_cases (h : RegisterEffect store c s c' s') :
    s'.tables = s.tables ∨
      ∃ a, c.input = some a ∧ c'.isSettled = true ∧ Registered a s.tables s'.tables := by
  cases h with
  | idle | prepared | lost | created => exact Or.inl rfl
  | written input _ settled registered => exact Or.inr ⟨_, input, settled, registered⟩

theorem RegisterEffect.stored_cases (h : RegisterEffect store c s c' s') (ha : c'.Stored a) :
    (c.Stored a ∧ s'.tables = s.tables) ∨ Registered a s.tables s'.tables := by
  cases h with
  | idle _ _ _ stored => exact Or.inl ⟨stored a ha, rfl⟩
  | prepared | lost | created => cases ha.input <;> rcases ha with h | ⟨_, h⟩ <;> cases h
  | written _ input' _ registered =>
    cases input'.symm.trans ha.input
    exact Or.inr registered

theorem RegisterEffect.request_cases {r : RegistrationRequest}
    (h : RegisterEffect store c s c' s') (hr : c'.request = some r) :
    c.request = some r ∨ Permitted s.tables r := by
  cases h with
  | idle _ request => exact Or.inl (request r hr)
  | prepared _ permitted =>
    cases hr
    exact Or.inr permitted
  | lost => cases hr
  | created request =>
    cases hr
    rw [request]
    exact Or.inl rfl
  | written input input' =>
    rw [RegisterCall.request_of_input input'] at hr
    exact Or.inl ((RegisterCall.request_of_input input).trans hr)

theorem RegisterEffect.only (h : RegisterEffect store c s c' s') :
    ∃ id, OnlyRows id s.tables s'.tables := by
  rcases h.tables_cases with hsame | ⟨a, _, _, hregistered⟩
  · rw [hsame]
    exact ⟨0, .refl 0 _⟩
  · exact ⟨_, hregistered.only⟩

end Turns

end OSK
