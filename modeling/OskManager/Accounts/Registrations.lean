import OskManager.Accounts.RegisterTurns
import OskManager.Lib.Calls
import OskManager.Sample.SmallSchool

/-! Registrations side by side. Whatever the order of their transactions and requests and whichever
of these fail or are answered too late, an account is stored whole or not at all, apart from the
others, and by someone who may. -/

namespace OSK

open Relational

variable {ι : Type} {store : String → String} {birthDateRequired : Bool}

/-- All turns of all calls. -/
def registrations (ι : Type) [DecidableEq ι] (store : String → String) (birthDateRequired : Bool) :
    Calls (RegistrationTurn ι) (RegistrationSystem ι) :=
  .unrestricted (RegistrationSystem.resume store birthDateRequired)

/-- What holds between the turns of registrations that have found the tables `s₀`. -/
structure Sound (store : String → String) (s₀ : AccountTables) (s : RegistrationSystem ι) :
    Prop where
  known : ∀ i a, (s.calls i).input = some a →
    ∃ u ∈ s.stores.auth.rows, u.id = a.authUserId ∧ u.email = store a.emailTrimmed
  apart : ∀ i j a b, i ≠ j → (s.calls i).input = some a → (s.calls j).input = some b →
    a.authUserId ≠ b.authUserId ∧ store a.emailTrimmed ≠ store b.emailTrimmed
  rows : ∀ id, SameRows id s₀ s.stores.tables ∨
    ∃ i a, (s.calls i).input = some a ∧ (s.calls i).isSettled = true ∧ a.authUserId = id ∧
      WholeAccount s.stores.tables a
  stored : ∀ i a, (s.calls i).Stored a → WholeAccount s.stores.tables a
  permitted : ∀ i r, (s.calls i).request = some r → Permitted s.stores.tables r
  papers : PapersComplete s.stores.tables
  emails : UniqueEmails s.stores.tables.db

theorem Sound.of_submitted {s : RegistrationSystem ι}
    (hsubmitted : ∀ i, ∃ actor body, s.calls i = .submitted actor body)
    (hpapers : PapersComplete s.stores.tables) (hemails : UniqueEmails s.stores.tables.db) :
    Sound store s.stores.tables s := by
  have hnone (i : ι) : (s.calls i).input = none ∧ (s.calls i).request = none := by
    obtain ⟨actor, body, hcall⟩ := hsubmitted i
    rw [hcall]
    exact ⟨rfl, rfl⟩
  have hinput (i : ι) {a : PersistRegisteredUserInput} : (s.calls i).input ≠ some a := by
    rw [(hnone i).1]
    exact nofun
  refine ⟨fun i _ h => absurd h (hinput i), fun i _ _ _ _ h => absurd h (hinput i),
    fun id => Or.inl (.refl id _), fun i _ h => absurd h.input (hinput i), fun i r hr => ?_,
    hpapers, hemails⟩
  rw [(hnone i).2] at hr
  cases hr

section Step

variable {s₀ : AccountTables} {s : RegistrationSystem ι} {i : ι} {c' : RegisterCall}
  {t : RegistrationStores}

/-- The user that a call gets from Auth is nobody else's. -/
theorem Sound.enters (h : Sound store s₀ s) {a b : PersistRegisteredUserInput} {j : ι}
    (henters : EntersAuth store s.stores t a) (hb : (s.calls j).input = some b) :
    b.authUserId ≠ a.authUserId ∧ store b.emailTrimmed ≠ store a.emailTrimmed := by
  obtain ⟨u, hu, hid, hemail⟩ := h.known j b hb
  rw [← hid, ← hemail]
  exact henters.fresh u hu

variable [DecidableEq ι]

theorem RegisterEffect.update_cases (heffect : RegisterEffect store (s.calls i) s.stores c' t)
    {j : ι} {a : PersistRegisteredUserInput}
    (ha : (Function.update s.calls i c' j).input = some a) :
    (s.calls j).input = some a ∨ j = i ∧ EntersAuth store s.stores t a := by
  by_cases hj : j = i
  · subst hj
    rw [Function.update_self] at ha
    exact (heffect.input_cases ha).imp_right fun henters => ⟨rfl, henters⟩
  · rw [Function.update_of_ne hj] at ha
    exact Or.inl ha

theorem RegisterEffect.update_kept (heffect : RegisterEffect store (s.calls i) s.stores c' t)
    {j : ι} {a : PersistRegisteredUserInput} (ha : (s.calls j).input = some a) :
    (Function.update s.calls i c' j).input = some a := by
  by_cases hj : j = i
  · subst hj
    rw [Function.update_self]
    exact heffect.input_kept ha
  · rw [Function.update_of_ne hj]
    exact ha

theorem RegisterEffect.update_settled (heffect : RegisterEffect store (s.calls i) s.stores c' t)
    {j : ι} (hsettled : (s.calls j).isSettled = true) :
    (Function.update s.calls i c' j).isSettled = true := by
  by_cases hj : j = i
  · subst hj
    rw [Function.update_self]
    exact heffect.settled_kept hsettled
  · rw [Function.update_of_ne hj]
    exact hsettled

theorem Sound.step_apart (h : Sound store s₀ s)
    (heffect : RegisterEffect store (s.calls i) s.stores c' t) {j k : ι}
    {a b : PersistRegisteredUserInput} (hne : j ≠ k)
    (ha : (Function.update s.calls i c' j).input = some a)
    (hb : (Function.update s.calls i c' k).input = some b) :
    a.authUserId ≠ b.authUserId ∧ store a.emailTrimmed ≠ store b.emailTrimmed := by
  rcases heffect.update_cases ha with hbefore | ⟨rfl, hentersA⟩
  · rcases heffect.update_cases hb with hbefore' | ⟨_, hentersB⟩
    · exact h.apart j k a b hne hbefore hbefore'
    · exact h.enters hentersB hbefore
  · rcases heffect.update_cases hb with hbefore' | ⟨rfl, _⟩
    · exact (h.enters hentersA hbefore').imp Ne.symm Ne.symm
    · exact absurd rfl hne

theorem Sound.step_rows (h : Sound store s₀ s)
    (heffect : RegisterEffect store (s.calls i) s.stores c' t) (id : Uuid) :
    SameRows id s₀ t.tables ∨ ∃ j a, (Function.update s.calls i c' j).input = some a ∧
      (Function.update s.calls i c' j).isSettled = true ∧ a.authUserId = id ∧
        WholeAccount t.tables a := by
  rcases heffect.tables_cases with hsame | ⟨b, hb, hsettled, hregistered⟩
  · rw [hsame]
    refine (h.rows id).imp_right fun hwritten => ?_
    obtain ⟨j, a, ha, hsettled, hid, hwhole⟩ := hwritten
    exact ⟨j, a, heffect.update_kept ha, heffect.update_settled hsettled, hid, hwhole⟩
  · by_cases hid : id = b.authUserId
    · refine Or.inr ⟨i, b, heffect.update_kept hb, ?_, hid.symm, hregistered.whole⟩
      rw [Function.update_self]
      exact hsettled
    · have hother := hregistered.only.others id hid
      rcases h.rows id with hrows | ⟨j, a, ha, hsettled, rfl, hwhole⟩
      · exact Or.inl (hrows.trans hother)
      · exact Or.inr ⟨j, a, heffect.update_kept ha, heffect.update_settled hsettled, rfl,
          hwhole.same hother⟩

theorem Sound.step_stored (h : Sound store s₀ s)
    (heffect : RegisterEffect store (s.calls i) s.stores c' t) {j : ι}
    {a : PersistRegisteredUserInput} (hstored : (Function.update s.calls i c' j).Stored a) :
    WholeAccount t.tables a := by
  by_cases hj : j = i
  · subst hj
    rw [Function.update_self] at hstored
    rcases heffect.stored_cases hstored with ⟨hbefore, hsame⟩ | hregistered
    · rw [hsame]
      exact h.stored j a hbefore
    · exact hregistered.whole
  · rw [Function.update_of_ne hj] at hstored
    have hwhole := h.stored j a hstored
    rcases heffect.tables_cases with hsame | ⟨b, hb, _, hregistered⟩
    · rw [hsame]
      exact hwhole
    · exact hwhole.same (hregistered.only.others _ (h.apart j i a b hj hstored.input hb).1)

theorem Sound.step_permitted (h : Sound store s₀ s)
    (heffect : RegisterEffect store (s.calls i) s.stores c' t) {j : ι} {r : RegistrationRequest}
    (hr : (Function.update s.calls i c' j).request = some r) : Permitted t.tables r := by
  obtain ⟨id, honly⟩ := heffect.only
  by_cases hj : j = i
  · subst hj
    rw [Function.update_self] at hr
    rcases heffect.request_cases hr with hbefore | hpermitted
    · exact (h.permitted j r hbefore).mono honly
    · exact hpermitted.mono honly
  · rw [Function.update_of_ne hj] at hr
    exact (h.permitted j r hr).mono honly

theorem Sound.step (h : Sound store s₀ s)
    (heffect : RegisterEffect store (s.calls i) s.stores c' t) :
    Sound store s₀ ⟨t, Function.update s.calls i c'⟩ where
  known := by
    intro j a ha
    rcases heffect.update_cases ha with ha | ⟨_, henters⟩
    · obtain ⟨u, hu, hknown⟩ := h.known j a ha
      exact ⟨u, heffect.auth_subset hu, hknown⟩
    · exact henters.user
  apart := fun _ _ _ _ => h.step_apart heffect
  rows := h.step_rows heffect
  stored := fun _ _ => h.step_stored heffect
  permitted := fun _ _ => h.step_permitted heffect
  papers := by
    rcases heffect.tables_cases with hsame | ⟨b, _, _, hregistered⟩
    · rw [hsame]
      exact h.papers
    · exact hregistered.papers h.papers
  emails := by
    rcases heffect.tables_cases with hsame | ⟨b, _, _, hregistered⟩
    · rw [hsame]
      exact h.emails
    · exact hregistered.emails h.emails

end Step

/-! ### Whole runs -/

/-- From any tables in which the e-mails are unique, registrations that take their turns in any
order, with any of their transactions and requests lost or failed. An account is as it was before,
or it stands whole as one call has asked for it. What is answered with success is stored, by someone
who may; and no two calls have one user of Auth. -/
theorem registrations_whole [DecidableEq ι] {s s' : RegistrationSystem ι}
    (hsubmitted : ∀ i, ∃ actor body, s.calls i = .submitted actor body)
    (hpapers : PapersComplete s.stores.tables) (hemails : UniqueEmails s.stores.tables.db)
    (hrun : (registrations ι store birthDateRequired).Run s s') :
    UniqueEmails s'.stores.tables.db ∧
      (∀ id, SameRows id s.stores.tables s'.stores.tables ∨
        ∃ i a, (s'.calls i).input = some a ∧ (s'.calls i).isSettled = true ∧ a.authUserId = id ∧
          WholeAccount s'.stores.tables a) ∧
      (∀ i a r, s'.calls i = .ended a (.ok r) → WholeAccount s'.stores.tables a ∧
        Permitted s'.stores.tables a.toRegistrationRequest) ∧
      ∀ i j a b, i ≠ j → (s'.calls i).input = some a → (s'.calls j).input = some b →
        a.authUserId ≠ b.authUserId ∧ store a.emailTrimmed ≠ store b.emailTrimmed := by
  have hsound : Sound store s.stores.tables s' := by
    refine Calls.Run.invariant (fun turn u _ hu => ?_)
      (Sound.of_submitted hsubmitted hpapers hemails) hrun
    exact hu.step (RegisterCall.next_effect hu.papers)
  refine ⟨hsound.emails, hsound.rows, fun i a r hended => ?_, hsound.apart⟩
  have hstored : (s'.calls i).Stored a := Or.inr ⟨r, hended⟩
  exact ⟨hsound.stored i a hstored,
    hsound.permitted i _ (RegisterCall.request_of_input hstored.input)⟩

namespace TwoForms

inductive Form where
  | student | instructor
  deriving DecidableEq

def owner : User := { id := 1, role := .manager, email := "szkola@osk.pl" }

def form (role email : String) : RegisterBody where
  email := some email
  password := some "haslo"
  role := some role
  firstName := some "Anna"
  lastName := some "Nowak"
  licenseNumber := some "L1"
  schoolId := .id 10

/-- A student and an instructor of one school. -/
def start : RegistrationSystem Form where
  stores.tables.db :=
    { users := ⟨[owner], by decide⟩, drivingSchools := SmallSchool.db.drivingSchools }
  stores.auth := ⟨[⟨1, "szkola@osk.pl"⟩], by decide⟩
  calls
    | .student => .submitted owner (form "STUDENT" "uczen@osk.pl")
    | .instructor => .submitted owner (form "INSTRUCTOR" "instruktor@osk.pl")

def turn (call : Form) (delivery : Delivery) : RegistrationTurn Form :=
  { call, env := SmallSchool.envAt 0, delivery }

/-- Every answer arrives but that to the transaction of the instructor. -/
def turns : List (RegistrationTurn Form) :=
  [turn .student .answered, turn .instructor .answered, turn .instructor .answered,
    turn .student .answered, turn .instructor .answered, turn .student .answered,
    turn .student .answered, turn .instructor .answered, turn .instructor .lost,
    turn .student .answered, turn .student .answered]

def reached : RegistrationSystem Form := (registrations Form id false).after turns start

def isAnswered : RegisterCall → Bool
  | .ended _ (.ok _) => true
  | _ => false

end TwoForms

open TwoForms in
/-- Both accounts are there, and only the student's form says so. -/
theorem registrations_whole_twoForms :
    isAnswered (reached.calls .student) = true ∧ isAnswered (reached.calls .instructor) = false ∧
      reached.stores.tables.db.users.rows.map User.email =
        ["szkola@osk.pl", "instruktor@osk.pl", "uczen@osk.pl"] ∧
      reached.stores.tables.db.studentSchools.rows.map StudentSchool.schoolId = [10] ∧
      reached.stores.tables.db.instructorSchools.rows.map InstructorSchool.schoolId = [10] ∧
      UniqueEmails reached.stores.tables.db := by
  have hemails : UniqueEmails start.stores.tables.db := by
    intro u hu v hv _ _ _
    rw [List.mem_singleton.mp hu, List.mem_singleton.mp hv]
  have hsubmitted (i : Form) : ∃ actor body, start.calls i = .submitted actor body := by
    cases i with
    | student => exact ⟨_, _, rfl⟩
    | instructor => exact ⟨_, _, rfl⟩
  have hrun : (registrations Form id false).Run start reached :=
    Calls.unrestricted_run_after _ turns start
  have hwhole :=
    registrations_whole hsubmitted (fun _ hp => absurd hp List.not_mem_nil) hemails hrun
  exact ⟨by decide +kernel, by decide +kernel, by decide +kernel, by decide +kernel,
    by decide +kernel, hwhole.1⟩

end OSK
