import Mathlib.Logic.Unique

/-! Programs over a store. A program may fail, and what it wrote before failing
stays written unless a transaction around it rolls it back. The rules below take
a run apart at each bind, for a success and for what any run leaves unchanged. -/

namespace Relational

universe u v w

/-- A computation over a store `σ` that returns an `α` or fails with an `ε`. -/
def Prog (ε : Type u) (σ : Type v) (α : Type w) := σ → Except ε α × σ

namespace Prog

variable {ε : Type u} {σ : Type v} {α β : Type w}

instance : Monad (Prog ε σ) where
  pure a := fun s => (.ok a, s)
  bind p f := fun s =>
    match p s with
    | (.ok a, t) => f a t
    | (.error e, t) => (.error e, t)

instance : MonadLift (Except ε) (Prog ε σ) := ⟨fun x s => (x, s)⟩

/-- Reads the store without changing it. -/
def query (f : σ → Except ε α) : Prog ε σ α := fun s => (f s, s)

def write (f : σ → σ) : Prog ε σ Unit := fun s => (.ok (), f s)

/-- Runs `p` and hands its outcome over as a value; a failure keeps its writes. -/
def attempt (p : Prog ε σ α) : Prog ε σ (Except ε α) := fun s => (.ok (p s).1, (p s).2)

/-- `try { k(await p) } catch (e) { h(e) }`; the handler returns a value or rethrows. -/
def handle (p : Prog ε σ α) (k : α → β) (h : ε → Except ε β) : Prog ε σ β := fun s =>
  match p s with
  | (.ok a, t) => (.ok (k a), t)
  | (.error e, t) => (h e, t)

/-- Runs a rule and lists what it found: nothing, or the issue named by the handler. -/
def issues {ι : Type} (p : Prog ε σ Unit) (h : ε → Except ε ι) : Prog ε σ (List ι) :=
  handle p (fun _ => []) fun e => do return [← h e]

/-- Runs `p` as one unit: a failure leaves the store as it was. -/
def transaction (p : Prog ε σ α) : Prog ε σ α := fun s =>
  match p s with
  | (.ok a, t) => (.ok a, t)
  | (.error e, _) => (.error e, s)

/-- Runs `p` for its effect. -/
def discard (p : Prog ε σ α) : Prog ε σ Unit := fun s => ((p s).1.map fun _ => (), (p s).2)

/-- Runs `p` only under the condition. -/
def when (c : Bool) (p : Prog ε σ Unit) : Prog ε σ Unit := if c then p else pure ()

/-- Runs `p` only for a value that is there. -/
def whenSome {γ : Type} (x : Option γ) (p : γ → Prog ε σ Unit) : Prog ε σ Unit :=
  x.elim (pure ()) p

theorem pure_run (a : α) (s : σ) : (pure a : Prog ε σ α) s = (.ok a, s) := rfl

theorem lift_run (x : Except ε α) (s : σ) : (liftM x : Prog ε σ α) s = (x, s) := rfl

theorem bind_run (p : Prog ε σ α) (f : α → Prog ε σ β) (s : σ) :
    (p >>= f) s = match p s with
      | (.ok a, t) => f a t
      | (.error e, t) => (.error e, t) := rfl

theorem query_bind_run (f : σ → Except ε α) (g : α → Prog ε σ β) (s : σ) :
    (query f >>= g) s = match f s with
      | .ok a => g a s
      | .error e => (.error e, s) := by
  rw [bind_run, query]
  cases f s <;> rfl

/-- What follows a failure is not run. -/
theorem bind_of_error {p : Prog ε σ α} {f : α → Prog ε σ β} {s t : σ} {e : ε}
    (h : p s = (.error e, t)) : (p >>= f) s = (.error e, t) := by
  rw [bind_run, h]

theorem transaction_of_error {p : Prog ε σ α} {s t : σ} {e : ε} (h : p s = (.error e, t)) :
    transaction p s = (.error e, s) := by
  rw [transaction, h]

/-- A step after which nothing is written. -/
theorem bind_pure_store (p : Prog ε σ α) (k : α → β) (s : σ) :
    ((do return k (← p)) s).2 = (p s).2 := by
  rw [bind_run]
  rcases p s with ⟨_ | _, _⟩ <;> rfl

theorem bind_assoc {γ : Type w} (p : Prog ε σ α) (f : α → Prog ε σ β) (g : β → Prog ε σ γ) :
    p >>= f >>= g = p >>= fun a => f a >>= g := by
  funext s
  simp only [bind_run]
  rcases p s with ⟨_ | _, _⟩ <;> rfl

instance : LawfulMonad (Prog ε σ) :=
  LawfulMonad.mk' _
    (fun p => by
      funext s
      change (match p s with
        | (.ok a, t) => (.ok a, t)
        | (.error e, t) => (.error e, t)) = p s
      rcases p s with ⟨_ | _, _⟩ <;> rfl)
    (fun _ _ => rfl) bind_assoc

/-- Reads that follow each other are one read. -/
theorem query_except_bind (f : σ → Except ε α) (g : α → σ → Except ε β) :
    query (fun s => f s >>= fun a => g a s) = query f >>= fun a => query (g a) := by
  funext s
  simp only [bind_run, query]
  cases f s <;> rfl

theorem discard_bind {α β : Type} (p : Prog ε σ α) (f : α → Prog ε σ β) :
    discard (p >>= f) = p >>= fun a => discard (f a) := by
  funext s
  simp only [bind_run, discard]
  rcases p s with ⟨_ | _, _⟩ <;> rfl

theorem discard_map {α β : Type} (p : Prog ε σ α) (k : α → β) :
    discard (do return k (← p)) = discard p := by
  funext s
  simp only [bind_run, discard]
  rcases p s with ⟨_ | _, _⟩ <;> rfl

/-! ### Successful runs -/

theorem bind_eq_ok {p : Prog ε σ α} {f : α → Prog ε σ β} {s t : σ} {b : β} :
    (p >>= f) s = (.ok b, t) ↔ ∃ a s', p s = (.ok a, s') ∧ f a s' = (.ok b, t) := by
  rw [bind_run]
  split
  · next a s' h =>
    refine ⟨?_, ?_⟩
    · exact fun hf => ⟨a, s', h, hf⟩
    · intro h
      obtain ⟨a', t', hp, hf⟩ := h
      rw [h] at hp
      cases hp
      exact hf
  · next e s' h => simp [h]

/-- Programs that leave the store settled after the first one can be asked one after another. -/
theorem mapM_settled {γ : Type} {f : γ → Prog ε σ α} {g : γ → α} {s t : σ}
    (hfirst : ∀ x, f x s = (.ok (g x), t)) (hagain : ∀ x, f x t = (.ok (g x), t)) (l : List γ) :
    ∃ u, l.mapM f s = (.ok (l.map g), u) := by
  have hrest (l : List γ) : l.mapM f t = (.ok (l.map g), t) := by
    induction l with
    | nil => rfl
    | cons x rest ih =>
      rw [List.mapM_cons]
      exact bind_eq_ok.mpr ⟨_, _, hagain x, bind_eq_ok.mpr ⟨_, _, ih, rfl⟩⟩
  cases l with
  | nil => exact ⟨s, rfl⟩
  | cons x rest =>
    refine ⟨t, ?_⟩
    rw [List.mapM_cons]
    exact bind_eq_ok.mpr ⟨_, _, hfirst x, bind_eq_ok.mpr ⟨_, _, hrest rest, rfl⟩⟩

theorem pure_eq_ok {a b : α} {s t : σ} :
    (pure a : Prog ε σ α) s = (.ok b, t) ↔ a = b ∧ s = t := by
  simp [pure_run]

theorem lift_eq_ok {x : Except ε α} {b : α} {s t : σ} :
    (liftM x : Prog ε σ α) s = (.ok b, t) ↔ x = .ok b ∧ s = t := by
  simp [lift_run]

theorem query_eq_ok {f : σ → Except ε α} {b : α} {s t : σ} :
    query f s = (.ok b, t) ↔ f s = .ok b ∧ s = t := by
  simp [query]

theorem write_eq_ok {f : σ → σ} {b : Unit} {s t : σ} :
    (write f : Prog ε σ Unit) s = (.ok b, t) ↔ f s = t := by
  simp [write]

theorem transaction_eq_ok {p : Prog ε σ α} {b : α} {s t : σ} :
    transaction p s = (.ok b, t) ↔ p s = (.ok b, t) := by
  unfold transaction
  split
  · next h => rw [h]
  · next h => simp [h]

theorem attempt_eq_ok {p : Prog ε σ α} {r : Except ε α} {s t : σ} :
    attempt p s = (.ok r, t) ↔ p s = (r, t) := by
  simp [attempt, Prod.ext_iff]

theorem when_eq_ok {c : Bool} {p : Prog ε σ Unit} {u : Unit} {s t : σ} :
    when c p s = (.ok u, t) ↔ (c = true ∧ p s = (.ok u, t)) ∨ (c = false ∧ s = t) := by
  cases c <;> simp [when, pure_run]

theorem whenSome_eq_ok {γ : Type} {x : Option γ} {p : γ → Prog ε σ Unit} {u : Unit} {s t : σ} :
    whenSome x p s = (.ok u, t) ↔
      (x = none ∧ s = t) ∨ ∃ a, x = some a ∧ p a s = (.ok u, t) := by
  cases x <;> simp [whenSome, pure_run]

theorem whenSome_some {γ : Type} (a : γ) (p : γ → Prog ε σ Unit) : whenSome (some a) p = p a := rfl

theorem handle_eq_ok {p : Prog ε σ α} {k : α → β} {h : ε → Except ε β} {b : β} {s t : σ} :
    handle p k h s = (.ok b, t) ↔
      (∃ a, p s = (.ok a, t) ∧ k a = b) ∨ ∃ e, p s = (.error e, t) ∧ h e = .ok b := by
  rcases hp : p s with ⟨r, s'⟩
  cases r with
  | ok a =>
    simp only [handle, hp, Prod.mk.injEq, Except.ok.injEq, reduceCtorEq, false_and,
      exists_false, or_false]
    exact ⟨fun ⟨hk, ht⟩ => ⟨a, ⟨rfl, ht⟩, hk⟩, fun ⟨_, ⟨rfl, ht⟩, hk⟩ => ⟨hk, ht⟩⟩
  | error e =>
    simp only [handle, hp, Prod.mk.injEq, Except.error.injEq, reduceCtorEq, false_and,
      exists_false, false_or]
    exact ⟨fun ⟨hh, ht⟩ => ⟨e, ⟨rfl, ht⟩, hh⟩, fun ⟨_, ⟨rfl, ht⟩, hh⟩ => ⟨hh, ht⟩⟩

section Issues

variable {ι : Type} {p : Prog ε σ Unit} {h : ε → Except ε ι} {l : List ι} {s t : σ}

/-- A rule that reports reports exactly its failures. -/
theorem issues_eq_ok : issues p h s = (.ok l, t) ↔
      (p s = (.ok (), t) ∧ l = []) ∨
        ∃ e i, p s = (.error e, t) ∧ h e = .ok i ∧ l = [i] := by
  rw [issues, handle_eq_ok]
  refine or_congr ?_ (exists_congr fun e => ?_)
  · exact ⟨fun ⟨_, hp, hl⟩ => ⟨hp, hl.symm⟩, fun ⟨hp, hl⟩ => ⟨(), hp, hl.symm⟩⟩
  · cases h e with
    | ok i => simp [bind, Except.bind, pure, Except.pure, eq_comm]
    | error e => simp [bind, Except.bind]

/-- No issue means that the rule passed; the store is the one the rule left. -/
theorem issues_nil_iff (hl : issues p h s = (.ok l, t)) : l = [] ↔ p s = (.ok (), t) := by
  rcases issues_eq_ok.mp hl with ⟨hp, rfl⟩ | ⟨e, i, hp, _, rfl⟩
  · simp [hp]
  · simp [hp]

theorem issues_store (hl : issues p h s = (.ok l, t)) : (p s).2 = t := by
  rcases issues_eq_ok.mp hl with ⟨hp, _⟩ | ⟨e, i, hp, _, _⟩ <;> rw [hp]

/-- A rule that passes reports nothing. -/
theorem issues_run (hp : p s = (.ok (), t)) : issues p h s = (.ok [], t) :=
  issues_eq_ok.mpr (Or.inl ⟨hp, rfl⟩)

end Issues

theorem query_bind_eq_ok {f : σ → Except ε α} {g : α → Prog ε σ β} {s t : σ} {b : β} :
    (query f >>= g) s = (.ok b, t) ↔ ∃ a, f s = .ok a ∧ g a s = (.ok b, t) := by
  simp [bind_eq_ok, query_eq_ok, and_assoc]

theorem lift_bind_eq_ok {x : Except ε α} {g : α → Prog ε σ β} {s t : σ} {b : β} :
    (liftM x >>= g) s = (.ok b, t) ↔ ∃ a, x = .ok a ∧ g a s = (.ok b, t) := by
  simp [bind_eq_ok, lift_eq_ok, and_assoc]

theorem when_query_bind_eq_ok {c : Bool} {f : σ → Except ε Unit} {β : Type} {g : Unit → Prog ε σ β}
    {s t : σ} {b : β} :
    (when c (query f) >>= g) s = (.ok b, t) ↔ (c = true → f s = .ok ()) ∧ g () s = (.ok b, t) := by
  cases c <;> simp [when, bind_eq_ok, query_eq_ok, Unique.exists_iff, and_assoc]

theorem when_query_eq_ok {c : Bool} {f : σ → Except ε Unit} {u : Unit} {s t : σ} :
    when c (query f) s = (.ok u, t) ↔ (c = true → f s = .ok ()) ∧ s = t := by
  cases c <;> simp [when, query_eq_ok, pure_run]

/-- The program returns a value when run on `s`. -/
def Succeeds (p : Prog ε σ α) (s : σ) : Prop := ∃ a t, p s = (.ok a, t)

theorem succeeds_iff_isOk {p : Prog ε σ α} {s : σ} : Succeeds p s ↔ (p s).1.isOk = true := by
  rcases h : p s with ⟨r, t⟩
  cases r with
  | ok a => exact ⟨fun _ => rfl, fun _ => ⟨a, t, h⟩⟩
  | error e =>
    refine ⟨fun ⟨b, t', hp⟩ => ?_, fun he => by cases he⟩
    rw [h] at hp
    cases hp

instance {p : Prog ε σ α} {s : σ} : Decidable (Succeeds p s) :=
  decidable_of_iff _ succeeds_iff_isOk.symm

/-- Whether the program returns a value of a kind that can be decided. -/
instance decidableSatisfies (p : Prog ε σ α) (s : σ) (P : α → Prop) [DecidablePred P] :
    Decidable (∃ a t, p s = (.ok a, t) ∧ P a) :=
  match h : p s with
  | (.ok a, t) =>
    if ha : P a then .isTrue ⟨a, t, rfl, ha⟩
    else .isFalse fun ⟨b, t', heq, hb⟩ => by
      cases heq
      exact ha hb
  | (.error e, t) => .isFalse fun ⟨b, t', heq, _⟩ => by cases heq

theorem succeeds_bind {p : Prog ε σ α} {f : α → Prog ε σ β} {s : σ} :
    Succeeds (p >>= f) s ↔ ∃ a t, p s = (.ok a, t) ∧ Succeeds (f a) t := by
  refine ⟨?_, ?_⟩
  · intro h
    obtain ⟨b, t, h⟩ := h
    obtain ⟨a, s', hp, hf⟩ := bind_eq_ok.mp h
    exact ⟨a, s', hp, b, t, hf⟩
  · intro h
    obtain ⟨a, s', hp, b, t, hf⟩ := h
    exact ⟨b, t, bind_eq_ok.mpr ⟨a, s', hp, hf⟩⟩

/-- A step after which nothing can fail. -/
theorem succeeds_map {p : Prog ε σ α} {k : α → β} {s : σ} :
    Succeeds (do return k (← p)) s ↔ Succeeds p s := by
  rw [succeeds_bind]
  exact ⟨fun ⟨a, t, hp, _⟩ => ⟨a, t, hp⟩, fun ⟨a, t, hp⟩ => ⟨a, t, hp, k a, t, rfl⟩⟩

theorem issues_nil_iff_succeeds {ι : Type} {p : Prog ε σ Unit} {h : ε → Except ε ι} {l : List ι}
    {s t : σ} (hl : issues p h s = (.ok l, t)) : l = [] ↔ Succeeds p s := by
  rw [issues_nil_iff hl]
  refine ⟨fun hp => ⟨(), t, hp⟩, ?_⟩
  intro h
  obtain ⟨u, t', hp⟩ := h
  rw [← issues_store hl, hp]

theorem succeeds_query_bind {f : σ → Except ε α} {g : α → Prog ε σ β} {s : σ} :
    Succeeds (query f >>= g) s ↔ ∃ a, f s = .ok a ∧ Succeeds (g a) s := by
  simp [succeeds_bind, query_eq_ok, and_assoc]

/-- A rule, then the rest. -/
theorem succeeds_rule_bind {β : Type} {f : σ → Except ε Unit} {g : Unit → Prog ε σ β} {s : σ} :
    Succeeds (query f >>= g) s ↔ f s = .ok () ∧ Succeeds (g ()) s := by
  rw [succeeds_query_bind]
  exact ⟨fun ⟨_, hf, hg⟩ => ⟨hf, hg⟩, fun ⟨hf, hg⟩ => ⟨(), hf, hg⟩⟩

theorem succeeds_query {f : σ → Except ε α} {s : σ} : Succeeds (query f) s ↔ ∃ a, f s = .ok a := by
  simp [Succeeds, query_eq_ok]

theorem succeeds_write_bind {β : Type} {f : σ → σ} {g : Unit → Prog ε σ β} {s : σ} :
    Succeeds (write f >>= g) s ↔ Succeeds (g ()) (f s) := Iff.rfl

/-- A write made under a condition, then the rest. -/
theorem succeeds_when_write_bind {β : Type} {c : Bool} {f : σ → σ} {g : Unit → Prog ε σ β} {s : σ} :
    Succeeds (when c (write f) >>= g) s ↔ Succeeds (g ()) (if c then f s else s) := by
  cases c <;> rfl

theorem succeeds_lift_bind {x : Except ε α} {g : α → Prog ε σ β} {s : σ} :
    Succeeds (liftM x >>= g) s ↔ ∃ a, x = .ok a ∧ Succeeds (g a) s := by
  simp [succeeds_bind, lift_eq_ok, and_assoc]

/-! ### What every run keeps -/

/-- Every run of `p`, failed or not, relates the store before to the store after. -/
def Keeps (R : σ → σ → Prop) (p : Prog ε σ α) : Prop := ∀ s, R s (p s).2

section Keeps

variable {R : σ → σ → Prop}

theorem Keeps.run {p : Prog ε σ α} {s t : σ} {r : Except ε α} (h : Keeps R p)
    (hp : p s = (r, t)) : R s t := by
  have hs := h s
  rwa [hp] at hs

theorem Keeps.bind (htrans : ∀ a b c, R a b → R b c → R a c) {p : Prog ε σ α}
    {f : α → Prog ε σ β} (hp : Keeps R p) (hf : ∀ a, Keeps R (f a)) : Keeps R (p >>= f) := by
  intro s
  have h := hp s
  rw [bind_run]
  split
  · next a t he =>
    rw [he] at h
    exact htrans _ _ _ h (hf a t)
  · next e t he => simpa [he] using h

theorem Keeps.query (hrefl : ∀ a, R a a) (f : σ → Except ε α) : Keeps R (query f) := fun s => hrefl s

theorem Keeps.lift (hrefl : ∀ a, R a a) (x : Except ε α) : Keeps R (liftM x : Prog ε σ α) :=
  fun s => hrefl s

theorem Keeps.pure (hrefl : ∀ a, R a a) (a : α) : Keeps R (pure a : Prog ε σ α) := fun s => hrefl s

theorem Keeps.write {f : σ → σ} (h : ∀ s, R s (f s)) : Keeps R (write f : Prog ε σ Unit) := h

theorem Keeps.when (hrefl : ∀ a, R a a) {c : Bool} {p : Prog ε σ Unit} (h : Keeps R p) :
    Keeps R (when c p) := by
  cases c
  · exact Keeps.pure hrefl _
  · exact h

theorem Keeps.whenSome (hrefl : ∀ a, R a a) {γ : Type} {x : Option γ} {p : γ → Prog ε σ Unit}
    (h : ∀ a, Keeps R (p a)) : Keeps R (whenSome x p) := by
  cases x
  · exact Keeps.pure hrefl _
  · exact h _

theorem Keeps.handle {p : Prog ε σ α} {k : α → β} {g : ε → Except ε β} (h : Keeps R p) :
    Keeps R (handle p k g) := by
  intro s
  have hs := h s
  unfold Prog.handle
  split <;> next he => simpa [he] using hs

theorem Keeps.attempt {p : Prog ε σ α} (h : Keeps R p) : Keeps R (attempt p) := h

/-- A failed transaction writes nothing, so only its successful runs matter. -/
theorem Keeps.transaction (hrefl : ∀ a, R a a) {p : Prog ε σ α}
    (h : ∀ s a t, p s = (.ok a, t) → R s t) : Keeps R (transaction p) := by
  intro s
  unfold Prog.transaction
  split
  · next a t he => exact h s a t he
  · exact hrefl s

end Keeps

/-! ### What one run leaves -/

section Leaves

variable {I : σ → Prop} {s : σ}

/-- A step that only reads, and whatever follows it. -/
theorem query_bind_leaves {f : σ → Except ε α} {g : α → Prog ε σ β} (hs : I s)
    (h : ∀ a, f s = .ok a → I (g a s).2) : I ((query f >>= g) s).2 := by
  rw [query_bind_run]
  split
  · next a ha => exact h a ha
  · exact hs

theorem lift_bind_leaves {x : Except ε α} {g : α → Prog ε σ β} (hs : I s)
    (h : ∀ a, x = .ok a → I (g a s).2) : I (((liftM x : Prog ε σ α) >>= g) s).2 :=
  query_bind_leaves (f := fun _ => x) hs h

/-- Only the successful runs of a transaction matter. -/
theorem transaction_leaves {p : Prog ε σ α} (hs : I s) (h : ∀ a t, p s = (.ok a, t) → I t) :
    I (transaction p s).2 := by
  unfold Prog.transaction
  split
  · next a t hp => exact h a t hp
  · exact hs

/-- A step that reads after what was written. -/
theorem bind_query_leaves {p : Prog ε σ α} {f : α → σ → Except ε β} (h : I (p s).2) :
    I ((p >>= fun a => query (f a)) s).2 := by
  rw [bind_run]
  rcases hp : p s with ⟨_ | a, t⟩
  · rwa [hp] at h
  · rwa [hp] at h

end Leaves

/-- Every failed run of `p` relates the store before to the store after. -/
def FailsWithin (R : σ → σ → Prop) (p : Prog ε σ α) : Prop := ∀ s e t, p s = (.error e, t) → R s t

section FailsWithin

variable {R : σ → σ → Prop}

theorem FailsWithin.of_keeps {p : Prog ε σ α} (h : Keeps R p) : FailsWithin R p :=
  fun _ _ _ hp => h.run hp

theorem FailsWithin.bind (htrans : ∀ a b c, R a b → R b c → R a c) {p : Prog ε σ α}
    {f : α → Prog ε σ β} (hp : Keeps R p) (hf : ∀ a, FailsWithin R (f a)) :
    FailsWithin R (p >>= f) := by
  intro s e t h
  have hs := hp s
  rw [bind_run] at h
  split at h
  · next a s' hps =>
    rw [hps] at hs
    exact htrans _ _ _ hs (hf a s' e t h)
  · next e' s' hps =>
    cases h
    rwa [hps] at hs

theorem FailsWithin.query_bind (hrefl : ∀ a, R a a) {f : σ → Except ε α} {g : α → Prog ε σ β}
    (hg : ∀ a, FailsWithin R (g a)) : FailsWithin R (query f >>= g) := by
  intro s e t h
  rw [query_bind_run] at h
  split at h
  · next a _ => exact hg a s e t h
  · cases h
    exact hrefl s

/-- After the last step that can fail. -/
theorem FailsWithin.map {p : Prog ε σ α} (hp : FailsWithin R p) (k : α → β) :
    FailsWithin R (do return k (← p)) := by
  intro s e t h
  rw [bind_run] at h
  split at h
  · cases h
  · next e' s' hps =>
    cases h
    exact hp s e t hps

theorem FailsWithin.transaction (hrefl : ∀ a, R a a) (p : Prog ε σ α) :
    FailsWithin R (transaction p) := by
  intro s e t h
  unfold Prog.transaction at h
  split at h
  · cases h
  · cases h
    exact hrefl s

/-- A transaction that fails leaves the store as it was. -/
theorem FailsWithin.unchanged (p : Prog ε σ α) :
    FailsWithin (fun s t => t = s) (Prog.transaction p) :=
  FailsWithin.transaction (R := fun s t => t = s) (fun _ => rfl) p

theorem FailsWithin.write (f : σ → σ) : FailsWithin R (write f : Prog ε σ Unit) := by
  intro s e t h
  cases h

theorem FailsWithin.cases {p : Prog ε σ α} (hp : FailsWithin R p) (s : σ) :
    (∃ a, p s = (.ok a, (p s).2)) ∨ R s (p s).2 := by
  rcases h : p s with ⟨r, t⟩
  cases r with
  | ok a => exact Or.inl ⟨a, rfl⟩
  | error e => exact Or.inr (hp s e t h)

/-- A transaction succeeds or changes nothing. -/
theorem transaction_cases (q : Prog ε σ α) {p : Prog ε σ α} (hq : q = transaction p) (s : σ) :
    (∃ a, q s = (.ok a, (q s).2)) ∨ (q s).2 = s := by
  subst hq
  exact (FailsWithin.unchanged p).cases s

end FailsWithin

end Prog

/-! ### Pure steps that may fail -/

section Except

variable {ε : Type u} {α β : Type w}

/-- `if (c) throw e`. -/
def throwIf (c : Prop) [Decidable c] (e : ε) : Except ε Unit := if c then .error e else .ok ()

@[simp] theorem throwIf_eq_ok (c : Prop) [Decidable c] (e : ε) (x : Unit) :
    throwIf c e = .ok x ↔ ¬c := by
  unfold throwIf
  split <;> simp_all

theorem except_bind_eq_ok {x : Except ε α} {f : α → Except ε β} {b : β} :
    (x >>= f) = .ok b ↔ ∃ a, x = .ok a ∧ f a = .ok b := by
  cases x <;> simp [bind, Except.bind]

theorem except_map_eq_ok {x : Except ε α} {f : α → β} {b : β} :
    f <$> x = .ok b ↔ ∃ a, x = .ok a ∧ b = f a := by
  cases x <;> simp [Functor.map, Except.map, eq_comm]

/-- `if (c) await x`. -/
def onlyIf (c : Prop) [Decidable c] (x : Except ε Unit) : Except ε Unit :=
  if c then x else .ok ()

@[simp] theorem onlyIf_eq_ok (c : Prop) [Decidable c] (x : Except ε Unit) (u : Unit) :
    onlyIf c x = .ok u ↔ (c → x = .ok ()) := by
  unfold onlyIf
  split <;> simp_all

/-- `if (x) await f(x)` for a nullable `x`. -/
def forSome (x : Option α) (f : α → Except ε Unit) : Except ε Unit := x.elim (.ok ()) f

@[simp] theorem forSome_eq_ok (x : Option α) (f : α → Except ε Unit) (u : Unit) :
    forSome x f = .ok u ↔ ∀ a, x = some a → f a = .ok () := by
  cases x <;> simp [forSome]

/-- `for (const a of xs) await f(a)`. -/
def forEach (f : α → Except ε Unit) : List α → Except ε Unit
  | [] => .ok ()
  | a :: rest =>
    match f a with
    | .ok _ => forEach f rest
    | .error e => .error e

@[simp] theorem forEach_eq_ok (f : α → Except ε Unit) (l : List α) (u : Unit) :
    forEach f l = .ok u ↔ ∀ a ∈ l, f a = .ok () := by
  induction l with
  | nil => simp [forEach]
  | cons a rest ih =>
    simp only [forEach, List.forall_mem_cons]
    cases f a with
    | ok _ => simpa using ih
    | error e => simp

/-- The value looked up, or the error of a missing row. -/
def orThrow (x : Option α) (e : ε) : Except ε α := x.elim (.error e) .ok

@[simp] theorem orThrow_eq_ok (x : Option α) (e : ε) (a : α) :
    orThrow x e = .ok a ↔ x = some a := by
  cases x <;> simp [orThrow]

end Except

end Relational
