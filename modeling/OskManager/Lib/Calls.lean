import Mathlib.Logic.Relation

/-! Runs of calls on a store, one after the other. What every allowed call keeps holds in every
store that a run reaches. -/

namespace Relational

universe u v

/-- The calls on a store, with the stores that each may be made in. -/
structure Calls (κ : Type u) (σ : Type v) where
  allowed : κ → σ → Prop
  act : κ → σ → σ

namespace Calls

variable {κ : Type u} {σ : Type v}

/-- Every call in every store. -/
def unrestricted (act : κ → σ → σ) : Calls κ σ := ⟨fun _ _ => True, act⟩

def Step (L : Calls κ σ) (s s' : σ) : Prop := ∃ k, L.allowed k s ∧ s' = L.act k s

abbrev Run (L : Calls κ σ) : σ → σ → Prop := Relation.ReflTransGen L.Step

/-- The store after a list of calls. -/
def after (L : Calls κ σ) (ks : List κ) (s : σ) : σ := ks.foldl (fun s k => L.act k s) s

def AllAllowed (L : Calls κ σ) : List κ → σ → Prop
  | [], _ => True
  | k :: ks, s => L.allowed k s ∧ AllAllowed L ks (L.act k s)

variable {L : Calls κ σ} {I : σ → Prop} {s s' : σ}

theorem run_after (L : Calls κ σ) (ks : List κ) (s : σ) (h : L.AllAllowed ks s) :
    L.Run s (L.after ks s) := by
  induction ks generalizing s with
  | nil => exact .refl
  | cons k ks ih => exact .head ⟨k, h.1, rfl⟩ (ih _ h.2)

theorem unrestricted_run_after (act : κ → σ → σ) (ks : List κ) (s : σ) :
    (unrestricted act).Run s ((unrestricted act).after ks s) := by
  apply run_after _ ks
  induction ks generalizing s with
  | nil => trivial
  | cons k ks ih => exact ⟨trivial, ih _⟩

theorem Run.invariant (hact : ∀ k s, L.allowed k s → I s → I (L.act k s)) (h : I s)
    (hrun : L.Run s s') : I s' := by
  induction hrun with
  | refl => exact h
  | tail _ hstep ih =>
    obtain ⟨k, hallowed, rfl⟩ := hstep
    exact hact k _ hallowed ih

/-- A run stays one when more calls are allowed. -/
theorem Run.mono {L' : Calls κ σ} (hact : ∀ k s, L'.act k s = L.act k s)
    (hsub : ∀ k s, L.allowed k s → L'.allowed k s) (hrun : L.Run s s') : L'.Run s s' := by
  induction hrun with
  | refl => exact .refl
  | tail _ hstep ih =>
    obtain ⟨k, hallowed, rfl⟩ := hstep
    exact ih.tail ⟨k, hsub k _ hallowed, (hact k _).symm⟩

end Calls

end Relational
