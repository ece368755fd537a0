import Mathlib.Logic.Relation
import Mathlib.Order.Basic
import OskManager.Lib.TwoPhase

/-! Runs along which time moves on. Every action happens at a time of its own, which is no earlier
than the time of the action before. What time alone cannot end and no action ends holds at every
moment of a run. -/

namespace Relational

universe u v w

/-- The actions on a store, with their times and the stores that they may happen in. -/
structure Timeline (κ : Type u) (τ : Type v) (σ : Type w) where
  time : κ → τ
  allowed : κ → σ → Prop
  act : κ → σ → σ

namespace Timeline

variable {κ : Type u} {τ : Type v} {σ : Type w} [Preorder τ]

/-- One action, no earlier than the last one. -/
def Step (L : Timeline κ τ σ) (c c' : Clocked τ σ) : Prop :=
  ∃ k, c.now ≤ L.time k ∧ L.allowed k c.store ∧ c' = ⟨L.time k, L.act k c.store⟩

abbrev Run (L : Timeline κ τ σ) : Clocked τ σ → Clocked τ σ → Prop :=
  Relation.ReflTransGen L.Step

/-- Time alone does not end it. -/
def Lasting (I : τ → σ → Prop) : Prop := ∀ t t' s, t ≤ t' → I t s → I t' s

variable {L : Timeline κ τ σ} {I : τ → σ → Prop} {c c' : Clocked τ σ}

theorem Step.invariant (hlasting : Lasting I)
    (hact : ∀ k s, L.allowed k s → I (L.time k) s → I (L.time k) (L.act k s))
    (h : I c.now c.store) (hstep : L.Step c c') : I c'.now c'.store := by
  obtain ⟨k, hle, hallowed, rfl⟩ := hstep
  exact hact k c.store hallowed (hlasting _ _ _ hle h)

theorem Run.invariant (hlasting : Lasting I)
    (hact : ∀ k s, L.allowed k s → I (L.time k) s → I (L.time k) (L.act k s))
    (h : I c.now c.store) (hrun : L.Run c c') : I c'.now c'.store := by
  induction hrun with
  | refl => exact h
  | tail _ hstep ih => exact hstep.invariant hlasting hact ih

/-- Also later on, while nothing happens. -/
theorem Run.invariant_at (hlasting : Lasting I)
    (hact : ∀ k s, L.allowed k s → I (L.time k) s → I (L.time k) (L.act k s))
    (h : I c.now c.store) (hrun : L.Run c c') {t : τ} (ht : c'.now ≤ t) : I t c'.store :=
  hlasting _ _ _ ht (hrun.invariant hlasting hact h)

end Timeline

end Relational
