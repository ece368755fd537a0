import Mathlib.Algebra.Order.Group.Defs
import Mathlib.Data.Set.Pairwise.Basic
import Mathlib.Order.WithBot

/-! Watching entries for calls for an alarm. Entries have positions in a linear order, and a time
that does not decrease along it. An alarm covers the entries less than a width away from it. A
watch passes the entries in order; it may keep quiet until a time up to which an alarm covers
them, and an entry that arrives late puts its cursor back. -/

namespace Watching

universe u v w

/-! ### Alarms -/

section Alarms

variable {τ : Type v} [AddCommGroup τ] [LinearOrder τ] {width : τ} {alarms alarms' : Set τ} {t : τ}

/-- Some alarm is less than `width` away. -/
def Covered (width : τ) (alarms : Set τ) (t : τ) : Prop :=
  ∃ a ∈ alarms, a - width < t ∧ t < a + width

def Apart (width a b : τ) : Prop := a + width ≤ b ∨ b + width ≤ a

theorem Covered.mono (h : Covered width alarms t) (hsub : alarms ⊆ alarms') :
    Covered width alarms' t := by
  obtain ⟨a, ha, hnear⟩ := h
  exact ⟨a, hsub ha, hnear⟩

theorem Apart.symm {a b : τ} (h : Apart width a b) : Apart width b a := Or.symm h

theorem not_covered_iff [IsOrderedAddMonoid τ] :
    ¬Covered width alarms t ↔ ∀ a ∈ alarms, Apart width t a := by
  unfold Covered
  simp only [not_exists]
  refine forall_congr' fun a => ?_
  rw [not_and, not_and_or, not_lt, not_lt, le_sub_iff_add_le, Apart]

section Spaced

variable {α : Type w} {time : α → τ} {S : Set α} {x : α}

/-- Any two alarms are at least `width` apart. -/
def Spaced (width : τ) (time : α → τ) (S : Set α) : Prop :=
  S.Pairwise fun a b => Apart width (time a) (time b)

/-- An alarm where none is near. -/
theorem Spaced.insert [IsOrderedAddMonoid τ] (h : Spaced width time S)
    (hx : ¬Covered width (time '' S) (time x)) : Spaced width time (insert x S) := by
  have : Std.Symm fun a b => Apart width (time a) (time b) := ⟨fun _ _ hab => hab.symm⟩
  refine Set.pairwise_insert_of_symm.mpr ⟨h, fun b hb _ => ?_⟩
  exact not_covered_iff.mp hx (time b) (Set.mem_image_of_mem time hb)

end Spaced

end Alarms

/-! ### The watch -/

/-- How far the entries are passed, and until when the watch keeps quiet. -/
structure Watch (κ : Type u) (τ : Type v) where
  cursor : WithBot κ
  quietUntil : Option τ

section Watch

variable {κ : Type u} [LinearOrder κ] {τ : Type v} [AddCommGroup τ] [LinearOrder τ]
  {time : κ → τ} {width : τ} {calls calls' : Set κ} {alarms alarms' : Set τ} {w : Watch κ τ}

/-- Every passed call is covered, and so is what the watch will keep quiet about. -/
structure Watch.Covers (time : κ → τ) (width : τ) (calls : Set κ) (alarms : Set τ)
    (w : Watch κ τ) : Prop where
  passed : ∀ s ∈ calls, ↑s ≤ w.cursor → Covered width alarms (time s)
  quiet : ∀ t, w.quietUntil = some t →
    ∃ a ∈ alarms, a + width = t ∧ ∀ s : κ, w.cursor < ↑s → a - width < time s

/-- Nothing passed, nothing promised. -/
theorem Watch.covers_start : Watch.Covers time width calls alarms ⟨⊥, none⟩ where
  passed s _ hs := absurd hs (WithBot.not_coe_le_bot s)
  quiet t h := by cases h

theorem Watch.Covers.mono (h : w.Covers time width calls alarms) (hsub : alarms ⊆ alarms') :
    w.Covers time width calls alarms' where
  passed s hs hle := (h.passed s hs hle).mono hsub
  quiet t ht := by
    obtain ⟨a, ha, hquiet⟩ := h.quiet t ht
    exact ⟨a, hsub ha, hquiet⟩

/-- Other calls, all beyond the cursor. -/
theorem Watch.Covers.of_calls (h : w.Covers time width calls alarms)
    (hcalls : ∀ s ∈ calls', ↑s ≤ w.cursor → s ∈ calls) : w.Covers time width calls' alarms where
  passed s hs hle := h.passed s (hcalls s hs hle) hle
  quiet := h.quiet

/-- The cursor put back, and no promise kept. -/
theorem Watch.Covers.rewind (h : w.Covers time width calls alarms) {cursor : WithBot κ}
    (hle : cursor ≤ w.cursor) : Watch.Covers time width calls alarms ⟨cursor, none⟩ where
  passed s hs hs' := h.passed s hs (hs'.trans hle)
  quiet t ht := by cases ht

section Next

variable {s : κ}

/-- The next entry, where the watch keeps quiet as before. -/
theorem Watch.Covers.skip (h : w.Covers time width calls alarms) (hs : w.cursor < ↑s)
    (hnext : ∀ r ∈ calls, w.cursor < ↑r → r ≤ s → r = s)
    (hcovered : s ∈ calls → Covered width alarms (time s)) :
    Watch.Covers time width calls alarms ⟨s, w.quietUntil⟩ where
  passed r hr hle := by
    rcases le_or_gt ↑r w.cursor with hpassed | hnew
    · exact h.passed r hr hpassed
    · obtain rfl := hnext r hr hnew (WithBot.coe_le_coe.mp hle)
      exact hcovered hr
  quiet t ht := by
    obtain ⟨a, ha, hat, hquiet⟩ := h.quiet t ht
    exact ⟨a, ha, hat, fun r hr => hquiet r (hs.trans hr)⟩

/-- The next entry is before the time the watch keeps quiet until. -/
theorem Watch.Covers.quieted (h : w.Covers time width calls alarms) (hs : w.cursor < ↑s)
    (hnext : ∀ r ∈ calls, w.cursor < ↑r → r ≤ s → r = s) {t : τ} (ht : w.quietUntil = some t)
    (hlt : time s < t) : Watch.Covers time width calls alarms ⟨s, w.quietUntil⟩ := by
  refine h.skip hs hnext fun _ => ?_
  obtain ⟨a, ha, rfl, hquiet⟩ := h.quiet t ht
  exact ⟨a, ha, hquiet s hs, hlt⟩

/-- The next entry is near an alarm, which covers what follows up to its width. -/
theorem Watch.Covers.found (h : w.Covers time width calls alarms) (hmono : Monotone time)
    (hs : w.cursor < ↑s) (hnext : ∀ r ∈ calls, w.cursor < ↑r → r ≤ s → r = s) {a : τ}
    (ha : a ∈ alarms) (hafter : a - width < time s) (hbefore : time s < a + width) :
    Watch.Covers time width calls alarms ⟨s, some (a + width)⟩ where
  passed := (h.skip hs hnext fun _ => ⟨a, ha, hafter, hbefore⟩).passed
  quiet t ht := by
    cases ht
    exact ⟨a, ha, rfl, fun r hr => hafter.trans_le (hmono (WithBot.coe_lt_coe.mp hr).le)⟩

end Next

end Watch

end Watching
