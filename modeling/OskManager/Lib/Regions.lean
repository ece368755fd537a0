import OskManager.Lib.Table

/-! Regions of a table. A region is a set of rows; two tables agree on it when they have the same
rows of the region. A write whose rows lie outside, before and after, keeps the agreement. -/

namespace Relational

universe u v

variable {ρ : Type u} {κ : Type v} {key : ρ → κ} {P Q : ρ → Prop} {t t' t'' : Table key}

namespace Table

/-- The tables have the same rows in the region. -/
def SameOn (P : ρ → Prop) (t t' : Table key) : Prop := ∀ r, P r → (r ∈ t'.rows ↔ r ∈ t.rows)

theorem SameOn.refl (P : ρ → Prop) (t : Table key) : SameOn P t t := fun _ _ => Iff.rfl

theorem SameOn.trans (h : SameOn P t t') (h' : SameOn P t' t'') : SameOn P t t'' :=
  fun r hr => (h' r hr).trans (h r hr)

theorem SameOn.mono (h : SameOn P t t') (hsub : ∀ r, Q r → P r) : SameOn Q t t' :=
  fun r hr => h r (hsub r hr)

/-- A row of the region is found by its key in both tables, or in none. -/
theorem SameOn.exists_iff (h : SameOn P t t') (p : ρ → Prop) :
    (∃ r ∈ t'.rows, P r ∧ p r) ↔ ∃ r ∈ t.rows, P r ∧ p r := by
  constructor
  · intro hex
    obtain ⟨r, hr, hP, hp⟩ := hex
    exact ⟨r, (h r hP).mp hr, hP, hp⟩
  · intro hex
    obtain ⟨r, hr, hP, hp⟩ := hex
    exact ⟨r, (h r hP).mpr hr, hP, hp⟩

theorem sameOn_insert {r : ρ} {h : key r ∉ t.keys} (hr : ¬P r) : SameOn P t (t.insert r h) := by
  intro q hq
  rw [mem_insert]
  constructor
  · intro hmem
    rcases hmem with hold | rfl
    · exact hold
    · exact absurd hq hr
  · exact Or.inl

theorem sameOn_updateMany {p : ρ → Bool} {f : ρ → ρ} {hf : ∀ r, key (f r) = key r}
    (hout : ∀ r ∈ t.rows, p r = true → ¬P r ∧ ¬P (f r)) : SameOn P t (t.updateMany p f hf) := by
  intro q hq
  constructor
  · intro hmem
    rcases mem_updateMany_cases hf hmem with ⟨hold, _⟩ | ⟨r, hr, hp, rfl⟩
    · exact hold
    · exact absurd hq (hout r hr hp).2
  · intro hmem
    refine (mem_updateMany t p f hf q).mpr ⟨q, hmem, ?_⟩
    apply if_neg
    intro hp
    exact (hout q hmem hp).1 hq

theorem sameOn_update [DecidableEq κ] {k : κ} {f : ρ → ρ} {hf : ∀ r, key (f r) = key r}
    (hout : ∀ r ∈ t.rows, key r = k → ¬P r ∧ ¬P (f r)) : SameOn P t (t.update k f hf) :=
  sameOn_updateMany fun r hr hk => hout r hr (of_decide_eq_true hk)

theorem sameOn_deleteMany {p : ρ → Bool} (hout : ∀ r ∈ t.rows, p r = true → ¬P r) :
    SameOn P t (t.deleteMany p) := by
  intro q hq
  rw [mem_deleteMany]
  constructor
  · exact And.left
  · intro hmem
    refine ⟨hmem, Bool.eq_false_iff.mpr ?_⟩
    intro hp
    exact hout q hmem hp hq

/-- A rewrite within the region, made in both tables. -/
theorem SameOn.updateMany (h : SameOn P t t') (p : ρ → Bool) {f : ρ → ρ}
    (hf : ∀ r, key (f r) = key r) (hP : ∀ r, P (f r) ↔ P r) :
    SameOn P (t.updateMany p f hf) (t'.updateMany p f hf) := by
  have hrow (r : ρ) : P (if p r then f r else r) ↔ P r := by
    split
    · exact hP r
    · exact Iff.rfl
  intro q hq
  rw [mem_updateMany, mem_updateMany]
  constructor
  · intro hex
    obtain ⟨r, hr, rfl⟩ := hex
    exact ⟨r, (h r ((hrow r).mp hq)).mp hr, rfl⟩
  · intro hex
    obtain ⟨r, hr, rfl⟩ := hex
    exact ⟨r, (h r ((hrow r).mp hq)).mpr hr, rfl⟩

end Table

end Relational
