import Mathlib.Data.List.Chain
import Mathlib.Data.Set.Insert
import Mathlib.Order.GaloisConnection.Defs
import Mathlib.Order.SuccPred.Basic

/-! Calendars of bookings over any linear order of instants. A calendar gives each
record name at most one booking: a half-open interval and the resources it uses.
Two bookings clash when they have an instant and a resource in common. -/

namespace Booking

universe u v w

/-- What one record occupies: the instants `[start, stop)` of every resource in `uses`. -/
structure Entry (τ : Type u) (ρ : Type v) where
  start : τ
  stop : τ
  uses : Set ρ

namespace Entry

variable {τ : Type u} {ρ : Type v} [LinearOrder τ]

/-- The two intervals have an instant in common. -/
def Meets (a b : Entry τ ρ) : Prop :=
  ∃ t, a.start ≤ t ∧ t < a.stop ∧ b.start ≤ t ∧ t < b.stop

def Clash (a b : Entry τ ρ) : Prop := a.Meets b ∧ ∃ r, r ∈ a.uses ∧ r ∈ b.uses

theorem Meets.symm {a b : Entry τ ρ} (h : a.Meets b) : b.Meets a := by
  obtain ⟨t, h1, h2, h3, h4⟩ := h
  exact ⟨t, h3, h4, h1, h2⟩

theorem Clash.symm {a b : Entry τ ρ} (h : a.Clash b) : b.Clash a := by
  obtain ⟨hm, r, ha, hb⟩ := h
  exact ⟨hm.symm, r, hb, ha⟩

/-- The comparison a query makes is necessary for meeting, whatever the two lengths are. -/
theorem Meets.crossing {a b : Entry τ ρ} (h : a.Meets b) : a.start < b.stop ∧ b.start < a.stop := by
  obtain ⟨t, h1, h2, h3, h4⟩ := h
  exact ⟨lt_of_le_of_lt h1 h4, lt_of_le_of_lt h3 h2⟩

/-- Intervals that are not empty meet at the later one of their starts. -/
theorem meets_iff_crossing {a b : Entry τ ρ} (ha : a.start < a.stop) (hb : b.start < b.stop) :
    a.Meets b ↔ a.start < b.stop ∧ b.start < a.stop := by
  refine ⟨Meets.crossing, fun ⟨hab, hba⟩ => ?_⟩
  exact ⟨max a.start b.start, le_max_left _ _, max_lt ha hba, le_max_right _ _, max_lt hab hb⟩

end Entry

abbrev Calendar (ι : Type w) (τ : Type u) (ρ : Type v) := ι → Option (Entry τ ρ)

namespace Calendar

variable {ι : Type w} {τ : Type u} {ρ : Type v} [LinearOrder τ]

/-- No two records clash. -/
def ConflictFree (c : Calendar ι τ ρ) : Prop :=
  ∀ i j, i ≠ j → ∀ a b, c i = some a → c j = some b → ¬a.Clash b

/-- A booking `e` under the name `i` clashes with no other record. -/
def FreeFor (c : Calendar ι τ ρ) (i : ι) (e : Entry τ ρ) : Prop :=
  ∀ j, j ≠ i → ∀ b, c j = some b → ¬e.Clash b

theorem ConflictFree.freeFor {c : Calendar ι τ ρ} (h : c.ConflictFree) {i : ι} {a : Entry τ ρ}
    (ha : c i = some a) : c.FreeFor i a :=
  fun j hj b hb => h i j (Ne.symm hj) a b ha hb

/-- A slot is free for several resources when it is free for each of them. -/
theorem freeFor_iff_forall_mem (c : Calendar ι τ ρ) (i : ι) (e : Entry τ ρ) :
    c.FreeFor i e ↔ ∀ r ∈ e.uses, c.FreeFor i ⟨e.start, e.stop, {r}⟩ := by
  refine ⟨?_, ?_⟩
  · rintro h r hr j hj b hb ⟨hm, q, hq, hqb⟩
    rw [Set.mem_singleton_iff] at hq
    subst hq
    exact h j hj b hb ⟨hm, q, hr, hqb⟩
  · rintro h j hj b hb ⟨hm, r, hr, hrb⟩
    exact h r hr j hj b hb ⟨hm, r, rfl, hrb⟩

theorem FreeFor.mono {c : Calendar ι τ ρ} {i : ι} {e e' : Entry τ ρ} (h : c.FreeFor i e)
    (hs : e'.start = e.start) (ht : e'.stop = e.stop) (hu : e'.uses ⊆ e.uses) :
    c.FreeFor i e' := by
  rintro j hj b hb ⟨⟨t, h1, h2, h3, h4⟩, r, hr, hrb⟩
  exact h j hj b hb ⟨⟨t, hs ▸ h1, ht ▸ h2, h3, h4⟩, r, hu hr, hrb⟩

/-- No record but the skipped one holds `r` for an interval that crosses the window. This is
what one lookup of a conflict establishes. -/
def Open (c : Calendar ι τ ρ) (skip : Option ι) (start stop : τ) (r : ρ) : Prop :=
  ∀ j b, c j = some b → skip ≠ some j → r ∈ b.uses → ¬(b.start < stop ∧ start < b.stop)

theorem Open.freeFor {c : Calendar ι τ ρ} {skip : Option ι} {start stop : τ} {r : ρ} {i : ι}
    (h : c.Open skip start stop r) (hs : ∀ j, skip = some j → j = i) :
    c.FreeFor i ⟨start, stop, {r}⟩ := by
  rintro j hj b hb ⟨hm, q, hq, hqb⟩
  rw [Set.mem_singleton_iff] at hq
  subst hq
  have hcross := hm.crossing
  exact h j b hb (fun hsk => hj (hs j hsk)) hqb ⟨hcross.2, hcross.1⟩

/-- Every record but the skipped one that holds `r` satisfies `P`. -/
def Each (c : Calendar ι τ ρ) (skip : Option ι) (r : ρ) (P : Entry τ ρ → Prop) : Prop :=
  ∀ j b, c j = some b → skip ≠ some j → r ∈ b.uses → P b

theorem open_iff_each (c : Calendar ι τ ρ) (skip : Option ι) (start stop : τ) (r : ρ) :
    c.Open skip start stop r ↔ c.Each skip r fun b => ¬(b.start < stop ∧ start < b.stop) := Iff.rfl

omit [LinearOrder τ] in
/-- Where every record satisfies `P`, it is enough to compare two predicates under `P`. -/
theorem Each.congr {c : Calendar ι τ ρ} {skip : Option ι} {r : ρ} {P Q R : Entry τ ρ → Prop}
    (h : c.Each skip r P) (hQR : ∀ b, P b → (Q b ↔ R b)) : c.Each skip r Q ↔ c.Each skip r R := by
  constructor <;> intro hq j b hb hskip hr
  · exact (hQR b (h j b hb hskip hr)).mp (hq j b hb hskip hr)
  · exact (hQR b (h j b hb hskip hr)).mpr (hq j b hb hskip hr)

/-- Every record of `c'` is a record of `c` with the same interval and no more resources. -/
def Shrinks (c c' : Calendar ι τ ρ) : Prop :=
  ∀ i b, c' i = some b →
    ∃ a, c i = some a ∧ b.start = a.start ∧ b.stop = a.stop ∧ b.uses ⊆ a.uses

theorem ConflictFree.shrink {c c' : Calendar ι τ ρ} (h : c.ConflictFree) (hs : Shrinks c c') :
    c'.ConflictFree := by
  rintro i j hij a' b' ha' hb' ⟨⟨t, h1, h2, h3, h4⟩, r, hra, hrb⟩
  obtain ⟨a, ha, has, hat, hau⟩ := hs i a' ha'
  obtain ⟨b, hb, hbs, hbt, hbu⟩ := hs j b' hb'
  exact h i j hij a b ha hb
    ⟨⟨t, has ▸ h1, hat ▸ h2, hbs ▸ h3, hbt ▸ h4⟩, r, hau hra, hbu hrb⟩

/-- Rewriting the records of a set `I`, each to nothing or to a booking that clashes neither
with a record outside `I` nor with another rewritten one, is exactly what keeps a calendar
conflict-free. -/
theorem conflictFree_rewrite_iff {c c' : Calendar ι τ ρ} (h : c.ConflictFree) (I : Set ι)
    (hout : ∀ i, i ∉ I → c' i = c i) :
    c'.ConflictFree ↔ ∀ i ∈ I, ∀ e, c' i = some e → c'.FreeFor i e := by
  refine ⟨?_, ?_⟩
  · intro h' i _ e he
    exact h'.freeFor he
  · intro hI i j hij a b ha hb hc
    by_cases hi : i ∈ I
    · exact hI i hi a ha j (Ne.symm hij) b hb hc
    by_cases hj : j ∈ I
    · exact hI j hj b hb i hij a ha hc.symm
    rw [hout i hi] at ha
    rw [hout j hj] at hb
    exact h i j hij a b ha hb hc

/-- When the rewritten records held nothing before, a slot is free afterwards if it was free and
none of the rewritten ones has taken it. -/
theorem freeFor_rewrite_iff {c c' : Calendar ι τ ρ} {I : Set ι} (hout : ∀ j, j ∉ I → c' j = c j)
    (hin : ∀ j, j ∈ I → c j = none) (i : ι) (e : Entry τ ρ) :
    c'.FreeFor i e ↔
      c.FreeFor i e ∧ ∀ j ∈ I, j ≠ i → ∀ b, c' j = some b → ¬e.Clash b := by
  refine ⟨?_, ?_⟩
  · refine fun h => ⟨fun j hj b hb => ?_, fun j _ hj b hb => h j hj b hb⟩
    by_cases hI : j ∈ I
    · rw [hin j hI] at hb
      cases hb
    · exact h j hj b (hout j hI ▸ hb)
  · rintro ⟨h, hnew⟩ j hj b hb
    by_cases hI : j ∈ I
    · exact hnew j hI hj b hb
    · exact h j hj b (hout j hI ▸ hb)

/-- The case of one rewritten record. -/
theorem conflictFree_set_iff {c c' : Calendar ι τ ρ} (h : c.ConflictFree) (i : ι)
    (hout : ∀ j, j ≠ i → c' j = c j) :
    c'.ConflictFree ↔ ∀ e, c' i = some e → c.FreeFor i e := by
  rw [conflictFree_rewrite_iff h {i} (fun j hj => hout j (by simpa using hj))]
  have hfree (e : Entry τ ρ) : c'.FreeFor i e ↔ c.FreeFor i e := by
    constructor <;> intro hf j hj b hb
    · exact hf j hj b (by rwa [hout j hj])
    · exact hf j hj b (by rwa [hout j hj] at hb)
  simp only [Set.mem_singleton_iff, forall_eq, hfree]

theorem ConflictFree.set {c c' : Calendar ι τ ρ} (h : c.ConflictFree) (i : ι)
    (hout : ∀ j, j ≠ i → c' j = c j) (hi : ∀ e, c' i = some e → c.FreeFor i e) :
    c'.ConflictFree :=
  (conflictFree_set_iff h i hout).mpr hi

end Calendar

/-! ### Grids

A grid rounds instants down to its cells. A slot of whole cells that avoids a rounded interval
can meet the interval itself only in the cell in which the interval ends. -/

section Grid

variable {τ : Type u} {γ : Type v} [LinearOrder τ] [LinearOrder γ] {cell : γ → τ} {floor : τ → γ}

theorem before_of_le_floor (h : GaloisConnection cell floor) {b : γ} {start : τ}
    (hb : b ≤ floor start) : cell b ≤ start := h.l_le hb

theorem ends_in_first_cell [SuccOrder γ] [NoMaxOrder γ] (h : GaloisConnection cell floor) {a : γ}
    {stop : τ} (ha : floor stop ≤ a) : stop < cell (Order.succ a) :=
  h.lt_iff_lt.mpr (Order.lt_succ_iff.mpr ha)

end Grid

/-! ### Neighbours

In a list that is sorted by start it is enough to compare neighbours, because an interval that is
not empty ends after every one before it. -/

section Neighbours

variable {τ : Type u} {α : Type v} [LinearOrder τ] (start stop : α → τ)

/-- The first two neighbours of which the second starts before the first one ends. -/
def firstOverlap : List α → Option (α × α)
  | previous :: current :: rest =>
    if start current < stop previous then some (previous, current)
    else firstOverlap (current :: rest)
  | _ => none

variable {start stop}

theorem firstOverlap_eq_none {l : List α} :
    firstOverlap start stop l = none ↔ l.IsChain fun a b => stop a ≤ start b := by
  induction l with
  | nil => simp [firstOverlap]
  | cons a rest ih =>
    cases rest with
    | nil => simp [firstOverlap]
    | cons b rest =>
      rw [firstOverlap, List.isChain_cons_cons, ← ih]
      split
      · rename_i h
        simp [h]
      · rename_i h
        simp [not_lt.mp h]

/-- Neighbours do not cross in a sorted list exactly when no two of its intervals do. -/
theorem isChain_iff_pairwise_not_crossing {l : List α} (hlt : ∀ a ∈ l, start a < stop a)
    (hsorted : l.Pairwise fun a b => start a ≤ start b) :
    l.IsChain (fun a b => stop a ≤ start b) ↔
      l.Pairwise fun a b => ¬(start a < stop b ∧ start b < stop a) := by
  refine ⟨fun h => ?_, fun h => ?_⟩
  · -- the relation of neighbours is transitive where no interval is empty
    let Before := fun a b : α => stop a ≤ start b ∧ start b < stop b
    have htrans : IsTrans α Before :=
      ⟨fun a b c hab hbc => ⟨hab.1.trans (hab.2.le.trans hbc.1), hbc.2⟩⟩
    have hchain : l.IsChain Before := h.imp_of_mem_imp fun a b _ hb hab => ⟨hab, hlt b hb⟩
    exact hchain.pairwise.imp fun hab hcross => absurd hab.1 (not_le.mpr hcross.2)
  · have hbefore : l.Pairwise fun a b => stop a ≤ start b := by
      refine (h.and hsorted).imp_of_mem fun {a b} _ hb hab => ?_
      have hcross : start a < stop b := lt_of_le_of_lt hab.2 (hlt b hb)
      exact not_lt.mp fun hlater => hab.1 ⟨hcross, hlater⟩
    exact hbefore.isChain

end Neighbours

end Booking
