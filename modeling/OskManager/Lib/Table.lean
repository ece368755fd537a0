import Mathlib.Algebra.Order.BigOperators.Group.List
import Mathlib.Algebra.Order.Group.Int
import Mathlib.Algebra.Ring.Int.Defs
import Mathlib.Data.List.Nodup
import Mathlib.Tactic.Tauto

/-! Relational tables with a primary key. A table is a list of rows whose keys
are pairwise different, so a row is determined by its key and a write that keeps
keys acts row by row. Nothing here depends on what the rows hold. -/

namespace Relational

universe u v

variable {ρ : Type u} {κ : Type v}

/-- Rows in storage order; `nodup` is the primary key. -/
structure Table (key : ρ → κ) where
  rows : List ρ
  nodup : (rows.map key).Nodup

namespace Table

variable {key : ρ → κ}

def empty : Table key := ⟨[], by simp⟩

def singleton (r : ρ) : Table key := ⟨[r], by simp⟩

@[simp] theorem rows_empty : (empty : Table key).rows = [] := rfl

@[simp] theorem rows_singleton (r : ρ) : (singleton r : Table key).rows = [r] := rfl

def keys (t : Table key) : List κ := t.rows.map key

/-- Some row that satisfies `p`; the first one stored, as no order is asked for. -/
def findFirst (t : Table key) (p : ρ → Bool) : Option ρ := t.rows.find? p

def findMany (t : Table key) (p : ρ → Bool) : List ρ := t.rows.filter p

def count (t : Table key) (p : ρ → Bool) : ℕ := (t.findMany p).length

/-- Rewrites every row that satisfies `p` by a function that keeps the key. -/
def updateMany (t : Table key) (p : ρ → Bool) (f : ρ → ρ) (hf : ∀ r, key (f r) = key r) :
    Table key where
  rows := t.rows.map fun r => if p r then f r else r
  nodup := by
    have h : (t.rows.map fun r => if p r then f r else r).map key = t.rows.map key := by
      rw [List.map_map]
      apply List.map_congr_left
      intro r _
      simp only [Function.comp]
      split
      · exact hf r
      · rfl
    rw [h]
    exact t.nodup

def deleteMany (t : Table key) (p : ρ → Bool) : Table key where
  rows := t.rows.filter fun r => !p r
  nodup := t.nodup.sublist (List.filter_sublist.map key)

/-- Appends a row under a key that is not in use. -/
def insert (t : Table key) (r : ρ) (h : key r ∉ t.keys) : Table key where
  rows := t.rows ++ [r]
  nodup := by
    rw [List.map_append, List.nodup_append]
    refine ⟨t.nodup, by simp, ?_⟩
    intro a ha b hb
    simp only [List.map_cons, List.map_nil, List.mem_singleton] at hb
    rintro rfl
    exact h (hb ▸ ha)

theorem mem_keys (t : Table key) (k : κ) : k ∈ t.keys ↔ ∃ r ∈ t.rows, key r = k := by
  simp [keys]

theorem key_inj (t : Table key) {r r' : ρ} (hr : r ∈ t.rows) (hr' : r' ∈ t.rows)
    (h : key r = key r') : r = r' :=
  List.inj_on_of_nodup_map t.nodup hr hr' h

theorem findFirst_eq_none (t : Table key) (p : ρ → Bool) :
    t.findFirst p = none ↔ ∀ r ∈ t.rows, p r = false := by
  simp [findFirst]

theorem findFirst_isSome (t : Table key) (p : ρ → Bool) :
    (t.findFirst p).isSome = true ↔ ∃ r ∈ t.rows, p r = true := by
  simp [findFirst]

/-- A lookup that misses clears every row it was about. -/
theorem findFirst_missed (t : Table key) (P : ρ → Prop) [DecidablePred P] (q : ρ → Bool) :
    ¬(t.findFirst fun r => decide (P r) && q r).isSome = true ↔
      ∀ r ∈ t.rows, P r → q r = false := by
  simp only [findFirst_isSome, Bool.and_eq_true, decide_eq_true_eq, not_exists, not_and,
    Bool.not_eq_true]

theorem mem_of_findFirst {t : Table key} {p : ρ → Bool} {r : ρ} (h : t.findFirst p = some r) :
    r ∈ t.rows ∧ p r = true :=
  ⟨List.mem_of_find?_eq_some h, List.find?_some h⟩

/-- A condition that names the key finds the row stored under it. -/
theorem findFirst_of_mem {t : Table key} {p : ρ → Bool} {r : ρ} (hr : r ∈ t.rows)
    (hp : p r = true) (hkey : ∀ q, p q = true → key q = key r) : t.findFirst p = some r := by
  cases h : t.findFirst p with
  | none =>
    have hmiss := (findFirst_eq_none t p).mp h r hr
    rw [hp] at hmiss
    cases hmiss
  | some q =>
    obtain ⟨hq, hwhere⟩ := mem_of_findFirst h
    rw [t.key_inj hq hr (hkey q hwhere)]

theorem mem_findMany (t : Table key) (p : ρ → Bool) (r : ρ) :
    r ∈ t.findMany p ↔ r ∈ t.rows ∧ p r = true := by
  simp [findMany]

@[simp] theorem mem_updateMany (t : Table key) (p : ρ → Bool) (f : ρ → ρ)
    (hf : ∀ r, key (f r) = key r) (r : ρ) :
    r ∈ (t.updateMany p f hf).rows ↔ ∃ q ∈ t.rows, (if p q then f q else q) = r := by
  simp [updateMany]

/-- A row after a rewrite is as it was, or is one of those rewritten. -/
theorem mem_updateMany_cases {t : Table key} {p : ρ → Bool} {f : ρ → ρ}
    (hf : ∀ r, key (f r) = key r) {q : ρ} (h : q ∈ (t.updateMany p f hf).rows) :
    (q ∈ t.rows ∧ p q = false) ∨ ∃ r ∈ t.rows, p r = true ∧ q = f r := by
  obtain ⟨r, hr, rfl⟩ := (mem_updateMany t p f hf q).mp h
  cases hp : p r with
  | true => exact Or.inr ⟨r, hr, hp, if_pos rfl⟩
  | false =>
    refine Or.inl ⟨?_, ?_⟩
    · rwa [if_neg Bool.false_ne_true]
    · rwa [if_neg Bool.false_ne_true]

@[simp] theorem mem_deleteMany (t : Table key) (p : ρ → Bool) (r : ρ) :
    r ∈ (t.deleteMany p).rows ↔ r ∈ t.rows ∧ p r = false := by
  simp [deleteMany]

@[simp] theorem mem_insert (t : Table key) (r : ρ) (h : key r ∉ t.keys) (q : ρ) :
    q ∈ (t.insert r h).rows ↔ q ∈ t.rows ∨ q = r := by
  simp [insert]

/-- A rewrite that the predicate `q` does not see commutes with a lookup by `q`. -/
theorem findFirst_updateMany (t : Table key) (p q : ρ → Bool) (f : ρ → ρ)
    (hf : ∀ r, key (f r) = key r) (hq : ∀ r, q (f r) = q r) :
    (t.updateMany p f hf).findFirst q =
      (t.findFirst q).map fun r => if p r then f r else r := by
  have hq' : ∀ r, q (if p r then f r else r) = q r := by
    intro r
    split
    · exact hq r
    · rfl
  simp only [findFirst, updateMany, List.find?_map, Function.comp_def, hq']

/-- The same for all the rows that the lookup is about. -/
theorem findMany_updateMany (t : Table key) (p q : ρ → Bool) (f : ρ → ρ)
    (hf : ∀ r, key (f r) = key r) (hq : ∀ r, q (f r) = q r) :
    (t.updateMany p f hf).findMany q = (t.findMany q).map fun r => if p r then f r else r := by
  have hq' : ∀ r, q (if p r then f r else r) = q r := by
    intro r
    split
    · exact hq r
    · rfl
  simp only [findMany, updateMany, List.filter_map, Function.comp_def, hq']

/-- A lookup that is not about the new row. -/
theorem findMany_insert_other (t : Table key) {r : ρ} (h : key r ∉ t.keys) {q : ρ → Bool}
    (hq : q r = false) : (t.insert r h).findMany q = t.findMany q := by
  rw [findMany, insert, List.filter_append, List.filter_cons_of_neg (Bool.eq_false_iff.mp hq),
    List.filter_nil, List.append_nil, findMany]

theorem updateMany_none (t : Table key) (f : ρ → ρ) (hf : ∀ r, key (f r) = key r) :
    t.updateMany (fun _ => false) f hf = t := by
  simp [updateMany]

/-- A rewrite depends on its condition only at the rows. -/
theorem updateMany_congr (t : Table key) {p q : ρ → Bool} (f : ρ → ρ)
    (hf : ∀ r, key (f r) = key r) (h : ∀ r ∈ t.rows, p r = q r) :
    t.updateMany p f hf = t.updateMany q f hf := by
  simp only [updateMany, mk.injEq]
  apply List.map_congr_left
  intro r hr
  rw [h r hr]

/-- Rewriting twice by an idempotent function is rewriting once, under either condition. -/
theorem updateMany_twice (t : Table key) (p q : ρ → Bool) (f : ρ → ρ)
    (hf : ∀ r, key (f r) = key r) (hff : ∀ r, f (f r) = f r) :
    (t.updateMany p f hf).updateMany q f hf = t.updateMany (fun r => p r || q r) f hf := by
  simp only [updateMany, List.map_map, mk.injEq]
  apply List.map_congr_left
  intro r _
  by_cases hp : p r = true <;> by_cases hq : q r = true <;> simp [hp, hq, hff]

@[simp] theorem mem_keys_insert (t : Table key) (r : ρ) (h : key r ∉ t.keys) (k : κ) :
    k ∈ (t.insert r h).keys ↔ k ∈ t.keys ∨ k = key r := by
  simp [keys, insert]

/-- Deleting by a condition on the key. -/
theorem mem_keys_deleteMany (t : Table key) (p : ρ → Bool) (q : κ → Prop)
    (hq : ∀ r, p r = true ↔ q (key r)) (k : κ) :
    k ∈ (t.deleteMany p).keys ↔ k ∈ t.keys ∧ ¬q k := by
  simp only [mem_keys, mem_deleteMany]
  refine ⟨?_, ?_⟩
  · intro h
    obtain ⟨r, ⟨hr, hp⟩, rfl⟩ := h
    refine ⟨⟨r, hr, rfl⟩, fun h => ?_⟩
    rw [(hq r).mpr h] at hp
    cases hp
  · intro h
    obtain ⟨⟨r, hr, rfl⟩, hn⟩ := h
    refine ⟨r, ⟨hr, ?_⟩, rfl⟩
    rw [← Bool.not_eq_true, hq]
    exact hn

section Lookup

variable [DecidableEq κ]

def findUnique (t : Table key) (k : κ) : Option ρ := t.findFirst fun r => decide (key r = k)

/-- Rewrites the row stored under `k`. -/
def update (t : Table key) (k : κ) (f : ρ → ρ) (hf : ∀ r, key (f r) = key r) : Table key :=
  t.updateMany (fun r => decide (key r = k)) f hf

theorem findUnique_eq_some (t : Table key) (k : κ) (r : ρ) :
    t.findUnique k = some r ↔ r ∈ t.rows ∧ key r = k := by
  refine ⟨?_, ?_⟩
  · intro h
    obtain ⟨hm, hk⟩ := mem_of_findFirst h
    exact ⟨hm, of_decide_eq_true hk⟩
  · intro h
    obtain ⟨hr, rfl⟩ := h
    cases h : t.findUnique (key r) with
    | none => simpa using (findFirst_eq_none t _).mp h r hr
    | some q =>
      obtain ⟨hq, hk⟩ := mem_of_findFirst h
      rw [t.key_inj hq hr (of_decide_eq_true hk)]

theorem findUnique_eq_none (t : Table key) (k : κ) : t.findUnique k = none ↔ k ∉ t.keys := by
  simp [findUnique, findFirst_eq_none, keys]

theorem findUnique_of_mem {t : Table key} {r : ρ} (h : r ∈ t.rows) :
    t.findUnique (key r) = some r :=
  (t.findUnique_eq_some _ _).mpr ⟨h, rfl⟩

theorem mem_of_findUnique {t : Table key} {k : κ} {r : ρ} (h : t.findUnique k = some r) :
    r ∈ t.rows :=
  ((t.findUnique_eq_some k r).mp h).1

theorem key_of_findUnique {t : Table key} {k : κ} {r : ρ} (h : t.findUnique k = some r) :
    key r = k :=
  ((t.findUnique_eq_some k r).mp h).2

@[simp] theorem findUnique_updateMany (t : Table key) (p : ρ → Bool) (f : ρ → ρ)
    (hf : ∀ r, key (f r) = key r) (k : κ) :
    (t.updateMany p f hf).findUnique k =
      (t.findUnique k).map fun r => if p r then f r else r := by
  have hkey : ∀ r, key (if p r then f r else r) = key r := by
    intro r
    split
    · exact hf r
    · rfl
  simp only [findUnique, findFirst, updateMany, List.find?_map, Function.comp_def, hkey]

@[simp] theorem findUnique_update (t : Table key) (k : κ) (f : ρ → ρ)
    (hf : ∀ r, key (f r) = key r) (k' : κ) :
    (t.update k f hf).findUnique k' =
      if k' = k then (t.findUnique k').map f else t.findUnique k' := by
  rw [update, findUnique_updateMany]
  cases h : t.findUnique k' with
  | none => split <;> rfl
  | some r =>
    have hk := key_of_findUnique h
    simp only [Option.map_some, hk, decide_eq_true_eq]
    split <;> rfl

/-- The rows of one key. -/
theorem findMany_key (t : Table key) (k : κ) :
    t.findMany (fun r => decide (key r = k)) = (t.findUnique k).toList := by
  cases h : t.findUnique k with
  | none =>
    rw [findUnique_eq_none, mem_keys] at h
    simpa [findMany] using h
  | some r =>
    have hall : ∀ q ∈ t.findMany (fun r => decide (key r = k)), q = r := by
      intro q hq
      obtain ⟨hq, hk⟩ := (mem_findMany t _ q).mp hq
      exact t.key_inj hq (mem_of_findUnique h)
        ((of_decide_eq_true hk).trans (key_of_findUnique h).symm)
    have hmem : r ∈ t.findMany (fun r => decide (key r = k)) :=
      (mem_findMany t _ r).mpr ⟨mem_of_findUnique h, decide_eq_true (key_of_findUnique h)⟩
    have hnodup : (t.findMany fun r => decide (key r = k)).Nodup :=
      (List.Nodup.of_map key t.nodup).filter _
    rw [List.eq_replicate_of_mem hall] at hnodup hmem ⊢
    have hle := List.nodup_replicate.mp hnodup
    have hpos := List.length_pos_of_mem hmem
    rw [List.length_replicate] at hpos
    rw [show (t.findMany fun r => decide (key r = k)).length = 1 by omega]
    rfl

/-- The row stored under the key of a rewrite, and the others as they were. -/
theorem mem_update_cases {t : Table key} {k : κ} {f : ρ → ρ} (hf : ∀ r, key (f r) = key r)
    {r : ρ} (hr : t.findUnique k = some r) {q : ρ} (h : q ∈ (t.update k f hf).rows) :
    (q ∈ t.rows ∧ key q ≠ k) ∨ q = f r := by
  rcases mem_updateMany_cases hf h with ⟨hq, hk⟩ | ⟨r', hr', hk, rfl⟩
  · exact Or.inl ⟨hq, of_decide_eq_false hk⟩
  · have hsame : key r' = key r := (of_decide_eq_true hk).trans (key_of_findUnique hr).symm
    rw [t.key_inj hr' (mem_of_findUnique hr) hsame]
    exact Or.inr rfl

@[simp] theorem findUnique_insert (t : Table key) (r : ρ) (h : key r ∉ t.keys) (k : κ) :
    (t.insert r h).findUnique k = if k = key r then some r else t.findUnique k := by
  simp only [findUnique, findFirst, insert, List.find?_append]
  split
  · next hk =>
    subst hk
    have := (findUnique_eq_none t (key r)).mpr h
    simp only [findUnique, findFirst] at this
    simp [this]
  · next hk => simp [Ne.symm hk]

end Lookup

section Totals

/-- The sum of a weight over all rows. -/
def total (t : Table key) (w : ρ → ℤ) : ℤ := (t.rows.map w).sum

theorem total_insert (t : Table key) (r : ρ) (h : key r ∉ t.keys) (w : ρ → ℤ) :
    (t.insert r h).total w = t.total w + w r := by
  simp [total, insert]

theorem total_congr (t : Table key) {w w' : ρ → ℤ} (h : ∀ r ∈ t.rows, w r = w' r) :
    t.total w = t.total w' := by
  rw [total, total, List.map_congr_left h]

theorem total_mono (t : Table key) {w w' : ρ → ℤ} (h : ∀ r ∈ t.rows, w r ≤ w' r) :
    t.total w ≤ t.total w' :=
  List.sum_le_sum h

theorem total_updateMany (t : Table key) (p : ρ → Bool) (f : ρ → ρ)
    (hf : ∀ r, key (f r) = key r) (w : ρ → ℤ) :
    (t.updateMany p f hf).total w = t.total fun r => w (if p r then f r else r) := by
  simp [total, updateMany, Function.comp_def]

theorem total_filter (t : Table key) (p : ρ → Bool) (w : ρ → ℤ) :
    ((t.findMany p).map w).sum = t.total fun r => if p r then w r else 0 := by
  simp only [findMany, total]
  induction t.rows with
  | nil => rfl
  | cons r rs ih =>
    cases hp : p r <;> simp [hp, ih]

theorem total_add (t : Table key) (w w' : ρ → ℤ) :
    (t.total fun r => w r + w' r) = t.total w + t.total w' := List.sum_map_add

/-- A total of weights that are not negative vanishes with each of them. -/
theorem total_eq_zero_iff (t : Table key) {w : ρ → ℤ} (hw : ∀ r ∈ t.rows, 0 ≤ w r) :
    t.total w = 0 ↔ ∀ r ∈ t.rows, w r = 0 := by
  refine ⟨fun h r hr => ?_, fun h => ?_⟩
  · have hnonneg : ∀ x ∈ t.rows.map w, 0 ≤ x := List.forall_mem_map.mpr hw
    exact List.all_zero_of_le_zero_le_of_sum_eq_zero hnonneg h (List.mem_map_of_mem hr)
  · rw [total_congr t h]
    simp [total]

/-- Taking one stored row out of a total. -/
theorem total_split [DecidableEq κ] (t : Table key) {r : ρ} (hr : r ∈ t.rows) (w : ρ → ℤ) :
    t.total w = (t.total fun q => if key q = key r then 0 else w q) + w r := by
  have key_lemma : ∀ l : List ρ, (l.map key).Nodup → r ∈ l →
      (l.map w).sum = (l.map fun q => if key q = key r then 0 else w q).sum + w r := by
    intro l
    induction l with
    | nil => intro _ h; cases h
    | cons q qs ih =>
      intro hn hm
      rw [List.map_cons, List.nodup_cons] at hn
      simp only [List.map_cons, List.sum_cons]
      rcases List.mem_cons.mp hm with rfl | hm
      · have hrest : (qs.map fun q => if key q = key r then 0 else w q) = qs.map w := by
          apply List.map_congr_left
          intro q hq
          rw [if_neg]
          intro he
          exact hn.1 (he ▸ List.mem_map_of_mem hq)
        rw [hrest, if_pos rfl]
        omega
      · have hne : key q ≠ key r := fun he => hn.1 (he ▸ List.mem_map_of_mem hm)
        rw [if_neg hne, ih hn.2 hm]
        omega
  exact key_lemma t.rows t.nodup hr

/-- Rewriting one stored row exchanges its weight. -/
theorem total_update [DecidableEq κ] (t : Table key) {r : ρ} (hr : r ∈ t.rows) (f : ρ → ρ)
    (hf : ∀ r, key (f r) = key r) (w : ρ → ℤ) :
    (t.update (key r) f hf).total w =
      (t.total fun q => if key q = key r then 0 else w q) + w (f r) := by
  have hself : w (if decide (key r = key r) then f r else r) = w (f r) := by simp
  rw [update, total_updateMany, total_split t hr, hself]
  congr 1
  apply total_congr t
  intro q _
  by_cases hq : key q = key r <;> simp [hq]

theorem count_eq_total (t : Table key) (p : ρ → Bool) :
    (t.count p : ℤ) = t.total fun r => if p r then 1 else 0 := by
  rw [← total_filter t p fun _ => 1, count]
  simp

theorem count_insert (t : Table key) (r : ρ) (h : key r ∉ t.keys) (p : ρ → Bool) :
    (t.insert r h).count p = t.count p + if p r then 1 else 0 := by
  cases hp : p r <;> simp [count, findMany, insert, List.filter_append, hp]

/-- Rewriting one stored row counts the new row in its place. -/
theorem count_update [DecidableEq κ] (t : Table key) {r : ρ} (hr : r ∈ t.rows) (f : ρ → ρ)
    (hf : ∀ r, key (f r) = key r) (p : ρ → Bool) :
    ((t.update (key r) f hf).count p + if p r then 1 else 0) =
      t.count p + if p (f r) then 1 else 0 := by
  have hafter := count_eq_total (t.update (key r) f hf) p
  have hbefore := count_eq_total t p
  rw [total_update t hr] at hafter
  rw [total_split t hr] at hbefore
  cases hp : p r <;> cases hq : p (f r) <;>
    simp only [hp, hq, if_true, Bool.false_eq_true, if_false] at hafter hbefore ⊢ <;> omega

end Totals

end Table

end Relational
