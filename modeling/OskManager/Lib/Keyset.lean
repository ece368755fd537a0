import Mathlib.Data.List.Sort

/-! Keyset pagination. Rows are listed in descending order of a key; a page is cut off at a limit,
and the next one starts below the last key of it. The rows may change between two pages: what
stays is listed once. Going back, the page is cut off from the rows above the first key. -/

namespace Keyset

universe u v

variable {α : Type u} {κ : Type v} [LinearOrder κ] {key : α → κ} {limit : ℕ}

/-! ### Lists in descending order -/

def Descending (key : α → κ) (l : List α) : Prop := l.Pairwise fun a b => key b < key a

def sortDown (key : α → κ) (l : List α) : List α := l.insertionSort fun a b => key b ≤ key a

def sortUp (key : α → κ) (l : List α) : List α := l.insertionSort fun a b => key a ≤ key b

/-- No two rows have one key. -/
def Distinct (key : α → κ) (l : List α) : Prop := l.Pairwise fun a b => key a ≠ key b

omit [LinearOrder κ] in
theorem Distinct.perm {l l' : List α} (h : Distinct key l) (hperm : l.Perm l') : Distinct key l' :=
  hperm.pairwise h fun hab => hab.symm

omit [LinearOrder κ] in
theorem Distinct.filter {l : List α} (h : Distinct key l) (p : α → Bool) :
    Distinct key (l.filter p) := List.Pairwise.sublist List.filter_sublist h

theorem Descending.distinct {l : List α} (h : Descending key l) : Distinct key l :=
  h.imp fun hab => hab.ne'

theorem Descending.unique {l l' : List α} (h : Descending key l) (h' : Descending key l')
    (hperm : l.Perm l') : l = l' :=
  List.Perm.eq_of_pairwise (fun _ _ _ _ hab hba => absurd hab (lt_asymm hba)) h h' hperm

theorem sortDown_perm (l : List α) : (sortDown key l).Perm l := List.perm_insertionSort _ _

theorem sortDown_descending {l : List α} (h : Distinct key l) :
    Descending key (sortDown key l) := by
  have hsorted : (sortDown key l).Pairwise fun a b => key b ≤ key a :=
    List.pairwise_insertionSort (fun a b => key b ≤ key a) l
  exact (hsorted.and (h.perm (sortDown_perm l).symm)).imp fun hab => lt_of_le_of_ne hab.1 hab.2.symm

theorem sortDown_eq {l L : List α} (hL : Descending key L) (hperm : L.Perm l) :
    sortDown key l = L :=
  (sortDown_descending (hL.distinct.perm hperm)).unique hL ((sortDown_perm l).trans hperm.symm)

theorem sortUp_perm (l : List α) : (sortUp key l).Perm l := List.perm_insertionSort _ _

theorem sortUp_ascending {l : List α} (h : Distinct key l) :
    (sortUp key l).Pairwise fun a b => key a < key b := by
  have hsorted : (sortUp key l).Pairwise fun a b => key a ≤ key b :=
    List.pairwise_insertionSort (fun a b => key a ≤ key b) l
  exact (hsorted.and (h.perm (sortUp_perm l).symm)).imp fun hab => lt_of_le_of_ne hab.1 hab.2

theorem sortUp_eq {l L : List α} (hL : Descending key L) (hperm : L.Perm l) :
    sortUp key l = L.reverse := by
  have hstrict : Descending key (sortUp key l).reverse :=
    List.pairwise_reverse.mpr (sortUp_ascending (hL.distinct.perm hperm))
  have heq := hstrict.unique hL
    ((List.reverse_perm _).trans ((sortUp_perm l).trans hperm.symm))
  rw [← heq, List.reverse_reverse]

/-- What is below the last row of a part is the rest. -/
theorem Descending.filter_below {A B : List α} {a : α} (h : Descending key (A ++ B))
    (ha : A.getLast? = some a) : ((A ++ B).filter fun r => decide (key r < key a)) = B := by
  obtain ⟨hA, _, hAB⟩ := List.pairwise_append.mp h
  have hmem := List.mem_of_getLast? ha
  have hnone : (A.filter fun r => decide (key r < key a)) = [] := by
    obtain ⟨A', rfl⟩ := List.getLast?_eq_some_iff.mp ha
    obtain ⟨_, _, hlast⟩ := List.pairwise_append.mp hA
    rw [List.filter_eq_nil_iff]
    intro r hr
    rw [decide_eq_true_eq, not_lt]
    rcases List.mem_append.mp hr with hr | hr
    · exact (hlast r hr a (List.mem_singleton_self a)).le
    · rw [List.mem_singleton.mp hr]
  have hall : (B.filter fun r => decide (key r < key a)) = B := by
    rw [List.filter_eq_self]
    intro r hr
    exact decide_eq_true (hAB a hmem r hr)
  rw [List.filter_append, hnone, hall, List.nil_append]

/-- What is above the first row of a part is what comes before it. -/
theorem Descending.filter_above {A B : List α} {b : α} (h : Descending key (A ++ B))
    (hb : B.head? = some b) : ((A ++ B).filter fun r => decide (key b < key r)) = A := by
  obtain ⟨_, hB, hAB⟩ := List.pairwise_append.mp h
  have hmem := List.mem_of_mem_head? (Option.mem_def.mpr hb)
  have hall : (A.filter fun r => decide (key b < key r)) = A := by
    rw [List.filter_eq_self]
    intro r hr
    exact decide_eq_true (hAB r hr b hmem)
  have hnone : (B.filter fun r => decide (key b < key r)) = [] := by
    obtain ⟨B', rfl⟩ := List.head?_eq_some_iff.mp hb
    rw [List.filter_eq_nil_iff]
    intro r hr
    rw [decide_eq_true_eq, not_lt]
    rcases List.mem_cons.mp hr with rfl | hr
    · exact le_rfl
    · exact ((List.pairwise_cons.mp hB).1 r hr).le
  rw [List.filter_append, hall, hnone, List.append_nil]

/-! ### Forward, while the rows change -/

/-- The rows below the key, in order; all of them where no page was shown yet. -/
def rowsBelow (key : α → κ) (c : Option κ) (rows : List α) : List α :=
  sortDown key (rows.filter fun r => c.all fun c => decide (key r < c))

theorem mem_rowsBelow {c : Option κ} {rows : List α} {r : α} :
    r ∈ rowsBelow key c rows ↔ r ∈ rows ∧ ∀ k ∈ c, key r < k := by
  rw [rowsBelow, (sortDown_perm _).mem_iff, List.mem_filter]
  cases c <;> simp

theorem rowsBelow_descending {c : Option κ} {rows : List α} (h : Distinct key rows) :
    Descending key (rowsBelow key c rows) := sortDown_descending (h.filter _)

/-- The pages shown of the rows as they are at each request, until one does not fill up. -/
inductive Follows (key : α → κ) (limit : ℕ) : Option κ → List (List α) → List (List α) → Prop where
  | last {c : Option κ} {rows : List α} (hlast : (rowsBelow key c rows).length ≤ limit) :
      Follows key limit c [rows] [rowsBelow key c rows]
  | more {c : Option κ} {rows : List α} {r : α} {snapshots pages : List (List α)}
      (hmore : limit < (rowsBelow key c rows).length)
      (hr : ((rowsBelow key c rows).take limit).getLast? = some r)
      (hrest : Follows key limit (some (key r)) snapshots pages) :
      Follows key limit c (rows :: snapshots) ((rowsBelow key c rows).take limit :: pages)

variable {c : Option κ} {snapshots pages : List (List α)}

/-- What is shown was there when it was shown, below the key. -/
theorem Follows.shown (h : Follows key limit c snapshots pages) {r : α} (hr : r ∈ pages.flatten) :
    (∃ rows ∈ snapshots, r ∈ rows) ∧ ∀ k ∈ c, key r < k := by
  induction h with
  | last _ =>
    rw [List.flatten_singleton, mem_rowsBelow] at hr
    exact ⟨⟨_, List.mem_cons_self, hr.1⟩, hr.2⟩
  | more _ hlast _ ih =>
    rw [List.flatten_cons, List.mem_append] at hr
    rcases hr with hr | hr
    · have hbelow := mem_rowsBelow.mp (List.mem_of_mem_take hr)
      exact ⟨⟨_, List.mem_cons_self, hbelow.1⟩, hbelow.2⟩
    · obtain ⟨⟨rows, hrows, hmem⟩, hkey⟩ := ih hr
      refine ⟨⟨rows, List.mem_cons_of_mem _ hrows, hmem⟩, fun k hk => ?_⟩
      have hcut := mem_rowsBelow.mp (List.mem_of_mem_take (List.mem_of_getLast? hlast))
      exact (hkey _ rfl).trans (hcut.2 k hk)

theorem Follows.descending (h : Follows key limit c snapshots pages)
    (hdistinct : ∀ rows ∈ snapshots, Distinct key rows) : Descending key pages.flatten := by
  induction h with
  | last _ =>
    rw [List.flatten_singleton]
    exact rowsBelow_descending (hdistinct _ List.mem_cons_self)
  | @more c rows r snapshots pages _ hlast hrest ih =>
    have hpage : Descending key ((rowsBelow key c rows).take limit) :=
      List.Pairwise.sublist (List.take_sublist _ _)
        (rowsBelow_descending (hdistinct _ List.mem_cons_self))
    rw [List.flatten_cons]
    refine List.pairwise_append.mpr
      ⟨hpage, ih fun rows hrows => hdistinct rows (List.mem_cons_of_mem _ hrows), ?_⟩
    intro a ha b hb
    have hb : key b < key r := (hrest.shown hb).2 _ rfl
    obtain ⟨A', hA'⟩ := List.getLast?_eq_some_iff.mp hlast
    rw [hA'] at ha hpage
    rcases List.mem_append.mp ha with ha | ha
    · exact hb.trans ((List.pairwise_append.mp hpage).2.2 a ha r (List.mem_singleton_self r))
    · rwa [List.mem_singleton.mp ha]

/-- What stays below the key throughout is shown. -/
theorem Follows.complete (h : Follows key limit c snapshots pages)
    (hdistinct : ∀ rows ∈ snapshots, Distinct key rows) {r : α}
    (hr : ∀ rows ∈ snapshots, r ∈ rows) (hkey : ∀ k ∈ c, key r < k) : r ∈ pages.flatten := by
  induction h with
  | last _ =>
    rw [List.flatten_singleton]
    exact mem_rowsBelow.mpr ⟨hr _ List.mem_cons_self, hkey⟩
  | @more c rows q snapshots pages _ hlast _ ih =>
    have hmem : r ∈ rowsBelow key c rows := mem_rowsBelow.mpr ⟨hr _ List.mem_cons_self, hkey⟩
    have hdesc : Descending key (rowsBelow key c rows) :=
      rowsBelow_descending (hdistinct _ List.mem_cons_self)
    rw [List.flatten_cons, List.mem_append]
    rw [← List.take_append_drop limit (rowsBelow key c rows)] at hmem hdesc
    rcases List.mem_append.mp hmem with hpage | hrest
    · exact Or.inl hpage
    · -- Below the page, and so below the last key of it.
      refine Or.inr (ih (fun rows hrows => hdistinct rows (List.mem_cons_of_mem _ hrows))
        (fun rows hrows => hr rows (List.mem_cons_of_mem _ hrows)) ?_)
      intro k hk
      cases hk
      exact (List.pairwise_append.mp hdesc).2.2 q (List.mem_of_getLast? hlast) r hrest

/-! ### Back and forth, while the rows stay -/

/-- The rows above the key, the nearest first. -/
def rowsAbove (key : α → κ) (k : κ) (rows : List α) : List α :=
  sortUp key (rows.filter fun r => decide (k < key r))

/-- The `k`-th page of a list. -/
def page (limit : ℕ) (L : List α) (k : ℕ) : List α := (L.drop (k * limit)).take limit

variable {L rows : List α} {k : ℕ}

omit [LinearOrder κ] in
theorem page_ne_nil (hlimit : 1 ≤ limit) (hinside : k * limit < L.length) :
    page limit L k ≠ [] := by
  rw [← List.length_pos_iff_ne_nil, page, List.length_take, List.length_drop]
  omega

omit [LinearOrder κ] in
/-- The pages of a list put together are the list, up to where the last one ends. -/
theorem flatMap_page (limit : ℕ) (L : List α) (n : ℕ) :
    (List.range n).flatMap (page limit L) = L.take (n * limit) := by
  induction n with
  | zero => rw [Nat.zero_mul, List.take_zero, List.range_zero, List.flatMap_nil]
  | succ n ih =>
    rw [List.range_succ, List.flatMap_append, ih, List.flatMap_singleton, page, Nat.succ_mul,
      List.take_add]

theorem rowsBelow_none (hL : Descending key L) (hperm : L.Perm rows) :
    rowsBelow key none rows = L := by
  have hall : (rows.filter fun r => (none : Option κ).all fun c => decide (key r < c)) = rows :=
    List.filter_eq_self.mpr fun _ _ => rfl
  rw [rowsBelow, hall]
  exact sortDown_eq hL hperm

/-- The rows below a page are the rest of the list. -/
theorem rowsBelow_page (hL : Descending key L) (hperm : L.Perm rows) {r : α}
    (hr : (page limit L k).getLast? = some r) :
    rowsBelow key (some (key r)) rows = L.drop ((k + 1) * limit) := by
  have hlast : (L.take ((k + 1) * limit)).getLast? = some r := by
    rw [Nat.add_mul, Nat.one_mul, List.take_add, List.getLast?_append, ← page, hr, Option.some_or]
  have hsplit := List.take_append_drop ((k + 1) * limit) L
  have hfilter : (L.filter fun q => decide (key q < key r)) = L.drop ((k + 1) * limit) := by
    have := Descending.filter_below (hsplit.symm ▸ hL) hlast
    rwa [hsplit] at this
  refine sortDown_eq (List.Pairwise.sublist (List.drop_sublist _ _) hL) ?_
  rw [← hfilter]
  exact hperm.filter _

/-- The rows above a page are the list up to it, backwards. -/
theorem rowsAbove_page (hL : Descending key L) (hperm : L.Perm rows) {r : α}
    (hr : (page limit L (k + 1)).head? = some r) :
    rowsAbove key (key r) rows = (L.take ((k + 1) * limit)).reverse := by
  have hfirst : (L.drop ((k + 1) * limit)).head? = some r := by
    rw [page, List.head?_take] at hr
    split at hr
    · cases hr
    · exact hr
  have hsplit := List.take_append_drop ((k + 1) * limit) L
  have hfilter : (L.filter fun q => decide (key r < key q)) = L.take ((k + 1) * limit) := by
    have := Descending.filter_above (hsplit.symm ▸ hL) hfirst
    rwa [hsplit] at this
  refine sortUp_eq (List.Pairwise.sublist (List.take_sublist _ _) hL) ?_
  rw [← hfilter]
  exact hperm.filter _

/-- Cutting a page off from the rows above the next one gives the page back. -/
theorem take_rowsAbove (hlen : (k + 1) * limit ≤ L.length) :
    ((L.take ((k + 1) * limit)).reverse.take limit).reverse = page limit L k := by
  have hstart : (k + 1) * limit - limit = k * limit := by rw [Nat.add_mul]; omega
  rw [List.take_reverse, List.reverse_reverse, List.length_take, Nat.min_eq_left hlen, hstart,
    page, List.drop_take]
  congr 1
  rw [Nat.add_mul]
  omega

end Keyset
