import Mathlib.Algebra.BigOperators.Group.List.Basic
import Mathlib.Data.List.Induction
import Mathlib.Data.List.Sort

/-! Totals that are kept for every key while a list is gone through in order. Right after an entry
the total of its key is the one of all entries of that key that are not after it, in whatever order
they are stored. -/

namespace RunningTotals

variable {ρ κ M α : Type} [DecidableEq κ] [AddCommMonoid M] (key : ρ → κ) (weight : ρ → M)

/-- The total of the entry's key with the entry. -/
def next (totals : κ → Option M) (r : ρ) : M := (totals (key r)).getD 0 + weight r

def add (totals : κ → Option M) (r : ρ) : κ → Option M :=
  Function.update totals (key r) (some (next key weight totals r))

/-- The total of a key when some entries have been gone through. -/
def total (entries : List ρ) (k : κ) : M :=
  ((entries.filter fun r => key r = k).map weight).sum

variable {key weight}

theorem total_perm {l l' : List ρ} (h : l.Perm l') (k : κ) :
    total key weight l k = total key weight l' k :=
  ((h.filter _).map _).sum_eq

theorem total_append (l l' : List ρ) (k : κ) :
    total key weight (l ++ l') k = total key weight l k + total key weight l' k := by
  rw [total, List.filter_append, List.map_append, List.sum_append]
  rfl

/-- The kept totals are the totals of what has been gone through. -/
theorem foldl_add (entries : List ρ) (k : κ) :
    (entries.foldl (add key weight) (fun _ => none) k).getD 0 = total key weight entries k := by
  induction entries using List.reverseRecOn with
  | nil => rfl
  | append_singleton entries r ih =>
    rw [List.foldl_concat, total_append, ← ih, add, total]
    by_cases hk : key r = k
    · subst hk
      rw [Function.update_self, next, List.filter_singleton, decide_eq_true rfl]
      simp
    · rw [Function.update_of_ne (Ne.symm hk), List.filter_singleton, decide_eq_false hk]
      simp

/-- In a list in order, what is not after an entry is what comes up to it. -/
theorem filter_le_of_ascending [LinearOrder α] {position : ρ → α} {before after : List ρ} {r : ρ}
    (h : (before ++ r :: after).Pairwise fun a b => position a < position b) :
    (before ++ r :: after).filter (fun a => position a ≤ position r) = before ++ [r] := by
  obtain ⟨-, hrest, hbefore⟩ := List.pairwise_append.mp h
  have hafter := (List.pairwise_cons.mp hrest).1
  rw [List.filter_append, List.filter_cons, if_pos (decide_eq_true le_rfl)]
  congr 1
  · exact List.filter_eq_self.mpr fun a ha =>
      decide_eq_true (hbefore a ha r List.mem_cons_self).le
  · rw [List.filter_eq_nil_iff.mpr fun a ha => ?_]
    rw [decide_eq_true_eq, not_le]
    exact hafter a ha

/-- Right after an entry, the total of its key counts the entries that are not after it. -/
theorem next_eq_total [LinearOrder α] {position : ρ → α} {entries before after : List ρ} {r : ρ}
    (h : (before ++ r :: after).Pairwise fun a b => position a < position b)
    (hperm : (before ++ r :: after).Perm entries) :
    next key weight (before.foldl (add key weight) fun _ => none) r =
      total key weight (entries.filter fun a => position a ≤ position r) (key r) := by
  rw [next, foldl_add, ← total_perm (hperm.filter _), filter_le_of_ascending h, total_append]
  congr 1
  rw [total, List.filter_singleton, decide_eq_true rfl]
  simp

end RunningTotals
