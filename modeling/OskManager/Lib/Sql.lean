import Mathlib.Algebra.BigOperators.Group.List.Basic
import Mathlib.Data.List.Count
import Mathlib.Data.List.Nodup

/-! Conditions of queries in the three-valued logic of SQL. On a row a condition is true, false or
unknown, and a query selects the rows on which it is true. A comparison with a null column is
unknown, and so is its negation; a condition on related rows is never unknown. -/

namespace Sql

universe u v

variable {ρ : Type u} {σ : Type u} {α : Type v}

/-- `none` is unknown. -/
abbrev Cond (ρ : Type u) := ρ → Option Bool

/-! ### Conditions -/

/-- A comparison of a column that is never null. -/
def column (f : ρ → α) (p : α → Bool) : Cond ρ := fun r => some (p (f r))

/-- A comparison of a column that may be null. -/
def nullable (f : ρ → Option α) (p : α → Bool) : Cond ρ := fun r => (f r).map p

def isNull (f : ρ → Option α) : Cond ρ := fun r => some (f r).isNone

def not (c : Cond ρ) : Cond ρ := fun r => (c r).map Bool.not

/-- False as soon as one condition is false, unknown when it is otherwise not known. -/
def both (x y : Option Bool) : Option Bool :=
  if x = some false ∨ y = some false then some false
  else x.bind fun a => y.map fun b => a && b

def all : List (Cond ρ) → Cond ρ
  | [] => fun _ => some true
  | c :: rest => fun r => both (c r) (all rest r)

/-- True as soon as one condition is true. -/
def any (cs : List (Cond ρ)) : Cond ρ := not (all (cs.map not))

/-! ### Related rows -/

/-- The condition of the one related row; without such a row it is false. -/
def toOne (find : ρ → Option σ) (c : Cond σ) : Cond ρ := fun r => (find r).elim (some false) c

/-- Some related row is selected. -/
def present (related : ρ → List σ) (c : Cond σ) : Cond ρ := fun r =>
  some ((related r).any fun s => decide (c s = some true))

/-- No related row is selected. -/
def absent (related : ρ → List σ) (c : Cond σ) : Cond ρ := fun r =>
  some !((related r).any fun s => decide (c s = some true))

/-! ### Selection -/

/-- The condition selects the row. -/
def Selects (c : Cond ρ) (r : ρ) : Prop := c r = some true

instance (c : Cond ρ) (r : ρ) : Decidable (Selects c r) := inferInstanceAs (Decidable (_ = _))

def select (rows : List ρ) (c : Cond ρ) : List ρ := rows.filter fun r => decide (Selects c r)

theorem mem_select {rows : List ρ} {c : Cond ρ} {r : ρ} :
    r ∈ select rows c ↔ r ∈ rows ∧ Selects c r := by
  rw [select, List.mem_filter, decide_eq_true_eq]

/-- A condition that adds another one narrows what is selected. -/
theorem select_select {rows : List ρ} {c d e : Cond ρ}
    (h : ∀ r, Selects e r ↔ Selects c r ∧ Selects d r) :
    select rows e = select (select rows c) d := by
  rw [select, select, select, List.filter_filter]
  refine List.filter_congr fun r _ => ?_
  rw [Bool.eq_iff_iff, Bool.and_eq_true, decide_eq_true_eq, decide_eq_true_eq, decide_eq_true_eq, h,
    and_comm]

theorem both_eq_true {x y : Option Bool} : both x y = some true ↔ x = some true ∧ y = some true := by
  rcases x with _ | _ | _ <;> rcases y with _ | _ | _ <;> decide

theorem both_eq_false {x y : Option Bool} :
    both x y = some false ↔ x = some false ∨ y = some false := by
  rcases x with _ | _ | _ <;> rcases y with _ | _ | _ <;> decide

@[simp] theorem selects_column {f : ρ → α} {p : α → Bool} {r : ρ} :
    Selects (column f p) r ↔ p (f r) = true := by
  rw [Selects, column, Option.some.injEq]

@[simp] theorem selects_nullable {f : ρ → Option α} {p : α → Bool} {r : ρ} :
    Selects (nullable f p) r ↔ ∃ a, f r = some a ∧ p a = true := by
  rw [Selects, nullable, Option.map_eq_some_iff]

@[simp] theorem selects_isNull {f : ρ → Option α} {r : ρ} : Selects (isNull f) r ↔ f r = none := by
  rw [Selects, isNull, Option.some.injEq, Option.isNone_iff_eq_none]

theorem selects_not {c : Cond ρ} {r : ρ} : Selects (not c) r ↔ c r = some false := by
  rw [Selects, not]
  rcases c r with _ | _ | _ <;> decide

@[simp] theorem selects_all {cs : List (Cond ρ)} {r : ρ} :
    Selects (all cs) r ↔ ∀ c ∈ cs, Selects c r := by
  induction cs with
  | nil => exact iff_of_true rfl fun c hc => absurd hc List.not_mem_nil
  | cons c rest ih =>
    rw [List.forall_mem_cons, ← ih]
    exact both_eq_true

theorem selects_all_append {a b : Cond ρ} {cs ds : List (Cond ρ)} {r : ρ} :
    Selects (all [a, b, all (cs ++ ds)]) r ↔ Selects (all [a, b, all cs]) r ∧ Selects (all ds) r := by
  simp only [selects_all, List.forall_mem_cons, List.forall_mem_append, List.not_mem_nil,
    false_implies, implies_true, and_true, and_assoc]

@[simp] theorem selects_any {cs : List (Cond ρ)} {r : ρ} :
    Selects (any cs) r ↔ ∃ c ∈ cs, Selects c r := by
  rw [any, selects_not]
  induction cs with
  | nil => simp [all]
  | cons c rest ih =>
    have hnot : not c r = some false ↔ Selects c r := by
      rw [Selects, not]
      rcases c r with _ | _ | _ <;> decide
    rw [List.map_cons, List.exists_mem_cons_iff, ← ih, ← hnot]
    exact both_eq_false

@[simp] theorem selects_toOne {find : ρ → Option σ} {c : Cond σ} {r : ρ} :
    Selects (toOne find c) r ↔ ∃ s, find r = some s ∧ Selects c s := by
  rw [Selects, toOne]
  cases find r <;> simp [Selects]

@[simp] theorem selects_present {related : ρ → List σ} {c : Cond σ} {r : ρ} :
    Selects (present related c) r ↔ ∃ s ∈ related r, Selects c s := by
  simp [Selects, present]

theorem selects_absent {related : ρ → List σ} {c : Cond σ} {r : ρ} :
    Selects (absent related c) r ↔ ¬Selects (present related c) r := by
  simp [Selects, present, absent]

/-! ### Opposites -/

/-- Exactly one of the two conditions selects the row. -/
def Opposed (c d : Cond ρ) (r : ρ) : Prop := Selects d r ↔ ¬Selects c r

/-- A condition that is known is the opposite of its negation. -/
theorem opposite_not {c : Cond ρ} {r : ρ} (h : c r ≠ none) : Opposed c (not c) r := by
  rw [Opposed, selects_not, Selects]
  rcases hc : c r with _ | _ | _
  · exact absurd hc h
  · decide
  · decide

/-- The negation is completed by the rows on which the condition is unknown. -/
theorem opposite_or_unknown {n c : Cond ρ} {r : ρ} (h : Selects n r ↔ c r = none) :
    Opposed c (any [n, not c]) r := by
  rw [Opposed, selects_any]
  simp only [List.exists_mem_cons_iff, List.not_mem_nil, false_and, exists_false, or_false,
    selects_not, h]
  rw [Selects]
  rcases c r with _ | _ | _ <;> decide

theorem opposite_absent (related : ρ → List σ) (c : Cond σ) (r : ρ) :
    Opposed (present related c) (absent related c) r := selects_absent

/-- A text that is null or empty, and one that is neither. -/
theorem opposite_empty (f : ρ → Option String) (r : ρ) :
    Opposed (any [isNull f, nullable f fun v => decide (v = "")])
      (all [not (isNull f), nullable f fun v => decide (v ≠ "")]) r := by
  have hnull : isNull f r = some (f r).isNone := rfl
  simp only [Opposed, selects_any, selects_all, List.exists_mem_cons_iff, List.forall_mem_cons,
    List.not_mem_nil, false_and, exists_false, or_false, false_implies, implies_true, and_true,
    selects_isNull, selects_not, selects_nullable, decide_eq_true_eq, hnull]
  cases f r <;> simp

theorem toOne_known {find : ρ → Option σ} {c : Cond σ} {r : ρ} {s : σ} (hs : find r = some s)
    (h : c s ≠ none) : toOne find c r ≠ none := by
  rw [toOne, hs]
  exact h

theorem Opposed.toOne {find : ρ → Option σ} {c d : Cond σ} {r : ρ} {s : σ}
    (h : Opposed c d s) (hs : find r = some s) :
    Opposed (toOne find c) (toOne find d) r := by
  simp only [Opposed, selects_toOne, hs, Option.some.injEq, exists_eq_left']
  exact h

/-! ### Partitions -/

/-- Conditions that select from a list of different rows list every row once in total exactly when
one of them selects it and no other does. -/
theorem select_perm_iff {rows : List ρ} (hrows : rows.Nodup) {cs : List (Cond ρ)} :
    (cs.map (select rows)).flatten.Perm rows ↔
      ∀ r ∈ rows, cs.countP (fun c => decide (Selects c r)) = 1 := by
  classical
  have hcount (r : ρ) : (cs.map (select rows)).flatten.count r =
      cs.countP (fun c => decide (Selects c r)) * rows.count r := by
    rw [List.count_flatten, List.map_map]
    induction cs with
    | nil => rw [List.map_nil, List.sum_nil, List.countP_nil, Nat.zero_mul]
    | cons c rest ih =>
      rw [List.map_cons, List.sum_cons, ih, List.countP_cons, Nat.add_mul, Nat.add_comm]
      congr 1
      by_cases hc : Selects c r
      · rw [if_pos (decide_eq_true hc), Nat.one_mul]
        exact List.count_filter (decide_eq_true hc)
      · rw [if_neg (by simpa using hc), Nat.zero_mul]
        exact List.count_eq_zero_of_not_mem fun hmem => hc (mem_select.mp hmem).2
  rw [List.perm_iff_count]
  refine ⟨fun h r hr => ?_, fun h r => ?_⟩
  · have hone := h r
    rw [hcount, List.count_eq_one_of_mem hrows hr, Nat.mul_one] at hone
    exact hone
  · rw [hcount]
    by_cases hr : r ∈ rows
    · rw [h r hr, Nat.one_mul]
    · rw [List.count_eq_zero_of_not_mem hr, Nat.mul_zero]

theorem countP_pair_eq_one_iff {c d : Cond ρ} {r : ρ} :
    [c, d].countP (fun c => decide (Selects c r)) = 1 ↔ Opposed c d r := by
  rw [Opposed]
  by_cases hc : Selects c r <;> by_cases hd : Selects d r <;> simp [hc, hd]

end Sql
