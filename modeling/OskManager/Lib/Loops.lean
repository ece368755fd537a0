import Mathlib.Data.List.Nodup
import Mathlib.Data.List.Perm.Basic
import Mathlib.Data.List.ReduceOption
import OskManager.Lib.Prog

/-! Loops of fallible steps over a list. A loop that returns has run every step, so what it returns
is known from the steps; where every step returns a list, the lists are put together. A loop that
may not come to its end has its turns limited. -/

namespace Relational

section

variable {α β ε : Type} {f : α → Except ε β} {l l' : List α} {r : List β}

theorem mapM_eq_ok_iff : l.mapM f = .ok r ↔ List.Forall₂ (fun a b => f a = .ok b) l r := by
  induction l generalizing r with
  | nil => simp [pure, Except.pure, eq_comm]
  | cons a rest ih =>
    simp only [List.mapM_cons, except_bind_eq_ok, pure, Except.pure, Except.ok.injEq, ih,
      List.forall₂_cons_left_iff]
    refine ⟨?_, ?_⟩
    · rintro ⟨b, hb, bs, hbs, rfl⟩
      exact ⟨b, bs, hb, hbs, rfl⟩
    · rintro ⟨b, bs, hb, hbs, rfl⟩
      exact ⟨b, hb, bs, hbs, rfl⟩

theorem length_of_mapM_ok (h : l.mapM f = .ok r) : r.length = l.length :=
  (mapM_eq_ok_iff.mp h).length_eq.symm

theorem mem_of_mapM_ok (h : l.mapM f = .ok r) {b : β} (hb : b ∈ r) : ∃ a ∈ l, f a = .ok b := by
  induction mapM_eq_ok_iff.mp h with
  | nil => cases hb
  | cons hstep hrest ih =>
    rcases List.mem_cons.mp hb with rfl | hb
    · exact ⟨_, List.mem_cons_self, hstep⟩
    · obtain ⟨a, ha, hf⟩ := ih (mapM_eq_ok_iff.mpr hrest) hb
      exact ⟨a, List.mem_cons_of_mem _ ha, hf⟩

theorem exists_of_mapM_ok (h : l.mapM f = .ok r) {a : α} (ha : a ∈ l) : ∃ b ∈ r, f a = .ok b := by
  induction mapM_eq_ok_iff.mp h with
  | nil => cases ha
  | cons hstep hrest ih =>
    rcases List.mem_cons.mp ha with rfl | ha
    · exact ⟨_, List.mem_cons_self, hstep⟩
    · obtain ⟨b, hb, hf⟩ := ih (mapM_eq_ok_iff.mpr hrest) ha
      exact ⟨b, List.mem_cons_of_mem _ hb, hf⟩

/-- A loop whose steps all return comes to its end. -/
theorem mapM_succeeds (h : ∀ a ∈ l, ∃ b, f a = .ok b) : ∃ r, l.mapM f = .ok r := by
  induction l with
  | nil => exact ⟨[], rfl⟩
  | cons a rest ih =>
    rw [List.forall_mem_cons] at h
    obtain ⟨b, hb⟩ := h.1
    obtain ⟨r, hr⟩ := ih h.2
    exact ⟨b :: r, mapM_eq_ok_iff.mpr (List.Forall₂.cons hb (mapM_eq_ok_iff.mp hr))⟩

/-- A step that fails or not for each element alone gives the same results in any order. -/
theorem mapM_perm (hp : l.Perm l') (h : l.mapM f = .ok r) : ∃ r', l'.mapM f = .ok r' ∧ r.Perm r' := by
  obtain ⟨r', hr', hperm⟩ := List.perm_comp_forall₂ hp.symm (mapM_eq_ok_iff.mp h)
  exact ⟨r', mapM_eq_ok_iff.mpr hr', hperm.symm⟩

end

/-! ### Steps that return lists -/

section Flatten

variable {α β ε : Type} {f : α → Except ε (List β)} {l : List α} {r : List (List β)}

theorem mem_flatten_of_mapM_ok (h : l.mapM f = .ok r) {b : β} :
    b ∈ r.flatten ↔ ∃ a ∈ l, ∃ bs, f a = .ok bs ∧ b ∈ bs := by
  rw [List.mem_flatten]
  refine ⟨?_, ?_⟩
  · rintro ⟨bs, hbs, hb⟩
    obtain ⟨a, ha, hf⟩ := mem_of_mapM_ok h hbs
    exact ⟨a, ha, bs, hf, hb⟩
  · rintro ⟨a, ha, bs, hf, hb⟩
    obtain ⟨bs', hbs', hf'⟩ := exists_of_mapM_ok h ha
    cases hf.symm.trans hf'
    exact ⟨bs, hbs', hb⟩

/-- Lists without repetitions that have nothing in common. -/
theorem nodup_flatten_of_mapM_ok {R : α → α → Prop} (h : l.mapM f = .ok r) (hl : l.Pairwise R)
    (hnodup : ∀ a ∈ l, ∀ bs, f a = .ok bs → bs.Nodup)
    (hdisjoint : ∀ a ∈ l, ∀ a' ∈ l, R a a' → ∀ bs bs', f a = .ok bs → f a' = .ok bs' →
      bs.Disjoint bs') : r.flatten.Nodup := by
  induction mapM_eq_ok_iff.mp h with
  | nil => exact List.nodup_nil
  | @cons a bs rest r hstep hrest ih =>
    obtain ⟨hfirst, hl⟩ := List.pairwise_cons.mp hl
    have hrun := mapM_eq_ok_iff.mpr hrest
    rw [List.flatten_cons]
    refine List.Nodup.append (hnodup a List.mem_cons_self bs hstep) (ih hrun hl ?_ ?_) ?_
    · exact fun a' ha' => hnodup a' (List.mem_cons_of_mem _ ha')
    · exact fun a' ha' b hb => hdisjoint a' (List.mem_cons_of_mem _ ha') b
        (List.mem_cons_of_mem _ hb)
    · intro b hb hb'
      obtain ⟨a', ha', bs', hf', hb'⟩ := (mem_flatten_of_mapM_ok hrun).mp hb'
      exact hdisjoint a List.mem_cons_self a' (List.mem_cons_of_mem _ ha') (hfirst a' ha') bs bs'
        hstep hf' hb hb'

/-- A loop over different elements, each of which returns what has its key and the property. -/
theorem flatten_of_mapM_ok (key : β → α) {P : β → Prop} (h : l.mapM f = .ok r) (hl : l.Nodup)
    (hspec : ∀ a ∈ l, ∀ bs, f a = .ok bs → bs.Nodup ∧ ∀ b, b ∈ bs ↔ key b = a ∧ P b) :
    r.flatten.Nodup ∧ ∀ b, b ∈ r.flatten ↔ key b ∈ l ∧ P b := by
  refine ⟨nodup_flatten_of_mapM_ok h hl (fun a ha bs hbs => (hspec a ha bs hbs).1) ?_, fun b => ?_⟩
  · intro a ha a' ha' hne bs bs' hbs hbs' b hb hb'
    exact hne ((((hspec a ha bs hbs).2 b).mp hb).1.symm.trans
      (((hspec a' ha' bs' hbs').2 b).mp hb').1)
  · rw [mem_flatten_of_mapM_ok h]
    refine ⟨?_, ?_⟩
    · rintro ⟨a, ha, bs, hbs, hb⟩
      obtain ⟨rfl, hP⟩ := ((hspec a ha bs hbs).2 b).mp hb
      exact ⟨ha, hP⟩
    · rintro ⟨hkey, hP⟩
      obtain ⟨bs, -, hbs⟩ := exists_of_mapM_ok h hkey
      exact ⟨key b, hkey, bs, hbs, ((hspec _ hkey bs hbs).2 b).mpr ⟨rfl, hP⟩⟩

end Flatten

/-! ### Loops that may not end -/

theorem mapM_eq_some {α β : Type} {f : α → Option β} {g : α → β} {l : List α}
    (h : ∀ a ∈ l, f a = some (g a)) : l.mapM f = some (l.map g) := by
  induction l with
  | nil => rfl
  | cons a rest ih =>
    obtain ⟨hfirst, hrest⟩ := List.forall_mem_cons.mp h
    rw [List.mapM_cons, hfirst, ih hrest]
    rfl

section While

variable {σ β : Type}

/-- `while (p(x)) { out.push(...body(x)); x = next(x) }` with at most `turns` tests of the
condition: what was pushed, or nothing when the loop is still running then. -/
def whileLoop (p : σ → Prop) [DecidablePred p] (next : σ → σ) (body : σ → Option (List β)) :
    ℕ → σ → Option (List β)
  | 0, _ => none
  | turns + 1, x =>
    if p x then do
      let pushed ← body x
      let rest ← whileLoop p next body turns (next x)
      return pushed ++ rest
    else some []

variable {p : σ → Prop} [DecidablePred p] {next : σ → σ} {x : σ} {body : σ → Option (List β)}
  {turns : ℕ}

theorem whileLoop_stop (h : ¬p x) : whileLoop p next body (turns + 1) x = some [] := if_neg h

theorem whileLoop_turn (h : p x) {l r : List β} (hbody : body x = some l)
    (hrest : whileLoop p next body turns (next x) = some r) :
    whileLoop p next body (turns + 1) x = some (l ++ r) := by
  rw [whileLoop, if_pos h, hbody, Option.bind_eq_bind, Option.bind_some, hrest]
  rfl

end While

/-! ### Batches -/

section Batches

variable {α β ε σ : Type} {l : List α}

/-- `for (let offset = 0; offset < l.length; offset += n) … l.slice(offset, offset + n)`. -/
def batches (n : ℕ) (l : List α) : List (List α) :=
  (List.range ((l.length + n - 1) / n)).map fun i => (l.drop (i * n)).take n

theorem flatten_batches_take (n k : ℕ) (l : List α) :
    ((List.range k).map fun i => (l.drop (i * n)).take n).flatten = l.take (k * n) := by
  induction k with
  | zero => simp
  | succ k ih =>
    rw [List.range_succ, List.map_append, List.flatten_append, ih, Nat.succ_mul, List.take_add]
    simp

/-- Nothing is left out between two batches. -/
theorem flatten_batches {n : ℕ} (hn : 0 < n) (l : List α) : (batches n l).flatten = l := by
  rw [batches, flatten_batches_take, List.take_of_length_le]
  have hdiv := Nat.div_add_mod (l.length + n - 1) n
  have hmod := Nat.mod_lt (l.length + n - 1) hn
  rw [Nat.mul_comm n] at hdiv
  omega

/-- What every step of a loop of programs keeps holds at its end, and each result is one of the
step for its element. -/
theorem mapM_run_keeps {I : σ → Prop} {Q : α → β → Prop} {f : α → Prog ε σ β}
    (hstep : ∀ a ∈ l, ∀ s b t, I s → f a s = (.ok b, t) → I t ∧ Q a b) {s t : σ} {r : List β}
    (hs : I s) (h : l.mapM f s = (.ok r, t)) : I t ∧ List.Forall₂ Q l r := by
  induction l generalizing s r with
  | nil =>
    rw [List.mapM_nil] at h
    obtain ⟨rfl, rfl⟩ := Prog.pure_eq_ok.mp h
    exact ⟨hs, .nil⟩
  | cons a rest ih =>
    rw [List.mapM_cons, Prog.bind_eq_ok] at h
    obtain ⟨b, s', hfirst, h⟩ := h
    rw [Prog.bind_eq_ok] at h
    obtain ⟨bs, t', hrest, h⟩ := h
    obtain ⟨rfl, rfl⟩ := Prog.pure_eq_ok.mp h
    obtain ⟨hs', hb⟩ := hstep a List.mem_cons_self s b s' hs hfirst
    obtain ⟨ht, hbs⟩ := ih (fun a ha => hstep a (List.mem_cons_of_mem _ ha)) hs' hrest
    exact ⟨ht, .cons hb hbs⟩

/-- Results of batches, put together, are results of the list. -/
theorem forall₂_flatten {Q : α → β → Prop} {ls : List (List α)} {rs : List (List β)}
    (h : List.Forall₂ (List.Forall₂ Q) ls rs) : List.Forall₂ Q ls.flatten rs.flatten := by
  induction h with
  | nil => exact .nil
  | cons hfirst _ ih =>
    rw [List.flatten_cons, List.flatten_cons]
    exact List.rel_append hfirst ih

/-- A loop that keeps an element or drops it, as a condition says. -/
theorem reduceOption_of_forall₂ {P : α → Prop} [DecidablePred P] {r : List (Option α)}
    (h : List.Forall₂ (fun a b => b = if P a then some a else none) l r) :
    r.reduceOption = l.filter fun a => decide (P a) := by
  induction h with
  | nil => rfl
  | @cons a b rest r hfirst _ ih =>
    subst hfirst
    by_cases ha : P a
    · rw [if_pos ha, List.reduceOption_cons_of_some, ih, List.filter_cons, if_pos (decide_eq_true ha)]
    · rw [if_neg ha, List.reduceOption_cons_of_none, ih, List.filter_cons,
        if_neg fun h => ha (of_decide_eq_true h)]

end Batches

end Relational
