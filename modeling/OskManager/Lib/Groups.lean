import Mathlib.Data.List.Nodup

/-! A map of lists whose keys keep the order in which they came, as a `Map` of arrays does. Pushing
a value appends it to the list of its key, so the list of a key is what was pushed under it. -/

/-- No key has two lists. -/
structure Groups (κ α : Type) where
  entries : List (κ × List α)
  nodup : (entries.map Prod.fst).Nodup

namespace Groups

variable {κ α : Type} [DecidableEq κ]

/-- The list of a key in a list of groups; a key without a group has the empty one. -/
def getFrom (k : κ) : List (κ × List α) → List α
  | [] => []
  | group :: rest => if group.1 = k then group.2 else getFrom k rest

def pushTo (k : κ) (a : α) : List (κ × List α) → List (κ × List α)
  | [] => [(k, [a])]
  | group :: rest =>
    if group.1 = k then (group.1, group.2 ++ [a]) :: rest else group :: pushTo k a rest

theorem getFrom_pushTo (k k' : κ) (a : α) (groups : List (κ × List α)) :
    getFrom k' (pushTo k a groups) = getFrom k' groups ++ if k = k' then [a] else [] := by
  induction groups with
  | nil => rfl
  | cons group rest ih =>
    by_cases hk : group.1 = k
    · subst hk
      rw [pushTo, if_pos rfl, getFrom, getFrom]
      split
      · rfl
      · rw [List.append_nil]
    · rw [pushTo, if_neg hk, getFrom, getFrom, ih]
      split
      · rename_i hk'
        rw [if_neg fun h => hk (hk'.trans h.symm), List.append_nil]
      · rfl

theorem keys_pushTo (k : κ) (a : α) (groups : List (κ × List α)) :
    (pushTo k a groups).map Prod.fst =
      groups.map Prod.fst ++ if k ∈ groups.map Prod.fst then [] else [k] := by
  induction groups with
  | nil => rfl
  | cons group rest ih =>
    by_cases hk : group.1 = k
    · rw [pushTo, if_pos hk, List.map_cons, List.map_cons, if_pos (hk ▸ List.mem_cons_self),
        List.append_nil]
    · rw [pushTo, if_neg hk, List.map_cons, List.map_cons, ih, List.cons_append]
      simp only [List.mem_cons, Ne.symm hk, false_or]

theorem getFrom_of_mem {group : κ × List α} {groups : List (κ × List α)}
    (h : (groups.map Prod.fst).Nodup) (hmem : group ∈ groups) :
    getFrom group.1 groups = group.2 := by
  induction groups with
  | nil => cases hmem
  | cons g rest ih =>
    rw [List.map_cons, List.nodup_cons] at h
    rcases List.mem_cons.mp hmem with rfl | hrest
    · rw [getFrom, if_pos rfl]
    · have hne : g.1 ≠ group.1 := fun heq => h.1 (heq ▸ List.mem_map_of_mem hrest)
      rw [getFrom, if_neg hne, ih h.2 hrest]

theorem getFrom_eq_nil_or_mem (k : κ) (groups : List (κ × List α)) :
    getFrom k groups = [] ∨ (k, getFrom k groups) ∈ groups := by
  induction groups with
  | nil => exact Or.inl rfl
  | cons group rest ih =>
    rw [getFrom]
    split
    · rename_i hk
      exact Or.inr (hk ▸ List.mem_cons_self)
    · exact ih.imp_right fun h => List.mem_cons_of_mem group h

def empty : Groups κ α := ⟨[], List.nodup_nil⟩

def get (groups : Groups κ α) (k : κ) : List α := getFrom k groups.entries

def push (groups : Groups κ α) (k : κ) (a : α) : Groups κ α where
  entries := pushTo k a groups.entries
  nodup := by
    rw [keys_pushTo]
    split
    · rw [List.append_nil]
      exact groups.nodup
    · rename_i hk
      exact groups.nodup.append (List.nodup_singleton k)
        (List.disjoint_singleton.mpr hk)

omit [DecidableEq κ] in
@[simp] theorem entries_empty : (empty : Groups κ α).entries = [] := rfl

@[simp] theorem get_empty (k : κ) : (empty : Groups κ α).get k = [] := rfl

theorem get_push (groups : Groups κ α) (k k' : κ) (a : α) :
    (groups.push k a).get k' = groups.get k' ++ if k = k' then [a] else [] :=
  getFrom_pushTo k k' a groups.entries

/-- After several values have been pushed, each under its key. -/
theorem get_foldl_push (pairs : List (κ × α)) (groups : Groups κ α) (k : κ) :
    (pairs.foldl (fun m p => m.push p.1 p.2) groups).get k =
      groups.get k ++ (pairs.filter fun p => p.1 = k).map Prod.snd := by
  induction pairs generalizing groups with
  | nil => rw [List.foldl_nil, List.filter_nil, List.map_nil, List.append_nil]
  | cons p rest ih =>
    rw [List.foldl_cons, ih, get_push, List.append_assoc, List.filter_cons]
    by_cases hk : p.1 = k
    · rw [if_pos hk, if_pos (decide_eq_true hk)]
      rfl
    · rw [if_neg hk, if_neg (by simpa using hk)]
      rfl

/-- What holds of the empty list holds of every group when it holds of the list of every key. -/
theorem forall_mem_iff (groups : Groups κ α) {P : List α → Prop} (hnil : P []) :
    (∀ group ∈ groups.entries, P group.2) ↔ ∀ k, P (groups.get k) := by
  refine ⟨fun h k => ?_, fun h group hmem => ?_⟩
  · rcases getFrom_eq_nil_or_mem k groups.entries with hk | hk
    · rw [get, hk]
      exact hnil
    · exact h _ hk
  · exact getFrom_of_mem groups.nodup hmem ▸ h group.1

end Groups
