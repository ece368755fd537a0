import Mathlib.Logic.Function.Basic
import OskManager.Lib.Table

/-! Writing a row under its key, whether there is one or not, and deleting by key. As functions from
keys to rows, a table then changes at one key. -/

namespace Relational.Table

universe u v

variable {ρ : Type u} {κ : Type v} {key : ρ → κ} [DecidableEq κ]

def deleteKey (t : Table key) (k : κ) : Table key := t.deleteMany fun r => decide (key r = k)

def upsert (t : Table key) (r : ρ) : Table key :=
  (t.deleteKey (key r)).insert r <| by
    rw [deleteKey, mem_keys_deleteMany _ _ (fun k => k = key r) fun q => decide_eq_true_iff]
    exact fun h => h.2 rfl

theorem mem_deleteKey (t : Table key) (k : κ) (r : ρ) :
    r ∈ (t.deleteKey k).rows ↔ r ∈ t.rows ∧ key r ≠ k := by
  rw [deleteKey, mem_deleteMany, decide_eq_false_iff_not]

theorem mem_upsert (t : Table key) (r q : ρ) :
    q ∈ (t.upsert r).rows ↔ (q ∈ t.rows ∧ key q ≠ key r) ∨ q = r := by
  rw [upsert, mem_insert, mem_deleteKey]

theorem findUnique_deleteKey (t : Table key) (k : κ) :
    (t.deleteKey k).findUnique = Function.update t.findUnique k none := by
  funext k'
  by_cases hk : k' = k
  · subst hk
    rw [Function.update_self, findUnique_eq_none, mem_keys]
    intro h
    obtain ⟨r, hr, hkey⟩ := h
    exact ((mem_deleteKey _ _ _).mp hr).2 hkey
  · rw [Function.update_of_ne hk]
    ext r
    rw [findUnique_eq_some, findUnique_eq_some, mem_deleteKey, and_assoc]
    refine and_congr_right fun _ => and_iff_right_of_imp fun hkey => ?_
    rwa [hkey]

theorem findUnique_upsert (t : Table key) (r : ρ) :
    (t.upsert r).findUnique = Function.update t.findUnique (key r) (some r) := by
  funext k
  rw [upsert, findUnique_insert, findUnique_deleteKey]
  by_cases hk : k = key r
  · rw [if_pos hk, hk, Function.update_self]
  · rw [if_neg hk, Function.update_of_ne hk, Function.update_of_ne hk]

end Relational.Table
