import Mathlib.Data.Finset.Insert
import OskManager.Model.Schema

/-! Ids as the requests spell them, `lib/validation/uuidCore.ts`. `UUID_PARAM_RE` admits the
hexadecimal letters in either case. The database reads both and answers in small letters, so
a text of a request and the stored id can name one row and still differ as texts. -/

namespace OSK

/-- The digits of the id count from its last one; only a letter can be a capital. -/
structure UuidText where
  uuid : Uuid
  capitals : Finset ℕ := ∅
  capitals_are_letters : ∀ i ∈ capitals, 10 ≤ uuid / 16 ^ i % 16 := by decide
  deriving DecidableEq

namespace UuidText

/-- The text that the database answers. -/
def ofUuid (id : Uuid) : UuidText where
  uuid := id
  capitals_are_letters := fun i h => absurd h (Finset.notMem_empty i)

/-- A literal is spelled as the database spells it. -/
instance (n : ℕ) : OfNat UuidText n := ⟨ofUuid n⟩

@[simp] theorem uuid_ofUuid (id : Uuid) : (ofUuid id).uuid = id := rfl

@[simp] theorem map_uuid_ofUuid (id : Option Uuid) : (id.map ofUuid).map uuid = id := by
  cases id <;> rfl

theorem ofUuid_injective : Function.Injective ofUuid := fun _ _ h => congrArg uuid h

@[simp] theorem ofUuid_inj {a b : Uuid} : ofUuid a = ofUuid b ↔ a = b := ofUuid_injective.eq_iff

@[simp] theorem map_ofUuid_eq_some {o : Option Uuid} {id : Uuid} :
    o.map ofUuid = some (ofUuid id) ↔ o = some id := by
  simp

@[simp] theorem ofUuid_mem_map {l : List Uuid} {id : Uuid} : ofUuid id ∈ l.map ofUuid ↔ id ∈ l := by
  simp

/-- The text is spelled as the database spells the id. -/
def Stored (t : UuidText) : Prop := t = ofUuid t.uuid

instance (t : UuidText) : Decidable t.Stored := inferInstanceAs (Decidable (t = _))

@[simp] theorem stored_ofUuid (id : Uuid) : (ofUuid id).Stored := rfl

/-- A text equals a stored id when it names it in the spelling of the database. -/
theorem eq_ofUuid_iff {t : UuidText} {id : Uuid} : t = ofUuid id ↔ t.uuid = id ∧ t.Stored := by
  refine ⟨?_, ?_⟩
  · rintro rfl
    exact ⟨rfl, stored_ofUuid id⟩
  · rintro ⟨rfl, h⟩
    exact h

theorem map_ofUuid_eq_some_iff {o : Option Uuid} {t : UuidText} :
    o.map ofUuid = some t ↔ o = some t.uuid ∧ t.Stored := by
  cases o with
  | none => simp
  | some id =>
    rw [Option.map_some, Option.some_inj, Option.some_inj, eq_comm, eq_ofUuid_iff, eq_comm]

theorem Stored.eq_ofUuid_iff {t : UuidText} (h : t.Stored) {id : Uuid} :
    t = ofUuid id ↔ t.uuid = id := by
  rw [UuidText.eq_ofUuid_iff, and_iff_left h]

theorem ne_ofUuid_of_uuid_ne {t : UuidText} {id : Uuid} (h : t.uuid ≠ id) : t ≠ ofUuid id :=
  fun heq => h (eq_ofUuid_iff.mp heq).1

end UuidText

end OSK
