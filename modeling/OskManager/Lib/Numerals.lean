import Mathlib.Data.Nat.Digits.Lemmas
import Mathlib.Order.Lattice

/-! Decimal numerals of a fixed width. They are in the order of their numbers when they are compared
character by character, and every number below the bound has one. -/

namespace Numerals

/-- The number a list of decimal digits stands for. -/
def value (digits : List Char) : ℕ :=
  Nat.ofDigits 10 (digits.reverse.map fun c => c.toNat - '0'.toNat)

theorem digit_bounds {c : Char} (h : c.isDigit = true) : 48 ≤ c.toNat ∧ c.toNat < 58 := by
  simp only [Char.isDigit, ge_iff_le, Bool.and_eq_true, decide_eq_true_eq, UInt32.le_iff_toNat_le]
    at h
  exact ⟨h.1, Nat.lt_succ_of_le h.2⟩

theorem value_cons (c : Char) (l : List Char) :
    value (c :: l) = (c.toNat - 48) * 10 ^ l.length + value l := by
  simp only [value, List.reverse_cons, List.map_append, List.map_cons, List.map_nil,
    Nat.ofDigits_append, Nat.ofDigits_singleton, List.length_map, List.length_reverse]
  rw [Nat.add_comm, Nat.mul_comm]
  rfl

theorem value_lt {l : List Char} (hdigits : ∀ c ∈ l, c.isDigit = true) :
    value l < 10 ^ l.length := by
  induction l with
  | nil => decide
  | cons c rest ih =>
    obtain ⟨-, hlt⟩ := digit_bounds (hdigits c List.mem_cons_self)
    have hrest := ih fun c' hc' => hdigits c' (List.mem_cons_of_mem _ hc')
    rw [value_cons, List.length_cons, Nat.pow_succ]
    have hfirst := Nat.mul_le_mul_right (10 ^ rest.length) (show c.toNat - 48 ≤ 9 by omega)
    omega

/-- Of two numerals of one width the one that comes first is the smaller number. -/
theorem value_lt_value {l l' : List Char} (hlength : l.length = l'.length)
    (hdigits : ∀ c ∈ l, c.isDigit = true) (hdigits' : ∀ c ∈ l', c.isDigit = true)
    (h : l < l') : value l < value l' := by
  induction l generalizing l' with
  | nil =>
    cases l' with
    | nil => exact absurd h (List.not_lt_nil [])
    | cons c' rest' => simp at hlength
  | cons c rest ih =>
    cases l' with
    | nil => simp at hlength
    | cons c' rest' =>
      have htail : rest.length = rest'.length := Nat.succ.inj hlength
      obtain ⟨hlow, -⟩ := digit_bounds (hdigits c List.mem_cons_self)
      have hrest (c' : Char) (hc' : c' ∈ rest) := hdigits c' (List.mem_cons_of_mem _ hc')
      have hrest' (c : Char) (hc : c ∈ rest') := hdigits' c (List.mem_cons_of_mem _ hc)
      rw [value_cons, value_cons, ← htail]
      rcases List.cons_lt_cons_iff.mp h with hfirst | ⟨rfl, hlater⟩
      · have hnat : c.toNat < c'.toNat := hfirst
        have hmul := Nat.mul_le_mul_right (10 ^ rest.length)
          (show c.toNat - 48 + 1 ≤ c'.toNat - 48 by omega)
        have hlt := value_lt hrest
        rw [Nat.add_mul, Nat.one_mul] at hmul
        omega
      · exact Nat.add_lt_add_left (ih htail hrest hrest' hlater) _

/-- Texts that begin with parts of one length are compared by these parts first. -/
theorem lt_of_append_lt_append {α : Type} [LT α] {l l' r r' : List α}
    (hlength : l.length = l'.length) (h : l ++ r < l' ++ r') : l < l' ∨ l = l' ∧ r < r' := by
  induction l generalizing l' with
  | nil =>
    cases l' with
    | nil => exact Or.inr ⟨rfl, h⟩
    | cons x' rest' => simp at hlength
  | cons x rest ih =>
    cases l' with
    | nil => simp at hlength
    | cons x' rest' =>
      rcases List.cons_lt_cons_iff.mp h with hfirst | ⟨rfl, hlater⟩
      · exact Or.inl (List.cons_lt_cons_iff.mpr (Or.inl hfirst))
      · rcases ih (Nat.succ.inj hlength) hlater with hrest | ⟨rfl, hr⟩
        · exact Or.inl (List.cons_lt_cons_iff.mpr (Or.inr ⟨rfl, hrest⟩))
        · exact Or.inr ⟨rfl, hr⟩

/-- The numeral of a number with leading zeros. -/
def write : ℕ → ℕ → List Char
  | 0, _ => []
  | width + 1, n => Nat.digitChar (n / 10 ^ width % 10) :: write width n

@[simp] theorem length_write (width n : ℕ) : (write width n).length = width := by
  induction width with
  | zero => rfl
  | succ width ih => rw [write, List.length_cons, ih]

theorem digitChar_spec {d : ℕ} (h : d < 10) :
    (Nat.digitChar d).isDigit = true ∧ (Nat.digitChar d).toNat - 48 = d := by
  interval_cases d <;> decide

theorem write_digits {width n : ℕ} : ∀ c ∈ write width n, c.isDigit = true := by
  induction width with
  | zero => exact fun c hc => absurd hc List.not_mem_nil
  | succ width ih =>
    intro c hc
    rcases List.mem_cons.mp hc with rfl | hc
    · exact (digitChar_spec (Nat.mod_lt _ (by decide))).1
    · exact ih c hc

theorem value_write (width n : ℕ) : value (write width n) = n % 10 ^ width := by
  induction width with
  | zero => rw [Nat.pow_zero, Nat.mod_one]; rfl
  | succ width ih =>
    rw [write, value_cons, length_write, ih, (digitChar_spec (Nat.mod_lt _ (by decide))).2,
      Nat.pow_succ, Nat.mod_mul, Nat.mul_comm, Nat.add_comm]

/-! ### Digits of a base up to sixteen -/

theorem toDigits_forall {b : ℕ} (hb : 1 < b) {p : Char → Prop}
    (hp : ∀ d < b, p (Nat.digitChar d)) (n : ℕ) : ∀ c ∈ Nat.toDigits b n, p c := by
  induction n using Nat.strongRecOn with
  | ind n ih =>
    intro c hc
    rcases lt_or_ge n b with hlt | hge
    · rw [Nat.toDigits_of_lt_base hlt, List.mem_singleton] at hc
      exact hc ▸ hp n hlt
    · rw [Nat.toDigits_of_base_le hb hge, List.mem_append, List.mem_singleton] at hc
      rcases hc with hc | rfl
      · exact ih _ (Nat.div_lt_self (by omega) hb) c hc
      · exact hp _ (Nat.mod_lt _ (by omega))

/-- The digit that a character stands for. -/
def digitValue (c : Char) : ℕ := if c.isDigit then c.toNat - 48 else c.toNat - 87

def read (b : ℕ) (digits : List Char) : ℕ := digits.foldl (fun v c => b * v + digitValue c) 0

theorem digitValue_digitChar {d : ℕ} (h : d < 16) : digitValue (Nat.digitChar d) = d := by
  interval_cases d <;> decide

/-- The digits of a number read back as the number. -/
theorem read_toDigits {b : ℕ} (hb : 1 < b) (hb' : b ≤ 16) (n : ℕ) :
    read b (Nat.toDigits b n) = n := by
  induction n using Nat.strongRecOn with
  | ind n ih =>
    rcases lt_or_ge n b with hlt | hge
    · rw [Nat.toDigits_of_lt_base hlt, read, List.foldl_cons, List.foldl_nil,
        digitValue_digitChar (hlt.trans_le hb'), Nat.mul_zero, Nat.zero_add]
    · have hrest := ih _ (Nat.div_lt_self (by omega) hb)
      rw [read] at hrest
      rw [Nat.toDigits_of_base_le hb hge, read, List.foldl_concat, hrest,
        digitValue_digitChar ((Nat.mod_lt _ (by omega)).trans_le hb'), Nat.div_add_mod]

theorem read_zeros (b k : ℕ) (digits : List Char) :
    read b (List.replicate k '0' ++ digits) = read b digits := by
  induction k with
  | zero => rfl
  | succ k ih => exact ih

end Numerals
