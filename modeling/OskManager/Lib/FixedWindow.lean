import Mathlib.Data.List.Basic
import Mathlib.Order.Lattice

/-! Budgets of fixed windows. A reservation opens a window when there is none or the last one has
expired, and otherwise counts in the window that is open. A window has at most `limit`
reservations. An interval that reaches over at most two windows has at most twice as many. -/

namespace FixedWindow

universe u

/-- A window with its reservations and its end. -/
structure Window (τ : Type u) where
  count : ℕ
  expiry : τ

/-- How many reservations a window may have, and when a window ends that opens at a time. -/
structure Budget (τ : Type u) where
  limit : ℕ
  expiry : τ → τ

namespace Budget

variable {τ : Type u} [LinearOrder τ] (b : Budget τ) {now : τ} {w : Option (Window τ)}
  {v : Window τ}

/-- The window after a reservation, or `none` if the reservation is refused. -/
def reserve (now : τ) : Option (Window τ) → Option (Window τ)
  | none => some ⟨1, b.expiry now⟩
  | some w =>
    if w.expiry ≤ now then some ⟨1, b.expiry now⟩
    else if w.count < b.limit then some ⟨w.count + 1, w.expiry⟩
    else none

def Closed (now : τ) (w : Option (Window τ)) : Prop := ∀ v, w = some v → v.expiry ≤ now

theorem reserve_of_closed (h : Closed now w) : b.reserve now w = some ⟨1, b.expiry now⟩ := by
  cases w with
  | none => rfl
  | some v => exact if_pos (h v rfl)

variable {b}

theorem reserve_eq_some (h : b.reserve now w = some v) :
    (Closed now w ∧ v = ⟨1, b.expiry now⟩) ∨
      ∃ u, w = some u ∧ now < u.expiry ∧ u.count < b.limit ∧ v = ⟨u.count + 1, u.expiry⟩ := by
  cases w with
  | none => exact Or.inl ⟨nofun, (Option.some_inj.mp h).symm⟩
  | some u =>
    simp only [reserve] at h
    split at h
    · next hexpired =>
      refine Or.inl ⟨fun v hv => ?_, (Option.some_inj.mp h).symm⟩
      obtain rfl := Option.some_inj.mp hv
      exact hexpired
    · next hopen =>
      split at h
      · next hcount =>
        exact Or.inr ⟨u, rfl, not_le.mp hopen, hcount, (Option.some_inj.mp h).symm⟩
      · cases h

theorem reserve_eq_none :
    b.reserve now w = none ↔ ∃ v, w = some v ∧ now < v.expiry ∧ b.limit ≤ v.count := by
  cases w with
  | none => simp [reserve]
  | some v =>
    simp only [reserve, Option.some.injEq, exists_eq_left']
    split
    · next hexpired => simp [hexpired]
    · next hopen =>
      split
      · next hcount => simp [hcount]
      · next hfull => simp [not_le.mp hopen, not_lt.mp hfull]

/-- What every window has: it was opened at some time and is not overfull. -/
def Sound (b : Budget τ) (w : Option (Window τ)) : Prop :=
  ∀ v, w = some v → v.count ≤ b.limit ∧ ∃ opened, v.expiry = b.expiry opened

theorem Sound.reserve (hlimit : 1 ≤ b.limit) (h : b.Sound w) (hv : b.reserve now w = some v) :
    b.Sound (some v) := by
  intro v' hv'
  obtain rfl := Option.some_inj.mp hv'
  rcases reserve_eq_some hv with ⟨_, rfl⟩ | ⟨u, hu, _, hcount, rfl⟩
  · exact ⟨hlimit, now, rfl⟩
  · exact ⟨hcount, (h u hu).2⟩

/-- Reservations at the times of a list, none of them refused. -/
inductive Granted (b : Budget τ) : List τ → Option (Window τ) → Option (Window τ) → Prop where
  | nil (w : Option (Window τ)) : Granted b [] w w
  | cons {t : τ} {ts : List τ} {w w' : Option (Window τ)} {v : Window τ}
      (first : b.reserve t w = some v) (rest : Granted b ts (some v) w') : Granted b (t :: ts) w w'

variable {ts : List τ} {w' : Option (Window τ)}

theorem Granted.sound (hlimit : 1 ≤ b.limit) (h : b.Granted ts w w') (hw : b.Sound w) :
    b.Sound w' := by
  induction h with
  | nil => exact hw
  | cons first _ ih => exact ih (hw.reserve hlimit first)

/-! ### One window -/

/-- What is left of a window bounds the reservations before its end. -/
theorem Granted.countP_before_expiry (h : b.Granted ts (some v) w') (hts : ts.Pairwise (· ≤ ·))
    (hv : v.count ≤ b.limit) :
    ts.countP (fun t => decide (t < v.expiry)) + v.count ≤ b.limit := by
  induction ts generalizing v with
  | nil =>
    rw [List.countP_nil, Nat.zero_add]
    exact hv
  | cons t ts ih =>
    obtain ⟨hfirst, hts⟩ := List.pairwise_cons.mp hts
    cases h with
    | cons first rest =>
      rcases reserve_eq_some first with ⟨hclosed, rfl⟩ | ⟨u, hu, hopen, hcount, rfl⟩
      · have hnone : (t :: ts).countP (fun t => decide (t < v.expiry)) = 0 := by
          rw [List.countP_eq_zero]
          intro s hs
          have hle : t ≤ s := by
            rcases List.mem_cons.mp hs with rfl | hs
            · exact le_rfl
            · exact hfirst s hs
          simpa using (hclosed v rfl).trans hle
        omega
      · obtain rfl := Option.some_inj.mp hu
        have hrest := ih rest hts hcount
        rw [List.countP_cons_of_pos (p := fun t => decide (t < v.expiry)) (decide_eq_true hopen)]
        simp only at hrest
        omega

/-- From the reservation that opens a window until its end there are at most `limit`. -/
theorem Granted.countP_window {t : τ} (hlimit : 1 ≤ b.limit) (h : b.Granted (t :: ts) w w')
    (hts : (t :: ts).Pairwise (· ≤ ·)) (hclosed : Closed t w) :
    (t :: ts).countP (fun s => decide (s < b.expiry t)) ≤ b.limit := by
  cases h with
  | cons first rest =>
    rw [b.reserve_of_closed hclosed] at first
    obtain rfl := Option.some_inj.mp first
    have hrest := rest.countP_before_expiry (List.pairwise_cons.mp hts).2 hlimit
    simp only at hrest
    rw [List.countP_cons]
    split <;> omega

/-! ### Intervals -/

theorem countP_le_add {α : Type u} {p q r : α → Bool} {l : List α}
    (h : ∀ a ∈ l, p a = true → q a = true ∨ r a = true) :
    l.countP p ≤ l.countP q + l.countP r := by
  induction l with
  | nil => exact Nat.le_refl 0
  | cons a l ih =>
    obtain ⟨ha, hl⟩ := List.forall_mem_cons.mp h
    have hrest := ih hl
    simp only [List.countP_cons]
    cases hp : p a with
    | false =>
      rw [if_neg (by simp)]
      omega
    | true =>
      rcases ha hp with hq | hr
      · simp only [hq, if_true]
        omega
      · simp only [hr, if_true]
        omega

/-- Later windows, of which the first one lasts beyond `last`. -/
theorem Granted.countP_after_expiry {last : τ} (hlimit : 1 ≤ b.limit)
    (h : b.Granted ts (some v) w') (hts : ts.Pairwise (· ≤ ·))
    (hnext : ∀ t, v.expiry ≤ t → last < b.expiry t) :
    ts.countP (fun t => decide (v.expiry ≤ t ∧ t ≤ last)) ≤ b.limit := by
  induction ts generalizing v with
  | nil => exact Nat.zero_le _
  | cons t ts ih =>
    by_cases hexpired : v.expiry ≤ t
    · have hclosed : Closed t (some v) := fun u hu => Option.some_inj.mp hu ▸ hexpired
      refine le_trans (List.countP_mono_left fun s _ hs => ?_)
        (h.countP_window hlimit hts hclosed)
      rw [decide_eq_true_eq] at hs ⊢
      exact hs.2.trans_lt (hnext t hexpired)
    · cases h with
      | cons first rest =>
        rcases reserve_eq_some first with ⟨hclosed, _⟩ | ⟨u, hu, _, _, rfl⟩
        · exact absurd (hclosed v rfl) hexpired
        · obtain rfl := Option.some_inj.mp hu
          rw [List.countP_cons_of_neg (by simp [hexpired])]
          exact ih (v := ⟨v.count + 1, v.expiry⟩) rest (List.pairwise_cons.mp hts).2 hnext

/-- An interval has at most twice the limit, when a window that opens after one that ends within the
interval lasts beyond it. -/
theorem Granted.countP_interval (start last : τ) (hlimit : 1 ≤ b.limit)
    (hopen : ∀ t, t < b.expiry t)
    (hspan : ∀ s t, start < b.expiry s → b.expiry s ≤ t → last < b.expiry t)
    (h : b.Granted ts w w') (hts : ts.Pairwise (· ≤ ·)) (hw : b.Sound w) :
    ts.countP (fun t => decide (start ≤ t ∧ t ≤ last)) ≤ 2 * b.limit := by
  induction ts generalizing w with
  | nil => exact Nat.zero_le _
  | cons t ts ih =>
    cases h with
    | @cons _ _ _ _ v first rest =>
      obtain ⟨hfirst, hts⟩ := List.pairwise_cons.mp hts
      have hv := hw.reserve hlimit first
      by_cases hstart : start ≤ t
      · obtain ⟨hcount, opened, hopened⟩ := hv v rfl
        have hcurrent : t < v.expiry ∧ 1 ≤ v.count := by
          rcases reserve_eq_some first with ⟨_, rfl⟩ | ⟨u, _, hlt, _, rfl⟩
          · exact ⟨hopen t, le_rfl⟩
          · exact ⟨hlt, Nat.le_add_left 1 _⟩
        have hbefore := rest.countP_before_expiry hts hcount
        have hafter := rest.countP_after_expiry hlimit hts fun s hs => by
          rw [hopened] at hs hcurrent
          exact hspan opened s (hstart.trans_lt hcurrent.1) hs
        have hsplit : ts.countP (fun s => decide (start ≤ s ∧ s ≤ last)) ≤
            ts.countP (fun s => decide (s < v.expiry)) +
              ts.countP (fun s => decide (v.expiry ≤ s ∧ s ≤ last)) := by
          refine countP_le_add fun s _ hs => ?_
          simp only [decide_eq_true_eq] at hs ⊢
          rcases lt_or_ge s v.expiry with hlt | hge
          · exact Or.inl hlt
          · exact Or.inr ⟨hge, hs.2⟩
        rw [List.countP_cons]
        split <;> omega
      · rw [List.countP_cons_of_neg (by simp [hstart])]
        exact ih rest hts hv

end Budget

end FixedWindow
