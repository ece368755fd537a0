import Mathlib.Algebra.Order.Group.Int
import Mathlib.Order.Lattice

/-! Clocks that show the time with an offset, and search for the moment at which an offset is
changed. Between two moments at which the clock shows a time it shows at no other moment, a clock
that is changed once shows only times between these two. -/

namespace WallClock

variable {offset : ℤ → ℤ} {start stop c t : ℤ}

/-! ### Bisection -/

/-- The loop that halves the distance between a point with the property and one without. -/
def bisect (p : ℤ → Prop) [DecidablePred p] (before after : ℤ) : ℤ :=
  if before + 1 < after then
    if p ((before + after) / 2) then bisect p ((before + after) / 2) after
    else bisect p before ((before + after) / 2)
  else after
termination_by (after - before).toNat
decreasing_by all_goals omega

theorem lt_bisect (p : ℤ → Prop) [DecidablePred p] {before after : ℤ} (hlt : before < after) :
    before < bisect p before after ∧ bisect p before after ≤ after := by
  fun_induction bisect p before after with
  | case1 before after hfar hmiddle ih =>
    obtain ⟨hfrom, hto⟩ := ih (by omega)
    exact ⟨by omega, hto⟩
  | case2 before after hfar hmiddle ih =>
    obtain ⟨hfrom, hto⟩ := ih (by omega)
    exact ⟨hfrom, by omega⟩
  | case3 before after hnear => exact ⟨hlt, le_rfl⟩

/-- The loop ends where the property is lost from one point to the next. -/
theorem bisect_lost (p : ℤ → Prop) [DecidablePred p] {before after : ℤ} (hlt : before < after)
    (hbefore : p before) (hafter : ¬p after) :
    p (bisect p before after - 1) ∧ ¬p (bisect p before after) := by
  fun_induction bisect p before after with
  | case1 before after hfar hmiddle ih => exact ih (by omega) hmiddle hafter
  | case2 before after hfar hmiddle ih => exact ih (by omega) hbefore hmiddle
  | case3 before after hnear =>
    have hnext : after - 1 = before := by omega
    exact ⟨hnext ▸ hbefore, hafter⟩

/-! ### One change -/

def wall (offset : ℤ → ℤ) (t : ℤ) : ℤ := t + offset t

/-- After `start` and up to `stop` the offset is changed at `c` only, if at all. -/
structure ChangesAt (offset : ℤ → ℤ) (start stop c : ℤ) : Prop where
  after_start : start < c
  by_stop : c ≤ stop
  before : ∀ t, start ≤ t → t < c → offset t = offset start
  after : ∀ t, c ≤ t → t ≤ stop → offset t = offset stop

/-- The clock shows the time of `t` at `t` only. -/
def Once (offset : ℤ → ℤ) (t : ℤ) : Prop := ∀ t', wall offset t' = wall offset t → t' = t

/-- Before the change the clock has not shown the last time, as it shows it only once. -/
theorem ChangesAt.wall_lt_stop (h : ChangesAt offset start stop c) (honce : Once offset stop)
    (hlt : wall offset start < wall offset stop) (hfrom : start ≤ t) (hto : t < stop) :
    wall offset t < wall offset stop := by
  have hle := h.by_stop
  simp only [wall, Once] at *
  rcases lt_or_ge t c with hbefore | hafter
  · by_contra hpast
    have hstart := h.before t hfrom hbefore
    -- the moment before the change at which the clock would have shown the last time
    have hoffset := h.before (stop + offset stop - offset start) (by omega) (by omega)
    have heq := honce _ (by rw [hoffset]; omega)
    omega
  · rw [h.after t hafter hto.le]
    omega

/-- After the change the clock does not show the first time again. -/
theorem ChangesAt.start_le_wall (h : ChangesAt offset start stop c) (honce : Once offset start)
    (hlt : wall offset start < wall offset stop) (hfrom : start ≤ t) (hto : t ≤ stop) :
    wall offset start ≤ wall offset t := by
  have hlate := h.after_start
  simp only [wall, Once] at *
  rcases lt_or_ge t c with hbefore | hafter
  · rw [h.before t hfrom hbefore]
    omega
  · by_contra hpast
    have hstop := h.after t hafter hto
    have hoffset := h.after (start + offset start - offset stop) (by omega) (by omega)
    have heq := honce _ (by rw [hoffset]; omega)
    omega

/-- The clock goes on from one moment to a later one, unless it is set back in between. -/
theorem ChangesAt.wall_le_or_set_back (h : ChangesAt offset start stop c) {s : ℤ}
    (hfrom : start ≤ s) (hle : s ≤ t) (hto : t ≤ stop) :
    wall offset s ≤ wall offset t ∨ (s < c ∧ c ≤ t) ∧ offset c < offset (c - 1) := by
  have hstart := h.after_start
  have hstop := h.by_stop
  simp only [wall]
  rcases lt_or_ge t c with hbefore | hafter
  · rw [h.before s hfrom (hle.trans_lt hbefore), h.before t (hfrom.trans hle) hbefore]
    exact Or.inl (Int.add_le_add_right hle _)
  rcases lt_or_ge s c with hearly | hlate
  · rw [h.before s hfrom hearly, h.after t hafter hto, h.after c le_rfl hstop,
      h.before (c - 1) (by omega) (by omega)]
    omega
  · rw [h.after s hlate (hle.trans hto), h.after t hafter hto]
    exact Or.inl (Int.add_le_add_right hle _)

/-- The times shown from `s` to `e` lie in a range when the first one, the last one and those next
to where the clock is set back do. -/
theorem ChangesAt.wall_within_iff (h : ChangesAt offset start stop c) {s e lo hi : ℤ}
    (hfrom : start ≤ s) (hlt : s < e) (hto : e ≤ stop) :
    (∀ t, s ≤ t → t < e → lo ≤ wall offset t ∧ wall offset t < hi) ↔
      (lo ≤ wall offset s ∧ wall offset (e - 1) < hi) ∧ ∀ c', s < c' → c' < e →
        offset c' < offset (c' - 1) → wall offset (c' - 1) < hi ∧ lo ≤ wall offset c' := by
  refine ⟨fun hall => ?_, fun ⟨⟨hfirst, hlast⟩, hback⟩ t hst hte => ⟨?_, ?_⟩⟩
  · refine ⟨⟨(hall s le_rfl hlt).1, (hall (e - 1) (by omega) (by omega)).2⟩, fun c' hs he _ => ?_⟩
    exact ⟨(hall (c' - 1) (by omega) (by omega)).2, (hall c' hs.le he).1⟩
  · rcases h.wall_le_or_set_back hfrom hst (by omega) with hle | ⟨⟨hsc, hct⟩, hset⟩
    · exact hfirst.trans hle
    · have hchange := (hback c hsc (by omega) hset).2
      rcases h.wall_le_or_set_back (by omega) hct (by omega) with hle | ⟨⟨hcc, -⟩, -⟩
      · exact hchange.trans hle
      · exact absurd hcc (lt_irrefl c)
  · rcases h.wall_le_or_set_back (s := t) (t := e - 1) (by omega) (by omega) (by omega) with
      hle | ⟨⟨htc, hce⟩, hset⟩
    · exact hle.trans_lt hlast
    · have hchange := (hback c (by omega) (by omega) hset).1
      rcases h.wall_le_or_set_back (s := t) (t := c - 1) (by omega) (by omega) (by omega) with
        hle | ⟨⟨-, hcc⟩, -⟩
      · exact hle.trans_lt hchange
      · omega

/-- Where the offset is lost between two neighbours is the change. -/
theorem ChangesAt.eq_of_lost (h : ChangesAt offset start stop c) (hfrom : start < t)
    (hto : t ≤ stop) (hlost : offset t ≠ offset (t - 1)) : t = c := by
  rcases lt_trichotomy t c with hbefore | rfl | hafter
  · exact absurd ((h.before t hfrom.le hbefore).trans
      (h.before (t - 1) (by omega) (by omega)).symm) hlost
  · rfl
  · exact absurd ((h.after t hafter.le hto).trans
      (h.after (t - 1) (by omega) (by omega)).symm) hlost

end WallClock
