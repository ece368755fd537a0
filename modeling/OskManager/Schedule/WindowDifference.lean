import Mathlib.Order.CompletePartialOrder
import Mathlib.Order.Interval.Set.Basic
import OskManager.Schedule.DayWindows

/-! What `subtractWindows` leaves of a window is a difference of sets of minutes. The windows it
returns are the longest runs of free minutes, so a slot of minutes that are all free lies in one of
them. -/

namespace OSK

/-! ### Minutes -/

def TimeWindow.minutes (w : TimeWindow) : Set ℤ := Set.Ico w.start w.stop

/-- The minutes that some window of the list covers. -/
def minutesOf (windows : List TimeWindow) : Set ℤ := {m | ∃ w ∈ windows, m ∈ w.minutes}

/-- Each window ends before the next one starts. -/
def Separate (windows : List TimeWindow) : Prop :=
  windows.Pairwise fun w w' => w.stop < w'.start

/-- A minute is covered when the slot of this one minute fits. -/
theorem mem_minutesOf {windows : List TimeWindow} {m : ℤ} :
    m ∈ minutesOf windows ↔ Fits m (m + 1) windows := Iff.rfl

theorem TimeWindow.avoids_iff {w : TimeWindow} {a b : ℤ} (hw : w.start < w.stop) (hab : a < b) :
    w.Avoids a b ↔ Disjoint (Set.Ico a b) w.minutes := by
  simp only [TimeWindow.Avoids, TimeWindow.minutes, Set.disjoint_left, Set.mem_Ico]
  refine ⟨fun h m _ _ => by omega, fun h => ?_⟩
  by_contra hmeets
  -- the later one of the two starts would be in both
  exact h (a := max a w.start) (by omega) (by omega)

/-! ### The difference -/

section

variable {base : TimeWindow} {used : List TimeWindow}

theorem subtractWindows_nonempty {w : TimeWindow} (h : w ∈ subtractWindows base used) :
    w.start < w.stop :=
  (mem_subtractFrom (List.pairwise_insertionSort (fun x y : TimeWindow => x.start ≤ y.start) used)
    le_rfl h).not_empty

theorem subtractWindows_separate (hused : ∀ u ∈ used, u.start < u.stop) :
    Separate (subtractWindows base used) := by
  have hsorted := List.pairwise_insertionSort (fun x y : TimeWindow => x.start ≤ y.start) used
  refine pairwise_subtractFrom hsorted le_rfl fun block hblock hlt w w' hstop hstart => ?_
  have hproper := hused block ((List.mem_insertionSort _).mp hblock)
  omega

theorem minutesOf_subtractWindows (hused : ∀ u ∈ used, u.start < u.stop) :
    minutesOf (subtractWindows base used) = base.minutes \ minutesOf used := by
  ext m
  rw [mem_minutesOf, fits_subtractWindows_iff (Int.lt_succ m), Set.mem_sdiff, TimeWindow.minutes,
    Set.mem_Ico, and_assoc]
  refine and_congr_right fun _ => and_congr Iff.rfl ?_
  simp only [minutesOf, TimeWindow.minutes, Set.mem_ofPred_eq, Set.mem_Ico, not_exists, not_and]
  refine forall₂_congr fun u hu => ?_
  have hproper := hused u hu
  rw [TimeWindow.Avoids]
  omega

end

/-- What is left of the base are windows that are not empty and do not touch. They have the minutes
of the base that no block covers, and a request lies in one of them when it lies in the base and
meets no block. -/
theorem subtractWindows_exact (base : TimeWindow) (used : List TimeWindow)
    (hused : ∀ u ∈ used, u.start < u.stop) :
    (∀ w ∈ subtractWindows base used, w.start < w.stop) ∧
      Separate (subtractWindows base used) ∧
      minutesOf (subtractWindows base used) = base.minutes \ minutesOf used ∧
      ∀ a b, a < b → ((∃ w ∈ subtractWindows base used, w.start ≤ a ∧ b ≤ w.stop) ↔
        (base.start ≤ a ∧ b ≤ base.stop) ∧
          ∀ u ∈ used, Disjoint (Set.Ico a b) u.minutes) := by
  refine ⟨fun w hw => subtractWindows_nonempty hw, subtractWindows_separate hused,
    minutesOf_subtractWindows hused, fun a b hab => ?_⟩
  have hfits : Fits a b (subtractWindows base used) ↔ _ := fits_subtractWindows_iff hab
  rw [Fits] at hfits
  rw [hfits, and_assoc]
  refine and_congr_right fun _ => and_congr_right fun _ => forall₂_congr fun u hu => ?_
  exact TimeWindow.avoids_iff (hused u hu) hab

/-- A day from eight to four with nested, touching and outlying blocks. -/
theorem subtractWindows_exact_day :
    subtractWindows ⟨480, 960⟩ [⟨600, 660⟩, ⟨610, 630⟩, ⟨660, 700⟩, ⟨420, 500⟩, ⟨900, 1000⟩] =
        [⟨500, 600⟩, ⟨700, 900⟩] ∧
      minutesOf (subtractWindows ⟨480, 960⟩
        [⟨600, 660⟩, ⟨610, 630⟩, ⟨660, 700⟩, ⟨420, 500⟩, ⟨900, 1000⟩]) =
        (⟨480, 960⟩ : TimeWindow).minutes \
          minutesOf [⟨600, 660⟩, ⟨610, 630⟩, ⟨660, 700⟩, ⟨420, 500⟩, ⟨900, 1000⟩] :=
  ⟨by decide, (subtractWindows_exact _ _ (by decide)).2.2.1⟩

end OSK
