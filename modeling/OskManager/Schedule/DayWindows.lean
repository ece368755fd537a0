import Mathlib.Data.Int.SuccPred
import OskManager.Model.DayOptions
import OskManager.Schedule.FreeSlots

/-! The free minutes of a day. Each step that narrows them (the instructor's bookings, the
students', the present minute, the vehicle's bookings) only cuts blocks out, so a slot that fits
in the end has avoided every block on the way. -/

namespace OSK

open Relational Booking

/-! ### Slots and blocks -/

/-- The minutes from `a` to `b` lie in one of the windows. -/
def Fits (a b : ℤ) (windows : List TimeWindow) : Prop := ∃ w ∈ windows, w.start ≤ a ∧ b ≤ w.stop

/-- The minutes from `a` to `b` lie before or after the block. -/
def TimeWindow.Avoids (block : TimeWindow) (a b : ℤ) : Prop := b ≤ block.start ∨ block.stop ≤ a

theorem TimeWindow.Avoids.within {block : TimeWindow} {a b a' b' : ℤ} (h : block.Avoids a b)
    (ha : a ≤ a') (hb : b' ≤ b) : block.Avoids a' b' :=
  h.imp (le_trans hb) fun hstop => le_trans hstop ha

/-- What is free of the base once the cursor stands at or after its start. -/
structure FreeOf (base : TimeWindow) (cursor : ℤ) (blocks : List TimeWindow) (w : TimeWindow) :
    Prop where
  from_cursor : cursor ≤ w.start
  not_empty : w.start < w.stop
  within : w.stop ≤ base.stop
  avoids : ∀ block ∈ blocks, block.Avoids w.start w.stop

/-- The rest of the base, when no block starts before its end. -/
theorem freeOf_rest {base w : TimeWindow} {blocks : List TimeWindow} {cursor : ℤ}
    (hlate : ∀ block ∈ blocks, base.stop ≤ block.start)
    (h : w ∈ if cursor < base.stop then [(⟨cursor, base.stop⟩ : TimeWindow)] else []) :
    FreeOf base cursor blocks w := by
  split at h
  · next hlt =>
    rcases List.mem_singleton.mp h with rfl
    exact ⟨le_rfl, hlt, le_rfl, fun block hb => Or.inl (hlate block hb)⟩
  · exact absurd h List.not_mem_nil

theorem freeOf_gap {base w block : TimeWindow} {rest : List TimeWindow} {cursor : ℤ}
    (hbase : base.start ≤ cursor) (hlt : block.start < base.stop)
    (hrest : ∀ b ∈ rest, block.start ≤ b.start)
    (h : w ∈ if max block.start base.start > cursor
      then [(⟨cursor, max block.start base.start⟩ : TimeWindow)] else []) :
    FreeOf base cursor (block :: rest) w := by
  split at h
  · next hgap =>
    have hstart : max block.start base.start = block.start := by omega
    rw [hstart] at h hgap
    rcases List.mem_singleton.mp h with rfl
    refine ⟨le_rfl, hgap, hlt.le, fun b hb => Or.inl ?_⟩
    rcases List.mem_cons.mp hb with rfl | hb
    · exact le_rfl
    · exact hrest b hb
  · exact absurd h List.not_mem_nil

/-- Past a block the cursor has reached its end or the end of the base. -/
theorem freeOf_past {base w block : TimeWindow} {rest : List TimeWindow} {cursor : ℤ}
    (h : FreeOf base (max cursor (min block.stop base.stop)) rest w) :
    FreeOf base cursor (block :: rest) w := by
  obtain ⟨hfrom, hpos, hstop, havoid⟩ := h
  refine ⟨le_trans (le_max_left _ _) hfrom, hpos, hstop, fun b hb => ?_⟩
  rcases List.mem_cons.mp hb with rfl | hb
  · apply Or.inr
    omega
  · exact havoid b hb

theorem mem_subtractFrom {base w : TimeWindow} {blocks : List TimeWindow} {cursor : ℤ}
    (hsorted : blocks.Pairwise fun x y => x.start ≤ y.start) (hbase : base.start ≤ cursor)
    (h : w ∈ subtractFrom base cursor blocks) : FreeOf base cursor blocks w := by
  induction blocks generalizing cursor with
  | nil => exact freeOf_rest (fun _ hb => absurd hb List.not_mem_nil) h
  | cons block rest ih =>
    obtain ⟨hfirst, hrest⟩ := List.pairwise_cons.mp hsorted
    rw [subtractFrom] at h
    split at h
    · next hge =>
      refine freeOf_rest (fun b hb => ?_) h
      rcases List.mem_cons.mp hb with rfl | hb
      · exact hge
      · exact le_trans hge (hfirst b hb)
    · next hlt =>
      rcases List.mem_append.mp h with hgap | hpast
      · exact freeOf_gap hbase (not_le.mp hlt) hfirst hgap
      · exact freeOf_past (ih hrest (le_trans hbase (le_max_left _ _)) hpast)

/-- A relation between two free windows in turn is one between the end of the first, at which a
block starts, and the start of the second, which is past the block. -/
theorem pairwise_subtractFrom {R : TimeWindow → TimeWindow → Prop} {base : TimeWindow}
    {blocks : List TimeWindow} {cursor : ℤ}
    (hsorted : blocks.Pairwise fun x y => x.start ≤ y.start) (hbase : base.start ≤ cursor)
    (hR : ∀ block ∈ blocks, block.start < base.stop → ∀ w w' : TimeWindow,
      w.stop = block.start → min block.stop base.stop ≤ w'.start → R w w') :
    (subtractFrom base cursor blocks).Pairwise R := by
  have hrest (c : ℤ) :
      (if c < base.stop then [(⟨c, base.stop⟩ : TimeWindow)] else []).Pairwise R := by
    split
    · exact List.pairwise_singleton _ _
    · exact List.Pairwise.nil
  induction blocks generalizing cursor with
  | nil => exact hrest cursor
  | cons block rest ih =>
    obtain ⟨-, hsorted⟩ := List.pairwise_cons.mp hsorted
    obtain ⟨hblock, hR⟩ := List.forall_mem_cons.mp hR
    have hbase' : base.start ≤ max cursor (min block.stop base.stop) :=
      hbase.trans (le_max_left _ _)
    rw [subtractFrom]
    split
    · exact hrest cursor
    · next hlt =>
      refine List.pairwise_append.mpr ⟨?_, ih hsorted hbase' hR, ?_⟩
      · split
        · exact List.pairwise_singleton _ _
        · exact List.Pairwise.nil
      · intro w hw w' hw'
        have hfrom := (mem_subtractFrom hsorted hbase' hw').from_cursor
        split at hw
        · next hgap =>
          rcases List.mem_singleton.mp hw with rfl
          -- a gap before the block: the block starts after the cursor, so in the base
          exact hblock (not_le.mp hlt) _ _ (max_eq_left (by omega)) (by omega)
        · exact absurd hw List.not_mem_nil

theorem fits_subtractWindows {base : TimeWindow} {used : List TimeWindow} {a b : ℤ}
    (h : Fits a b (subtractWindows base used)) :
    base.start ≤ a ∧ b ≤ base.stop ∧ ∀ block ∈ used, block.Avoids a b := by
  obtain ⟨w, hw, ha, hb⟩ := h
  have hsorted := List.pairwise_insertionSort (fun x y : TimeWindow => x.start ≤ y.start) used
  obtain ⟨hfrom, _, hstop, havoid⟩ := mem_subtractFrom hsorted le_rfl hw
  refine ⟨le_trans hfrom ha, le_trans hb hstop, fun block hblock => ?_⟩
  exact (havoid block ((List.mem_insertionSort _).mpr hblock)).within ha hb

/-- The walk over the blocks keeps a slot that starts at the cursor or later and avoids them. -/
theorem fits_subtractFrom {base : TimeWindow} {blocks : List TimeWindow} {cursor a b : ℤ}
    (hab : a < b) (hcursor : cursor ≤ a) (hbase : base.start ≤ a) (hstop : b ≤ base.stop)
    (havoid : ∀ block ∈ blocks, block.Avoids a b) : Fits a b (subtractFrom base cursor blocks) := by
  have hrest (c : ℤ) (hc : c ≤ a) :
      Fits a b (if c < base.stop then [(⟨c, base.stop⟩ : TimeWindow)] else []) := by
    rw [if_pos (by omega)]
    exact ⟨_, List.mem_singleton_self _, hc, hstop⟩
  induction blocks generalizing cursor with
  | nil => exact hrest cursor hcursor
  | cons block rest ih =>
    obtain ⟨hfirst, havoid⟩ := List.forall_mem_cons.mp havoid
    rw [subtractFrom]
    split
    · exact hrest cursor hcursor
    rcases hfirst with hbefore | hafter
    · refine ⟨⟨cursor, max block.start base.start⟩, List.mem_append_left _ ?_, hcursor, ?_⟩
      · rw [if_pos (by omega)]
        exact List.mem_singleton_self _
      · exact le_trans hbefore (le_max_left _ _)
    · have hnext : max cursor (min block.stop base.stop) ≤ a := by omega
      obtain ⟨w, hw, hfit⟩ := ih hnext havoid
      exact ⟨w, List.mem_append_right _ hw, hfit⟩

theorem fits_subtractWindows_iff {base : TimeWindow} {used : List TimeWindow} {a b : ℤ}
    (hab : a < b) : Fits a b (subtractWindows base used) ↔
      base.start ≤ a ∧ b ≤ base.stop ∧ ∀ block ∈ used, block.Avoids a b := by
  refine ⟨fits_subtractWindows, fun ⟨hstart, hstop, havoid⟩ => ?_⟩
  refine fits_subtractFrom hab hstart hstart hstop fun block hblock => havoid block ?_
  exact (List.mem_insertionSort _).mp hblock

theorem fits_flatMap_subtractWindows {windows used : List TimeWindow} {a b : ℤ}
    (h : Fits a b (windows.flatMap fun window => subtractWindows window used)) :
    Fits a b windows ∧ ∀ block ∈ used, block.Avoids a b := by
  obtain ⟨w, hw, ha, hb⟩ := h
  obtain ⟨window, hwindow, hw⟩ := List.mem_flatMap.mp hw
  obtain ⟨hstart, hstop, havoid⟩ := fits_subtractWindows ⟨w, hw, ha, hb⟩
  exact ⟨⟨window, hwindow, hstart, hstop⟩, havoid⟩

/-- Cutting out blocks loses no slot that avoids them all. -/
theorem fits_flatMap_subtractWindows_iff {windows used : List TimeWindow} {a b : ℤ} (hab : a < b) :
    Fits a b (windows.flatMap fun window => subtractWindows window used) ↔
      Fits a b windows ∧ ∀ block ∈ used, block.Avoids a b := by
  refine ⟨fits_flatMap_subtractWindows, fun ⟨⟨window, hwindow, hstart, hstop⟩, havoid⟩ => ?_⟩
  obtain ⟨w, hw, hfit⟩ := (fits_subtractWindows_iff hab).mpr ⟨hstart, hstop, havoid⟩
  exact ⟨w, List.mem_flatMap.mpr ⟨window, hwindow, hw⟩, hfit⟩

theorem fits_windowsFromNow {windows : List TimeWindow} {now a b : ℤ}
    (h : Fits a b (windowsFromNow now windows)) : Fits a b windows := by
  obtain ⟨w, hw, ha, hb⟩ := h
  obtain ⟨window, hwindow, rfl⟩ := List.mem_map.mp (List.mem_of_mem_filter hw)
  exact ⟨window, hwindow, le_trans (le_max_left _ _) ha, hb⟩

theorem not_fits_nil (a b : ℤ) : ¬Fits a b [] := fun ⟨_, hw, _⟩ => List.not_mem_nil hw

theorem fits_getD {windows : Option (List TimeWindow)} {a b : ℤ}
    (h : Fits a b (windows.getD [])) :
    ∃ l, windows = some l ∧ Fits a b l := by
  cases windows with
  | none => exact absurd h (not_fits_nil a b)
  | some l => exact ⟨l, rfl, h⟩

/-! ### The matrix -/

theorem mem_stepsUpTo {lo hi step x : ℤ} (hstep : 0 < step) (h : x ∈ stepsUpTo lo hi step) :
    lo ≤ x ∧ x ≤ hi := by
  obtain ⟨k, hk, rfl⟩ := List.mem_map.mp h
  have hle : (k : ℤ) ≤ (hi - lo) / step := by
    have hlt := List.mem_range.mp hk
    omega
  have hmul : (k : ℤ) * step ≤ hi - lo := (Int.le_ediv_iff_mul_le hstep).mp hle
  have hnonneg : 0 ≤ (k : ℤ) * step := Int.mul_nonneg (Int.natCast_nonneg k) hstep.le
  exact ⟨by omega, by omega⟩

theorem stepsUpTo_eq_nil {lo hi step : ℤ} (hstep : 0 < step) :
    stepsUpTo lo hi step = [] ↔ hi < lo := by
  rw [stepsUpTo, List.map_eq_nil_iff, List.range_eq_nil, Int.toNat_eq_zero, Int.add_one_le_iff,
    Int.ediv_lt_iff_lt_mul hstep]
  omega

theorem mem_stepsUpTo_iff {lo hi step x : ℤ} (hstep : 0 < step) :
    x ∈ stepsUpTo lo hi step ↔ (∃ k : ℕ, x = lo + k * step) ∧ x ≤ hi := by
  refine ⟨fun h => ⟨?_, (mem_stepsUpTo hstep h).2⟩, ?_⟩
  · obtain ⟨k, _, rfl⟩ := List.mem_map.mp h
    exact ⟨k, rfl⟩
  · rintro ⟨⟨k, rfl⟩, hle⟩
    refine List.mem_map.mpr ⟨k, List.mem_range.mpr ?_, rfl⟩
    have hk : (k : ℤ) ≤ (hi - lo) / step := (Int.le_ediv_iff_mul_le hstep).mpr (by omega)
    omega

theorem le_ceilTo {value step : ℤ} (hstep : 0 < step) : value ≤ ceilTo value step := by
  have h := Int.lt_ediv_add_one_mul_self (value + step - 1) hstep
  rw [add_mul, one_mul] at h
  unfold ceilTo
  omega

theorem dvd_ceilTo (value step : ℤ) : step ∣ ceilTo value step := Dvd.intro_left _ rfl

theorem ceilTo_le {value step a : ℤ} (hstep : 0 < step) (hdvd : step ∣ a) (h : value ≤ a) :
    ceilTo value step ≤ a := by
  obtain ⟨k, rfl⟩ := hdvd
  have hk : (value + step - 1) / step < k + 1 := by
    rw [Int.ediv_lt_iff_lt_mul hstep, add_mul, one_mul, mul_comm k]
    omega
  rw [ceilTo, mul_comm step]
  exact Int.mul_le_mul_of_nonneg_right (Int.lt_add_one_iff.mp hk) hstep.le

/-- The matrix has an option when a multiple of the step leaves room for the least duration. -/
theorem options_ne_nil_iff {windows : List TimeWindow} {policy : ScheduleDurationPolicy} {step : ℤ}
    (hstep : 0 < step) (hpolicy : policy.minDurationMinutes ≤ policy.maxDurationMinutes) :
    buildScheduleAvailabilityOptions windows policy step ≠ [] ↔
      ∃ a, step ∣ a ∧ Fits a (a + policy.minDurationMinutes) windows := by
  simp only [buildScheduleAvailabilityOptions, optionsInWindow, ne_eq, List.flatMap_eq_nil_iff,
    List.filter_eq_nil_iff, List.forall_mem_map, decide_eq_true_eq, not_forall, not_not,
    stepsUpTo_eq_nil (show (0 : ℤ) < availabilityOptionStepMinutes by decide)]
  refine ⟨?_, ?_⟩
  · rintro ⟨w, hw, a, ha, hroom⟩
    obtain ⟨⟨k, rfl⟩, -⟩ := (mem_stepsUpTo_iff hstep).mp ha
    have hfrom := (mem_stepsUpTo hstep ha).1
    rw [not_lt, le_min_iff] at hroom
    refine ⟨_, Int.dvd_add (dvd_ceilTo w.start step) (dvd_mul_left step k), w, hw, ?_, hroom.2⟩
    exact le_trans (le_ceilTo hstep) hfrom
  · rintro ⟨a, hdvd, w, hw, hstart, hstop⟩
    have hfrom := ceilTo_le hstep hdvd hstart
    obtain ⟨k, hk⟩ := Int.dvd_sub hdvd (dvd_ceilTo w.start step)
    have hk0 : 0 ≤ k := by
      by_contra hneg
      have hlt := Int.mul_neg_of_pos_of_neg hstep (not_le.mp hneg)
      omega
    refine ⟨w, hw, a, (mem_stepsUpTo_iff hstep).mpr ⟨⟨k.toNat, ?_⟩, ?_⟩, ?_⟩
    · rw [Int.toNat_of_nonneg hk0, mul_comm]
      omega
    · omega
    · rw [not_lt, le_min_iff]
      exact ⟨by omega, hstop⟩

/-- The response offers the slot from `a` to `b`. -/
def ScheduleAvailabilityOptions.Offers (response : ScheduleAvailabilityOptions) (a b : ℤ) : Prop :=
  ∃ o ∈ response.options, o.startTime = a ∧ b ∈ o.endTimes

instance {response : ScheduleAvailabilityOptions} {a b : ℤ} : Decidable (response.Offers a b) :=
  inferInstanceAs (Decidable (∃ o ∈ response.options, o.startTime = a ∧ b ∈ o.endTimes))

/-- The options are returned, and they offer the slot from `a` to `b`. -/
def OffersSlot (options : Service ScheduleAvailabilityOptions) (db : Db) (a b : ℤ) : Prop :=
  ∃ response t, options db = (.ok response, t) ∧ response.Offers a b

instance {options : Service ScheduleAvailabilityOptions} {db : Db} {a b : ℤ} :
    Decidable (OffersSlot options db a b) :=
  Prog.decidableSatisfies options db fun response => response.Offers a b

theorem offers_fits {windows : List TimeWindow} {policy : ScheduleDurationPolicy} {step a b : ℤ}
    {ids : Option (List Uuid)} (hstep : 0 < step)
    (h : (buildOptionsResponse windows policy step ids).Offers a b) :
    Fits a b windows ∧ a + policy.minDurationMinutes ≤ b ∧ b ≤ a + policy.maxDurationMinutes := by
  obtain ⟨o, ho, rfl, hb⟩ := h
  obtain ⟨window, hwindow, ho⟩ := List.mem_flatMap.mp ho
  obtain ⟨start, hstart, rfl⟩ := List.mem_map.mp (List.mem_of_mem_filter ho)
  obtain ⟨hmin, hmax⟩ := mem_stepsUpTo (by decide) hb
  obtain ⟨hfrom, _⟩ := mem_stepsUpTo hstep hstart
  rw [le_min_iff] at hmax
  exact ⟨⟨window, hwindow, le_trans (le_ceilTo hstep) hfrom, hmax.2⟩, hmin, hmax.1⟩

theorem startStep_pos (db : Db) (schoolId : Uuid) (kind : DurationKind) :
    0 < (resolveScheduleOptionsPolicy db schoolId kind
      availabilityOptionStepMinutes).startStepMinutes := by
  simp only [resolveScheduleOptionsPolicy]
  split <;> decide

/-! ### Slots of a date -/

section Slot

variable {zone : PolishZone} {date : Day} {a b : ℤ} {window day : ScheduleWindow}

/-- The instants of a slot whose two local times exist and are unambiguous on the date. -/
structure IsSlot (zone : PolishZone) (date : Day) (a b : ℤ) (window : ScheduleWindow) : Prop where
  start : polishLocalDateTimeToDate zone date a = .ok window.start
  stop : polishLocalDateTimeToDate zone date b = .ok window.stop

theorem IsSlot.unique {window' : ScheduleWindow} (h : IsSlot zone date a b window)
    (h' : IsSlot zone date a b window') : window = window' := by
  obtain ⟨start, stop⟩ := window
  obtain ⟨start', stop'⟩ := window'
  cases h.start.symm.trans h'.start
  cases h.stop.symm.trans h'.stop
  rfl

theorem parse_iff_slot : (⟨date, a, b⟩ : LocalWindow).parse zone = .ok window ↔
    IsSlot zone date a b window ∧ window.start < window.stop := by
  simp only [LocalWindow.parse, parsePolishScheduleWindow, except_bind_eq_ok, throwIf_eq_ok, pure,
    Except.pure, Except.ok.injEq, not_le]
  refine ⟨?_, ?_⟩
  · intro h
    obtain ⟨start, hstart, stop, hstop, _, hpos, rfl⟩ := h
    exact ⟨⟨hstart, hstop⟩, Int.lt_of_sub_pos hpos⟩
  · intro h
    obtain ⟨⟨hstart, hstop⟩, hlt⟩ := h
    exact ⟨_, hstart, _, hstop, (), Int.sub_pos_of_lt hlt, rfl⟩

theorem localTime_wall {m : ℤ} {t : Instant} (h : polishLocalDateTimeToDate zone date m = .ok t) :
    (0 ≤ m ∧ m < minutesPerDay) ∧ t + zone.offset t = date * msPerDay + m * msPerMinute := by
  simp only [polishLocalDateTimeToDate, except_bind_eq_ok, throwIf_eq_ok, not_not,
    orThrow_eq_ok] at h
  obtain ⟨_, hm, ht⟩ := h
  exact ⟨hm, zone.toAbsolute_wall _ _ ht⟩

theorem localTime_clock {m : ℤ} {t : Instant} (h : polishLocalDateTimeToDate zone date m = .ok t) :
    instantToPolishDateTime zone t = ⟨date, m, dayOfWeekOf date⟩ := by
  obtain ⟨hm, hwall⟩ := localTime_wall h
  have hdate : (date * msPerDay + m * msPerMinute) / msPerDay = date := by
    dsimp only [Day, msPerDay, msPerMinute, minutesPerDay] at hm ⊢
    omega
  have hminutes : (date * msPerDay + m * msPerMinute) % msPerDay / msPerMinute = m := by
    dsimp only [Day, msPerDay, msPerMinute, minutesPerDay] at hm ⊢
    omega
  rw [instantToPolishDateTime, hwall, hdate, hminutes]

theorem utcMidnight_clock (zone : PolishZone) (date : Day) :
    (instantToPolishDateTime zone (yyyymmddToDate date)).date = date ∧
      (instantToPolishDateTime zone (yyyymmddToDate date)).dayOfWeek = dayOfWeekOf date := by
  have hlow := zone.offset_nonneg (yyyymmddToDate date)
  have hhigh := zone.offset_lt_day (yyyymmddToDate date)
  have hdate : (yyyymmddToDate date + zone.offset (yyyymmddToDate date)) / msPerDay = date := by
    dsimp only [Instant, Day, msPerDay, yyyymmddToDate] at hlow hhigh ⊢
    omega
  simp only [instantToPolishDateTime, hdate, and_self]

theorem polishDayRange_of_date (zone : PolishZone) (date : Day) :
    polishDayRange zone (yyyymmddToDate date) = polishDayBounds zone date := by
  rw [polishDayRange, dateToYYYYMMDD_yyyymmddToDate]

/-! ### Days on which the clock keeps its offset -/

/-- The clock is not changed during the day. -/
def PolishZone.SteadyOn (zone : PolishZone) (date : Day) : Prop :=
  ∀ day, polishDayBounds zone date = .ok day → ∀ t, day.start ≤ t → t ≤ day.stop →
    zone.offset t = zone.offset day.start

theorem dayBounds_wall (h : polishDayBounds zone date = .ok day) :
    day.start + zone.offset day.start = date * msPerDay ∧
      day.stop + zone.offset day.stop = (date + 1) * msPerDay ∧ day.start < day.stop := by
  simp only [polishDayBounds, except_bind_eq_ok, orThrow_eq_ok, pure, Except.pure,
    Except.ok.injEq] at h
  obtain ⟨start, hstart, stop, hstop, rfl⟩ := h
  have hwall := zone.toAbsolute_wall _ _ hstart
  have hwall' := zone.toAbsolute_wall _ _ hstop
  refine ⟨hwall, hwall', ?_⟩
  have hlow := zone.offset_nonneg start
  have hhigh := zone.offset_lt_day stop
  dsimp only [Instant, Day, msPerDay] at *
  omega

theorem SteadyOn.day_length (hsteady : zone.SteadyOn date)
    (hday : polishDayBounds zone date = .ok day) : day.stop = day.start + msPerDay := by
  obtain ⟨hstart, hstop, hlt⟩ := dayBounds_wall hday
  rw [hsteady day hday _ hlt.le le_rfl] at hstop
  dsimp only [Instant, Day, msPerDay] at *
  omega

theorem SteadyOn.minutes (hsteady : zone.SteadyOn date)
    (hday : polishDayBounds zone date = .ok day) {t : Instant} (hfrom : day.start ≤ t)
    (hto : t < day.stop) :
    (instantToPolishDateTime zone t).minutes = (t - day.start) / msPerMinute := by
  obtain ⟨hstart, _, _⟩ := dayBounds_wall hday
  have hlength := SteadyOn.day_length hsteady hday
  have hwall : t + zone.offset t = date * msPerDay + (t - day.start) := by
    rw [hsteady day hday t hfrom hto.le]
    dsimp only [Instant, Day] at *
    omega
  have hmod : (date * msPerDay + (t - day.start)) % msPerDay = t - day.start := by
    dsimp only [Instant, Day, msPerDay] at *
    omega
  rw [instantToPolishDateTime, hwall]
  exact congrArg (· / msPerMinute) hmod

/-- The block of a booking that crosses the day, in the minutes since midnight. -/
theorem SteadyOn.block_eq (hsteady : zone.SteadyOn date) (hday : polishDayBounds zone date = .ok day)
    {start stop : Instant} (hcross : start < day.stop ∧ day.start < stop) :
    timeWindowFromDates zone start stop day =
      ⟨(max start day.start - day.start) / msPerMinute,
        (min stop day.stop - day.start) / msPerMinute⟩ := by
  rw [timeWindowFromDates, TimeWindow.mk.injEq]
  refine ⟨?_, ?_⟩
  · split
    · next hearly =>
      rw [max_eq_right hearly, sub_self]
      rfl
    · next hlate =>
      have hfrom := (not_le.mp hlate).le
      rw [SteadyOn.minutes hsteady hday hfrom hcross.1, max_eq_left hfrom]
  · split
    · next hlate =>
      rw [min_eq_right hlate, SteadyOn.day_length hsteady hday, add_sub_cancel_left]
      rfl
    · next hearly =>
      have hto := not_le.mp hearly
      rw [SteadyOn.minutes hsteady hday hcross.2.le hto, min_eq_left hto.le]

theorem SteadyOn.instant (hsteady : zone.SteadyOn date)
    (hday : polishDayBounds zone date = .ok day) {m : ℤ} {t : Instant}
    (h : polishLocalDateTimeToDate zone date m = .ok t) : t = day.start + m * msPerMinute := by
  obtain ⟨hstart, _, _⟩ := dayBounds_wall hday
  have hlength := SteadyOn.day_length hsteady hday
  simp only [polishLocalDateTimeToDate, except_bind_eq_ok, throwIf_eq_ok, not_not,
    orThrow_eq_ok] at h
  obtain ⟨_, ⟨hlow, hhigh⟩, ht⟩ := h
  refine (zone.toAbsolute_unique _ _ _ ht ?_).symm
  rw [hsteady day hday]
  · dsimp only [Instant, Day] at *
    omega
  · dsimp only [Instant, msPerMinute]
    omega
  · dsimp only [Instant, msPerMinute, msPerDay, minutesPerDay] at *
    omega

theorem SteadyOn.durationMs (hsteady : zone.SteadyOn date)
    (hday : polishDayBounds zone date = .ok day) (hslot : IsSlot zone date a b window) :
    window.durationMs = (b - a) * msPerMinute := by
  rw [ScheduleWindow.durationMs, SteadyOn.instant hsteady hday hslot.start,
    SteadyOn.instant hsteady hday hslot.stop, sub_mul]
  dsimp only [Instant]
  omega

/-- The minutes of a steady day are a grid over its instants. -/
theorem minuteGrid (origin : Instant) :
    GaloisConnection (fun m : ℤ => origin + m * msPerMinute)
      (fun t : Instant => (t - origin) / msPerMinute) := by
  intro m t
  show origin + m * msPerMinute ≤ t ↔ m ≤ (t - origin) / msPerMinute
  rw [Int.le_ediv_iff_mul_le (by decide)]
  dsimp only [Instant]
  omega

/-- The minutes of the day hide the booking from the slot: it crosses the slot and, unless the
clock is changed on the day, ends within the slot's first minute. -/
def Overlooked (zone : PolishZone) (date : Day) (window : ScheduleWindow)
    (e : Entry Instant Resource) : Prop :=
  (e.start < window.stop ∧ window.start < e.stop) ∧
    (zone.SteadyOn date → e.stop < window.start + msPerMinute)

/-- A booking of the day that is not hidden blocks its minutes. -/
def Shown (zone : PolishZone) (day : ScheduleWindow) (a b : ℤ) (e : Entry Instant Resource) : Prop :=
  e.start < day.stop → day.start < e.stop → (timeWindowFromDates zone e.start e.stop day).Avoids a b

theorem shown_ends_in_first_minute (hsteady : zone.SteadyOn date)
    (hday : polishDayBounds zone date = .ok day) (hslot : IsSlot zone date a b window)
    (hlt : window.start < window.stop) {e : Entry Instant Resource} (hshown : Shown zone day a b e)
    (hcross : e.start < window.stop ∧ window.start < e.stop) :
    e.stop < window.start + msPerMinute := by
  have hstart := SteadyOn.instant hsteady hday hslot.start
  have hstop := SteadyOn.instant hsteady hday hslot.stop
  have hlength := SteadyOn.day_length hsteady hday
  obtain ⟨⟨ha, ha'⟩, _⟩ := localTime_wall hslot.start
  obtain ⟨⟨_, hb⟩, _⟩ := localTime_wall hslot.stop
  have hfrom : day.start ≤ window.start := by
    dsimp only [Instant, msPerMinute] at *
    omega
  have hto : window.stop < day.stop := by
    dsimp only [Instant, msPerMinute, msPerDay, minutesPerDay] at *
    omega
  have hminute : window.start + msPerMinute ≤ day.stop := by
    dsimp only [Instant, msPerMinute] at *
    omega
  have havoid := hshown (hcross.1.trans hto) (hfrom.trans_lt hcross.2)
  rw [TimeWindow.Avoids, SteadyOn.block_eq hsteady hday
    ⟨hcross.1.trans hto, hfrom.trans_lt hcross.2⟩] at havoid
  rcases havoid with hbefore | hafter
  · have hle : window.stop ≤ max e.start day.start :=
      hstop ▸ before_of_le_floor (minuteGrid day.start) hbefore
    exact absurd hle (not_le.mpr (max_lt hcross.1 (hfrom.trans_lt hlt)))
  · have hend := ends_in_first_cell (minuteGrid day.start) hafter
    rw [Order.succ_eq_add_one, add_mul, one_mul, ← add_assoc, ← hstart] at hend
    exact (min_lt_iff.mp hend).resolve_right (not_lt.mpr hminute)

/-- Where the slot avoids the minutes of every booking of a resource, the resource is open if no
booking is overlooked. -/
theorem open_iff_none_overlooked {db : Db} {skip : Option RecordId} {r : Resource}
    (hday : polishDayBounds zone date = .ok day) (hslot : IsSlot zone date a b window)
    (hlt : window.start < window.stop) (hshown : (calendar db).Each skip r (Shown zone day a b)) :
    (calendar db).Open skip window.start window.stop r ↔
      (calendar db).Each skip r fun e => ¬Overlooked zone date window e := by
  rw [Calendar.open_iff_each]
  refine hshown.congr fun e he => not_congr ?_
  refine ⟨fun hcross => ⟨hcross, fun hsteady => ?_⟩, fun h => h.1⟩
  exact shown_ends_in_first_minute hsteady hday hslot hlt he hcross

/-! ### What the steps show -/

section Steps

variable {env : Env} {db db' : Db} {windows narrowed : List TimeWindow}
  {exclLesson exclEvent : Option Uuid}

/-- The rows a step reads have every busy lesson among them that meets its condition. -/
theorem mem_busyLessons {p : Lesson → Prop} [DecidablePred p] {l : Lesson}
    (hl : l ∈ db.lessons.rows) (hp : p l) (ho : l.occupies = true) (hex : exclLesson ≠ some l.id)
    (hcross : l.startTime < day.stop ∧ day.start < l.endTime) :
    l ∈ db.lessons.findMany fun l =>
      decide (p l) && l.busyDuring day.start day.stop exclLesson := by
  simp only [Table.mem_findMany, Bool.and_eq_true, decide_eq_true_eq, Lesson.busyDuring_eq_true]
  exact ⟨hl, hp, (Lesson.occupies_eq_true l).mp ho, hcross, hex⟩

theorem mem_busyEvents {p : InstructorEvent → Prop} [DecidablePred p] {e : InstructorEvent}
    (he : e ∈ db.instructorEvents.rows) (hp : p e) (ho : e.occupies = true)
    (hex : exclEvent ≠ some e.id) (hcross : e.startTime < day.stop ∧ day.start < e.endTime) :
    e ∈ db.instructorEvents.findMany fun e =>
      decide (p e) && e.busyDuring day.start day.stop exclEvent := by
  simp only [Table.mem_findMany, Bool.and_eq_true, decide_eq_true_eq,
    InstructorEvent.busyDuring_eq_true]
  exact ⟨he, hp, (InstructorEvent.occupies_eq_true e).mp ho, hcross, hex⟩

/-- A time block, or a lesson or an event that occupies the instructor and is not excluded. -/
inductive BooksInstructor (db : Db) (excludeEventId excludeLessonId : Option Uuid)
    (instructorId : Uuid) : Instant → Instant → Prop where
  | timeBlock {b : InstructorTimeBlock} (mem : b ∈ db.timeBlocks.rows)
      (instructor : b.instructorId = instructorId) :
      BooksInstructor db excludeEventId excludeLessonId instructorId b.startTime b.endTime
  | lesson {l : Lesson} (mem : l ∈ db.lessons.rows) (instructor : l.instructorId = instructorId)
      (status : l.status ≠ .cancelled) (kept : excludeLessonId ≠ some l.id) :
      BooksInstructor db excludeEventId excludeLessonId instructorId l.startTime l.endTime
  | event {e : InstructorEvent} (mem : e ∈ db.instructorEvents.rows)
      (instructor : e.instructorId = instructorId) (active : e.isActive = true)
      (status : e.status ≠ .cancelled) (kept : excludeEventId ≠ some e.id) :
      BooksInstructor db excludeEventId excludeLessonId instructorId e.startTime e.endTime

/-- The free windows of a day without a leave: the base without the blocks of the bookings. -/
theorem computeDayWindows_eq_some {instructorId : Uuid}
    (h : computeDayWindows zone db instructorId (yyyymmddToDate date) exclEvent exclLesson =
      .ok (some windows)) :
    (∀ l ∈ db.leaves.rows, l.instructorId = instructorId →
      ¬(l.startDate ≤ date ∧ date ≤ l.endDate)) ∧
    ∃ base day used, baseWindow zone db instructorId (yyyymmddToDate date) = .ok (some base) ∧
      polishDayBounds zone date = .ok day ∧ windows = subtractWindows base used ∧
      ∀ block, block ∈ used ↔ ∃ start stop,
        BooksInstructor db exclEvent exclLesson instructorId start stop ∧
        (start < day.stop ∧ day.start < stop) ∧ timeWindowFromDates zone start stop day = block := by
  simp only [computeDayWindows, dateToYYYYMMDD_yyyymmddToDate] at h
  split at h
  · cases h
  next hleave =>
  rw [except_bind_eq_ok] at h
  obtain ⟨base, hbase, h⟩ := h
  cases base with
  | none => cases h
  | some base =>
    simp only [except_bind_eq_ok, polishDayRange_of_date, pure, Except.pure, Except.ok.injEq,
      Option.some.injEq] at h
    obtain ⟨day, hday, rfl⟩ := h
    refine ⟨fun l hl hof hcovers => hleave ((Table.findFirst_isSome _ _).mpr
      ⟨l, hl, decide_eq_true ⟨hof, hcovers⟩⟩), base, day, _, hbase, hday, rfl, fun block => ?_⟩
    simp only [List.mem_append, List.mem_map, Table.mem_findMany, Bool.and_eq_true,
      decide_eq_true_eq, crosses_eq_true, Lesson.busyDuring_eq_true,
      InstructorEvent.busyDuring_eq_true]
    refine ⟨?_, ?_⟩
    · rintro ((⟨b, ⟨hb, hof, hcross⟩, rfl⟩ | ⟨l, ⟨hl, hof, hs, hcross, hkept⟩, rfl⟩) |
        ⟨e, ⟨he, hof, ⟨ha, hs⟩, hcross, hkept⟩, rfl⟩)
      · exact ⟨_, _, .timeBlock hb hof, hcross, rfl⟩
      · exact ⟨_, _, .lesson hl hof hs hkept, hcross, rfl⟩
      · exact ⟨_, _, .event he hof ha hs hkept, hcross, rfl⟩
    · rintro ⟨start, stop, hbooks, hcross, rfl⟩
      cases hbooks with
      | timeBlock hb hof => exact Or.inl (Or.inl ⟨_, ⟨hb, hof, hcross⟩, rfl⟩)
      | lesson hl hof hs hkept => exact Or.inl (Or.inr ⟨_, ⟨hl, hof, hs, hcross, hkept⟩, rfl⟩)
      | event he hof ha hs hkept => exact Or.inr ⟨_, ⟨he, hof, ⟨ha, hs⟩, hcross, hkept⟩, rfl⟩

theorem dayWindows_show {instructorId : Uuid} (hone : exclLesson = none ∨ exclEvent = none)
    (h : computeDayWindows zone db instructorId (yyyymmddToDate date) exclEvent exclLesson =
      .ok (some windows)) (hfits : Fits a b windows) :
    ∃ day, polishDayBounds zone date = .ok day ∧
      (calendar db).Each (skipped exclLesson exclEvent) (.instructor instructorId)
        (Shown zone day a b) := by
  obtain ⟨-, base, day, used, -, hday, rfl, hused⟩ := computeDayWindows_eq_some h
  obtain ⟨_, _, havoid⟩ := fits_subtractWindows hfits
  have hshown {start stop : Instant}
      (hbooks : BooksInstructor db exclEvent exclLesson instructorId start stop)
      (hfrom : start < day.stop) (hto : day.start < stop) :
      (timeWindowFromDates zone start stop day).Avoids a b :=
    havoid _ ((hused _).mpr ⟨start, stop, hbooks, ⟨hfrom, hto⟩, rfl⟩)
  refine ⟨day, hday, (each_iff hone).mpr ⟨fun l hl ho hex hr => ?_, fun e he ho hex hr => ?_⟩⟩
  · exact hshown (.lesson hl hr ((Lesson.occupies_eq_true l).mp ho) hex)
  · obtain ⟨hactive, hs⟩ := (InstructorEvent.occupies_eq_true e).mp ho
    exact hshown (.event he hr hactive hs hex)

theorem studentConflicts_show {ids : List Uuid} (hone : exclLesson = none ∨ exclEvent = none)
    (h : subtractStudentScheduleConflicts zone db ids (yyyymmddToDate date) windows exclLesson
      exclEvent = .ok narrowed) (hfits : Fits a b narrowed) :
    Fits a b windows ∧ ∀ day, polishDayBounds zone date = .ok day → ∀ s ∈ ids,
      (calendar db).Each (skipped exclLesson exclEvent) (.student s) (Shown zone day a b) := by
  unfold subtractStudentScheduleConflicts at h
  split at h
  · next hnone =>
    cases h
    refine ⟨hfits, fun day _ s hs => ?_⟩
    rcases hnone with rfl | rfl
    · exact absurd hs List.not_mem_nil
    · exact absurd hfits (not_fits_nil a b)
  · simp only [except_bind_eq_ok, polishDayRange_of_date, pure, Except.pure, Except.ok.injEq] at h
    obtain ⟨day, hday, rfl⟩ := h
    obtain ⟨hfits, havoid⟩ := fits_flatMap_subtractWindows hfits
    refine ⟨hfits, fun day' hday' s hs => (each_iff hone).mpr ⟨?_, ?_⟩⟩ <;>
      cases hday.symm.trans hday'
    · intro l hl ho hex hr hfrom hto
      refine havoid _ (List.mem_append_left _ (List.mem_map_of_mem ?_))
      rw [Lesson.student_mem_entry] at hr
      exact mem_busyLessons hl (hr ▸ hs) ho hex ⟨hfrom, hto⟩
    · intro e he ho hex hr hfrom hto
      obtain ⟨p, hp, hk⟩ := (Table.mem_keys _ _).mp hr
      rw [Prod.mk.injEq] at hk
      have hfound : db.instructorEvents.findUnique p.eventId = some e :=
        hk.1 ▸ Table.findUnique_of_mem he
      refine havoid _ (List.mem_append_right _ (List.mem_filterMap.mpr ⟨p, ?_, ?_⟩))
      · simp only [Table.mem_findMany, Bool.and_eq_true, decide_eq_true_eq,
          EventParticipant.busyDuring, hfound, Option.any_some, InstructorEvent.busyDuring_eq_true]
        exact ⟨hp, hk.2 ▸ hs, (InstructorEvent.occupies_eq_true e).mp ho, ⟨hfrom, hto⟩, hex⟩
      · rw [hfound]
        rfl

theorem vehicleUsed_shown {input : VehicleWindowsInput} {v : Uuid}
    (hone : input.excludeLessonId = none ∨ input.excludeEventId = none)
    (havoid : ∀ block ∈ vehicleUsedWindows zone db input day v, block.Avoids a b) :
    (calendar db).Each (skipped input.excludeLessonId input.excludeEventId) (.vehicle v)
      (Shown zone day a b) := by
  refine (each_iff hone).mpr ⟨?_, ?_⟩
  · intro l hl ho hex hr hfrom hto
    refine havoid _ (List.mem_append_left _ (List.mem_map_of_mem ?_))
    exact mem_busyLessons hl hr ho hex ⟨hfrom, hto⟩
  · intro e he ho hex hr hfrom hto
    refine havoid _ (List.mem_append_right _ (List.mem_map_of_mem ?_))
    exact mem_busyEvents he hr ho hex ⟨hfrom, hto⟩

/-- The vehicle of a slot that the map of vehicle windows still has. -/
theorem vehicleWindows_show {input : VehicleWindowsInput} {vehicleId : Option UuidText}
    {vehicleWindows : List (Uuid × List TimeWindow)}
    (hone : input.excludeLessonId = none ∨ input.excludeEventId = none)
    (hdate : input.date = yyyymmddToDate date)
    (h : resolveAvailableVehicleWindows env input db = (.ok vehicleWindows, db'))
    (hfits : Fits a b (windowsOfVehicle vehicleWindows vehicleId)) :
    ∃ v, vehicleId = some (.ofUuid v) ∧ Fits a b input.instructorWindows ∧
      v ∈ offeredVehicleIds (db.refreshVehicles env input.schoolId) input ∧
      ∀ day, polishDayBounds env.zone date = .ok day →
        (calendar db).Each (skipped input.excludeLessonId input.excludeEventId) (.vehicle v)
          (Shown env.zone day a b) := by
  cases vehicleId with
  | none => exact absurd hfits (not_fits_nil a b)
  | some v =>
    simp only [resolveAvailableVehicleWindows, refreshExpiredVehicleUnavailabilitiesForSchool,
      Prog.bind_eq_ok, Prog.write_eq_ok, Prog.query_eq_ok] at h
    obtain ⟨_, _, rfl, h, _⟩ := h
    split at h
    · cases h
      exact absurd hfits (not_fits_nil a b)
    · simp only [except_bind_eq_ok, hdate, polishDayRange_of_date, pure, Except.pure,
        Except.ok.injEq] at h
      obtain ⟨day, hday, rfl⟩ := h
      rw [windowsOfVehicle, Option.bind_some] at hfits
      cases hfind : List.find? _ _ with
      | none =>
        rw [hfind] at hfits
        exact absurd hfits (not_fits_nil a b)
      | some entry =>
        rw [hfind] at hfits
        have hentry := List.mem_of_mem_filter (List.mem_of_find?_eq_some hfind)
        have hkey := List.find?_some hfind
        obtain ⟨v', hv, rfl⟩ := List.mem_map.mp hentry
        obtain rfl : UuidText.ofUuid v' = v := of_decide_eq_true hkey
        obtain ⟨hfits, havoid⟩ := fits_flatMap_subtractWindows hfits
        refine ⟨v', rfl, hfits, hv, fun day' hday' => ?_⟩
        cases hday.symm.trans hday'
        exact vehicleUsed_shown hone havoid

theorem timeWindow_eq_ok {instructorId : Uuid} {s e : Instant} :
    assertInstructorTimeWindowAvailable zone db instructorId s e exclEvent exclLesson = .ok () ↔
      s < e ∧ (instantToPolishDateTime zone s).date = (instantToPolishDateTime zone e).date ∧
      ∃ windows, computeDayWindows zone db instructorId
          (yyyymmddToDate (instantToPolishDateTime zone s).date) exclEvent exclLesson =
            .ok (some windows) ∧
        Fits (instantToPolishDateTime zone s).minutes (instantToPolishDateTime zone e).minutes
          windows := by
  simp only [assertInstructorTimeWindowAvailable, except_bind_eq_ok, throwIf_eq_ok, orThrow_eq_ok,
    datesAreSamePolishDay, polishDateOnly, decide_eq_false_iff_not, not_not, not_le,
    Bool.not_eq_false, List.any_eq_true, decide_eq_true_eq]
  refine ⟨?_, ?_⟩
  · rintro ⟨_, hlt, _, hdate, _, hrun, windows, rfl, hfits⟩
    exact ⟨hlt, hdate, windows, hrun, hfits⟩
  · rintro ⟨hlt, hdate, windows, hrun, hfits⟩
    exact ⟨(), hlt, (), hdate, _, hrun, windows, rfl, hfits⟩

theorem timeWindow_available {instructorId : Uuid} (hslot : IsSlot zone date a b window)
    (hlt : window.start < window.stop)
    (h : computeDayWindows zone db instructorId (yyyymmddToDate date) exclEvent exclLesson =
      .ok (some windows)) (hfits : Fits a b windows) :
    assertInstructorTimeWindowAvailable zone db instructorId window.start window.stop exclEvent
      exclLesson = .ok () := by
  rw [timeWindow_eq_ok, localTime_clock hslot.start, localTime_clock hslot.stop]
  exact ⟨hlt, rfl, windows, h, hfits⟩

end Steps

end Slot

end OSK
