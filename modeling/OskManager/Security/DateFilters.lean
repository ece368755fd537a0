import Mathlib.Order.CompletePartialOrder
import Mathlib.Data.Set.Lattice
import OskManager.Sample.FiveFailures
import OskManager.Security.CalendarDates

/-! The filters by date follow the days of Warsaw. The start of a day is where its local midnight is,
so before, between and after part the time line, and a range of dates is the union of its days. -/

namespace OSK

open Relational

/-! ### The clock of Warsaw -/

/-- The clock is one or two hours ahead, and it is changed at one o'clock UTC only. -/
structure PolishZone.ChangesAtOne (zone : PolishZone) : Prop where
  offset : ∀ t, zone.offset t = 3600000 ∨ zone.offset t = 7200000
  change : ∀ t : ℤ, zone.offset t ≠ zone.offset (t - 1) → t % 86400000 = 3600000

def PolishZone.dateAt (zone : PolishZone) (t : Instant) : Day :=
  (instantToPolishDateTime zone t).date

/-- The instant is the only one at which the clock shows the midnight that starts the day, and the
day and all later ones lie from there on. -/
structure PolishZone.StartsDay (zone : PolishZone) (day : Day) (start : Instant) : Prop where
  midnight : start + zone.offset start = day * msPerDay
  only : ∀ t, t + zone.offset t = day * msPerDay → t = start
  le_iff : ∀ t, start ≤ t ↔ day ≤ zone.dateAt t

variable {zone : PolishZone}

theorem PolishZone.le_dateAt_iff {day t : ℤ} :
    day ≤ zone.dateAt t ↔ day * 86400000 ≤ t + zone.offset t :=
  Int.le_ediv_iff_mul_le (by decide)

/-- Between one o'clock of a day and one o'clock of the next the clock is not changed. -/
theorem PolishZone.ChangesAtOne.offset_eq (hclock : zone.ChangesAtOne) (day : ℤ) {t : ℤ}
    (hfrom : (day - 1) * 86400000 + 3600000 ≤ t) (hto : t < day * 86400000 + 3600000) :
    zone.offset t = zone.offset ((day - 1) * 86400000 + 3600000) := by
  induction t, hfrom using Int.leInduction with
  | base => rfl
  | succ t hfrom ih =>
    rw [← ih (by omega)]
    by_contra hchange
    have hhour := hclock.change (t + 1) (by rwa [add_sub_cancel_right])
    omega

theorem dayStart_shifted {midnightUtc candidate offset : ℤ} (hoffset : zone.offset candidate = offset)
    (hwhole : offset = 3600000 ∨ offset = 7200000) :
    dayStart.shifted zone midnightUtc candidate = .ok (midnightUtc - offset) := by
  have hminutes : ¬(offset = 0 ∨ offset % msPerMinute ≠ 0) := by
    rcases hwhole with rfl | rfl <;> decide
  rw [dayStart.shifted, hoffset]
  simp only [throwIf, hminutes, if_false]
  rfl

/-- The second guess is the start of the day, as the clock is not changed between the first guess
and midnight. -/
theorem dayStart_spec (hclock : zone.ChangesAtOne) (day : ℤ) :
    ∃ start, dayStart zone day = .ok start ∧ zone.StartsDay day start := by
  obtain ⟨o, ho⟩ : ∃ o, zone.offset ((day - 1) * 86400000 + 3600000 : ℤ) = o := ⟨_, rfl⟩
  have hwhole : o = 3600000 ∨ o = 7200000 := ho ▸ hclock.offset _
  have hsteady {t : ℤ} (hfrom : day * 86400000 - 7200000 ≤ t) (hto : t < day * 86400000 + 3600000) :
      zone.offset t = o := (hclock.offset_eq day (by omega) hto).trans ho
  obtain ⟨start, hstart⟩ : ∃ start : ℤ, start = day * 86400000 - o := ⟨_, rfl⟩
  have hoffset : zone.offset start = o := hsteady (by omega) (by omega)
  have hshown (t : ℤ) : start ≤ t ↔ day * 86400000 ≤ t + zone.offset t := by
    have hrange := hclock.offset t
    by_cases hnear : day * 86400000 - 7200000 ≤ t ∧ t < day * 86400000 + (3600000 : ℤ)
    · rw [hsteady hnear.1 hnear.2]
      omega
    · omega
  refine ⟨start, ?_, ?_, fun (t : ℤ) ht => ?_, fun t => ?_⟩
  · have hguess : zone.offset (day * 86400000 - 3600000 : ℤ) = o :=
      hsteady (by omega) (by omega)
    subst hstart
    exact (congrArg (Except.bind · (dayStart.shifted zone _)) (dayStart_shifted hguess hwhole)).trans
      (dayStart_shifted hoffset hwhole)
  · rw [hoffset, hstart]
    exact sub_add_cancel _ _
  · have hmidnight : t + zone.offset t = day * 86400000 := ht
    have hfrom := (hshown t).mpr hmidnight.ge
    have hrange := hclock.offset t
    rw [hsteady (by omega) (by omega)] at hmidnight
    have hsame : t = start := by omega
    exact hsame
  · rw [PolishZone.le_dateAt_iff]
    exact hshown t

/-! ### What the filters show -/

theorem dateStart_spec (hclock : zone.ChangesAtOne) {text : String} {day : Day}
    (h : IsDate text day) :
    ∃ start, dateStart zone text = .ok start ∧ zone.StartsDay day start := by
  obtain ⟨start, hstart, hday⟩ := dayStart_spec hclock day
  refine ⟨start, ?_, hday⟩
  simp only [dateStart, h.1, h.2, orThrow, throwIf]
  exact hstart

theorem nextDay_eq {node : NodeRuntime} {text : String} {day : Day} (h : IsDate text day) :
    nextDay node zone text =
      if lastIsoDay ≤ day then .error (.badRequest "Nieprawidłowa data filtra")
      else dayStart zone (day + 1) := by
  have hfirst := h.first_le
  have hto := h.le_last
  have hnext : (day * msPerDay + msPerDay) / msPerDay = day + 1 := by
    dsimp only [Day, Instant, msPerDay] at *
    omega
  have htime : ¬(day * msPerDay + msPerDay < -maxTime ∨ maxTime < day * msPerDay + msPerDay) := by
    dsimp only [Day, Instant, msPerDay, maxTime, firstIsoDay, lastIsoDay] at *
    omega
  have hyears : (day + 1 < firstIsoDay ∨ lastIsoDay < day + 1) ↔ lastIsoDay ≤ day := by
    dsimp only [Day] at *
    omega
  rw [nextDay, h.parseMidnight_eq node]
  change Except.bind (throwIf _ _) (fun _ => Except.bind (throwIf _ _) fun _ => dayStart _ _) = _
  rw [throwIf, if_neg htime, throwIf, hnext]
  by_cases hend : lastIsoDay ≤ day
  · rw [if_pos (hyears.mpr hend), if_pos hend]
    rfl
  · rw [if_neg (hyears.not.mpr hend), if_neg hend]
    rfl

theorem nextDay_spec (hclock : zone.ChangesAtOne) {node : NodeRuntime} {text : String} {day : Day}
    (h : IsDate text day) (hlast : day < lastIsoDay) :
    ∃ stop, nextDay node zone text = .ok stop ∧ zone.StartsDay (day + 1) stop := by
  obtain ⟨stop, hstop, hday⟩ := dayStart_spec hclock (day + 1)
  exact ⟨stop, by rw [nextDay_eq h, if_neg hlast.not_ge, hstop], hday⟩

/-- The day after the last date has no date of ten characters. -/
theorem nextDay_last {node : NodeRuntime} :
    nextDay node zone "9999-12-31" = .error (.badRequest "Nieprawidłowa data filtra") := by
  rw [nextDay_eq isDate_last, if_pos le_rfl]

/-- The filter is taken, and it shows the rows of the instants. -/
def FilterShows (node : NodeRuntime) (zone : PolishZone) (operator : FilterOperator)
    (value : FilterValue) (instants : Set Instant) : Prop :=
  ∃ condition, dateCondition node zone operator (some value) = .ok condition ∧
    ∀ row, condition row = true ↔ row.school.occurredAt ∈ instants

variable {node : NodeRuntime}

theorem shows_before (hclock : zone.ChangesAtOne) {text : String} {day : Day}
    (h : IsDate text day) : FilterShows node zone .before (.text text) {t | zone.dateAt t < day} := by
  obtain ⟨start, hstart, hday⟩ := dateStart_spec hclock h
  refine ⟨fun r => decide (r.school.occurredAt < start), ?_, fun row => ?_⟩
  · rw [dateCondition, hstart]
    rfl
  · rw [decide_eq_true_eq, Set.mem_ofPred_eq, ← not_le, ← not_le, hday.le_iff]

theorem shows_after (hclock : zone.ChangesAtOne) {text : String} {day : Day}
    (h : IsDate text day) (hlast : day < lastIsoDay) :
    FilterShows node zone .after (.text text) {t | day < zone.dateAt t} := by
  obtain ⟨stop, hstop, hnext⟩ := nextDay_spec hclock h hlast
  refine ⟨fun r => decide (stop ≤ r.school.occurredAt), ?_, fun row => ?_⟩
  · rw [dateCondition, hstop]
    rfl
  · rw [decide_eq_true_eq, hnext.le_iff]
    exact Int.add_one_le_iff

theorem shows_between (hclock : zone.ChangesAtOne) {first last : String} {day day' : Day}
    (h : IsDate first day) (h' : IsDate last day') (hle : first ≤ last)
    (hlast : day' < lastIsoDay) :
    FilterShows node zone .between (.range first last)
      {t | day ≤ zone.dateAt t ∧ zone.dateAt t ≤ day'} := by
  obtain ⟨start, hstart, hday⟩ := dateStart_spec hclock h
  obtain ⟨stop, hstop, hnext⟩ := nextDay_spec hclock h' hlast
  refine ⟨fun r => decide (start ≤ r.school.occurredAt ∧ r.school.occurredAt < stop), ?_,
    fun row => ?_⟩
  · rw [dateCondition, if_pos ⟨rfl, hle⟩, hstart, hstop]
    rfl
  · rw [decide_eq_true_eq, ← not_le, hday.le_iff, hnext.le_iff, not_le]
    exact and_congr_right fun _ => Int.lt_add_one_iff

theorem shows_on (hclock : zone.ChangesAtOne) {text : String} {day : Day} (h : IsDate text day)
    (hlast : day < lastIsoDay) : FilterShows node zone .on (.text text) {t | zone.dateAt t = day} := by
  obtain ⟨shown, hrange, hshown⟩ := shows_between hclock h h le_rfl hlast
  refine ⟨shown, ?_, fun row => (hshown row).trans ?_⟩
  · rwa [dateCondition, if_pos ⟨rfl, le_rfl⟩] at hrange
  · exact and_comm.trans le_antisymm_iff.symm

/-- The dates from one on up to another. -/
def datesFrom (first last : String) : Set String :=
  {text | (∃ day, IsDate text day) ∧ first ≤ text ∧ text ≤ last}

/-- The filters of two dates part the time line, and the range consists of its days. -/
structure PartitionsDays (node : NodeRuntime) (zone : PolishZone) (first last : String)
    (before between after : Set Instant) (on : String → Set Instant) : Prop where
  shows_before : FilterShows node zone .before (.text first) before
  shows_between : FilterShows node zone .between (.range first last) between
  shows_after : FilterShows node zone .after (.text last) after
  cover : before ∪ between ∪ after = Set.univ
  apart : Disjoint before between ∧ Disjoint before after ∧ Disjoint between after
  shows_on : ∀ text ∈ datesFrom first last, FilterShows node zone .on (.text text) (on text)
  shows_day : ∀ text ∈ datesFrom first last,
    FilterShows node zone .between (.range text text) (on text)
  days : between = ⋃ text ∈ datesFrom first last, on text
  days_apart : (datesFrom first last).PairwiseDisjoint on

theorem partitionsDays (hclock : zone.ChangesAtOne) {first last : String} {day day' : Day}
    (h : IsDate first day) (h' : IsDate last day') (hle : first ≤ last) (hlast : day' < lastIsoDay) :
    PartitionsDays node zone first last {t | zone.dateAt t < day}
      {t | day ≤ zone.dateAt t ∧ zone.dateAt t ≤ day'} {t | day' < zone.dateAt t}
      fun text => {t | IsDate text (zone.dateAt t)} := by
  have hdays := (h.le_iff h').mp hle
  have hon {text : String} {d : Day} (hd : IsDate text d) :
      {t | IsDate text (zone.dateAt t)} = {t | zone.dateAt t = d} := by
    ext t
    refine ⟨fun ht => Option.some.inj (ht.1.symm.trans hd.1), ?_⟩
    rintro rfl
    exact hd
  have hearly {text : String} {d : Day} (hd : IsDate text d) (hto : text ≤ last) : d < lastIsoDay :=
    ((hd.le_iff h').mp hto).trans_lt hlast
  refine ⟨shows_before hclock h, shows_between hclock h h' hle hlast, shows_after hclock h' hlast,
    ?_, ⟨?_, ?_, ?_⟩, ?_, ?_, ?_, ?_⟩
  · refine Set.eq_univ_of_forall fun t => ?_
    rcases lt_or_ge (zone.dateAt t) day with hbefore | hfrom
    · exact Or.inl (Or.inl hbefore)
    rcases le_or_gt (zone.dateAt t) day' with hto | hafter
    · exact Or.inl (Or.inr ⟨hfrom, hto⟩)
    · exact Or.inr hafter
  · exact Set.disjoint_left.mpr fun t hbefore hin => (hbefore.trans_le hin.1).false
  · exact Set.disjoint_left.mpr fun t hbefore hafter => (hbefore.trans_le hdays).not_gt hafter
  · exact Set.disjoint_left.mpr fun t hin hafter => (hin.2.trans_lt hafter).false
  · rintro text ⟨⟨d, hd⟩, -, hto⟩
    rw [hon hd]
    exact shows_on hclock hd (hearly hd hto)
  · rintro text ⟨⟨d, hd⟩, -, hto⟩
    have hday : FilterShows node zone .between _ _ :=
      shows_between hclock hd hd le_rfl (hearly hd hto)
    rw [hon hd]
    simpa only [le_antisymm_iff, and_comm] using hday
  · ext t
    simp only [Set.mem_ofPred_eq, Set.mem_iUnion, datesFrom, exists_prop]
    constructor
    · rintro ⟨hfrom, hto⟩
      obtain ⟨text, htext⟩ := h.exists_later hfrom (hto.trans hlast.le)
      exact ⟨text, ⟨⟨_, htext⟩, (h.le_iff htext).mpr hfrom, (htext.le_iff h').mpr hto⟩, htext⟩
    · rintro ⟨text, ⟨-, hfrom, hto⟩, htext⟩
      exact ⟨(h.le_iff htext).mp hfrom, (htext.le_iff h').mp hto⟩
  · intro text _ text' _ hne
    exact Set.disjoint_left.mpr fun t ht ht' => hne (ht.unique ht')

theorem not_partitionsDays_last {first : String} {before between after : Set Instant}
    {on : String → Set Instant} :
    ¬PartitionsDays node zone first "9999-12-31" before between after on := by
  intro h
  obtain ⟨condition, hafter, -⟩ := h.shows_after
  rw [dateCondition, nextDay_last] at hafter
  cases hafter

/-- The start of a date is the local midnight that starts it. The filters by date part the time line
by the days of Warsaw, up to the day before the last one that has a date. -/
theorem dateFilters_partition_iff (node : NodeRuntime) (zone : PolishZone)
    (hclock : zone.ChangesAtOne) :
    (∀ text day, IsDate text day →
      ∃ start, dateStart zone text = .ok start ∧ zone.StartsDay day start) ∧
    ∀ first last day day', IsDate first day → IsDate last day' → first ≤ last →
      ((∃ before between after on, PartitionsDays node zone first last before between after on) ↔
        last ≠ "9999-12-31") := by
  refine ⟨fun text day => dateStart_spec hclock, fun first last day day' h h' hle => ⟨?_, ?_⟩⟩
  · rintro ⟨before, between, after, on, hpartition⟩ rfl
    exact not_partitionsDays_last hpartition
  · intro hlast
    have hearly : day' ≠ lastIsoDay := by
      rintro rfl
      exact hlast (h'.unique isDate_last)
    exact ⟨_, _, _, _, partitionsDays hclock h h' hle (lt_of_le_of_ne h'.le_last hearly)⟩

/-- The zone whose clock is put forward on 29 March 2026. -/
def springZone : PolishZone :=
  .changed (20541 * 86400000 + 3600000) 3600000 7200000 SmallSchool.oneHour_inDay
    SmallSchool.twoHours_inDay

theorem springZone_changesAtOne : springZone.ChangesAtOne where
  offset t := by
    simp only [springZone, PolishZone.changed]
    split_ifs
    · exact Or.inl rfl
    · exact Or.inr rfl
  change t h := by
    simp only [springZone, PolishZone.changed] at h
    split_ifs at h <;> dsimp only [Instant] at * <;> omega

/-- The day of 23 hours and the days around it. -/
theorem dateFilters_partition_iff_spring :
    (∃ start, dateStart springZone "2026-03-29" = .ok start ∧ springZone.StartsDay 20541 start) ∧
      ∃ before between after on,
        PartitionsDays FiveFailures.node springZone "2026-03-28" "2026-03-30"
          before between after on := by
  obtain ⟨hstart, hpartition⟩ := dateFilters_partition_iff FiveFailures.node springZone
    springZone_changesAtOne
  refine ⟨hstart _ _ ⟨by decide, by decide⟩, (hpartition _ _ 20540 20542 ⟨by decide, by decide⟩
    ⟨by decide, by decide⟩ (by decide)).mpr (by decide)⟩

/-- The last day of the year 9999 is a date, but no filter reaches to its end. -/
theorem dateFilters_reject_lastDay :
    springZone.ChangesAtOne ∧ IsDate "9999-12-31" lastIsoDay ∧
      ¬∃ before between after on,
        PartitionsDays FiveFailures.node springZone "9999-12-31" "9999-12-31"
          before between after on :=
  ⟨springZone_changesAtOne, isDate_last, fun ⟨_, _, _, _, h⟩ => not_partitionsDays_last h⟩

end OSK
