import OskManager.Lib.WallClock
import OskManager.Schedule.DayWindows

/-! The days of the Polish clock. Each midnight is shown once and the clock is changed at most once
from one to the next, so the clock shows a date exactly from its midnight to the next one. -/

namespace OSK

open Relational WallClock

/-- The day of a date, on which the clock is changed at most once. -/
structure PolishZone.OneChange (zone : PolishZone) (date : Day) (day : ScheduleWindow)
    (c : Instant) : Prop where
  bounds : polishDayBounds zone date = .ok day
  change : ChangesAt zone.offset day.start day.stop c

structure PolishZone.Regular (zone : PolishZone) : Prop where
  day : ∀ date, ∃ day c, zone.OneChange date day c

section

variable {zone : PolishZone} {date : Day} {day : ScheduleWindow} {c t : Instant}

theorem dayBounds_iff : polishDayBounds zone date = .ok day ↔
    zone.toAbsolute (date * msPerDay) = some day.start ∧
      zone.toAbsolute ((date + 1) * msPerDay) = some day.stop := by
  simp only [polishDayBounds, except_bind_eq_ok, orThrow_eq_ok, pure, Except.pure,
    Except.ok.injEq]
  refine ⟨?_, ?_⟩
  · rintro ⟨start, hstart, stop, hstop, rfl⟩
    exact ⟨hstart, hstop⟩
  · rintro ⟨hstart, hstop⟩
    exact ⟨_, hstart, _, hstop, rfl⟩

theorem once_of_toAbsolute {w : ℤ} (h : zone.toAbsolute w = some t) : Once zone.offset t := by
  intro t' heq
  refine zone.toAbsolute_unique w t t' h (heq.trans ?_)
  exact zone.toAbsolute_wall w t h

theorem PolishZone.OneChange.wall_in (h : zone.OneChange date day c) (hfrom : day.start ≤ t)
    (hto : t < day.stop) :
    date * msPerDay ≤ t + zone.offset t ∧ t + zone.offset t < (date + 1) * msPerDay := by
  obtain ⟨hstart, hstop⟩ := dayBounds_iff.mp h.bounds
  obtain ⟨hwall, hwall', -⟩ := dayBounds_wall h.bounds
  have hlt : wall zone.offset day.start < wall zone.offset day.stop := by
    simp only [wall, hwall, hwall']
    dsimp only [Day, msPerDay]
    omega
  have hlow := h.change.start_le_wall (once_of_toAbsolute hstart) hlt hfrom hto.le
  have hhigh := h.change.wall_lt_stop (once_of_toAbsolute hstop) hlt hfrom hto
  simp only [wall, hwall, hwall'] at hlow hhigh
  exact ⟨hlow, hhigh⟩

theorem PolishZone.OneChange.date_eq (h : zone.OneChange date day c) (hfrom : day.start ≤ t)
    (hto : t < day.stop) : (instantToPolishDateTime zone t).date = date := by
  obtain ⟨hlow, hhigh⟩ := h.wall_in hfrom hto
  dsimp only [instantToPolishDateTime, Instant, Day, msPerDay] at *
  omega

theorem PolishZone.OneChange.minutes_eq (h : zone.OneChange date day c) (hfrom : day.start ≤ t)
    (hto : t < day.stop) : (instantToPolishDateTime zone t).minutes =
      (t + zone.offset t - date * msPerDay) / msPerMinute := by
  obtain ⟨hlow, hhigh⟩ := h.wall_in hfrom hto
  dsimp only [instantToPolishDateTime, Instant, Day, msPerDay, msPerMinute] at *
  omega

theorem SteadyOn.oneChange (hsteady : zone.SteadyOn date)
    (hday : polishDayBounds zone date = .ok day) : zone.OneChange date day day.stop where
  bounds := hday
  change :=
    { after_start := (dayBounds_wall hday).2.2
      by_stop := le_rfl
      before := fun t hfrom hto => hsteady day hday t hfrom hto.le
      after := fun _ hfrom hto => congrArg zone.offset (le_antisymm hto hfrom) }

/-! ### Ranges of days -/

/-- Midnights are in the order of their dates: an offset is less than a day. -/
theorem midnight_lt {date' : Day} {t' : Instant} (ht : zone.toAbsolute (date * msPerDay) = some t)
    (ht' : zone.toAbsolute (date' * msPerDay) = some t') (h : date < date') : t < t' := by
  have hwall := zone.toAbsolute_wall _ _ ht
  have hwall' := zone.toAbsolute_wall _ _ ht'
  have hlow := zone.offset_nonneg t
  have hhigh := zone.offset_lt_day t'
  dsimp only [Instant, Day, msPerDay] at *
  omega

theorem midnight_le {date' : Day} {t' : Instant} (ht : zone.toAbsolute (date * msPerDay) = some t)
    (ht' : zone.toAbsolute (date' * msPerDay) = some t') (h : date ≤ date') : t ≤ t' := by
  rcases h.eq_or_lt with rfl | hlt
  · exact (Option.some.inj (ht.symm.trans ht')).le
  · exact (midnight_lt ht ht' hlt).le

theorem exists_day_of_range {dateFrom dateTo : Day} {first last : ScheduleWindow}
    (hdays : ∀ date, dateFrom ≤ date → date ≤ dateTo → ∃ day, polishDayBounds zone date = .ok day)
    (hle : dateFrom ≤ dateTo) (hfirst : polishDayBounds zone dateFrom = .ok first)
    (hlast : polishDayBounds zone dateTo = .ok last) (hfrom : first.start ≤ t)
    (hto : t < last.stop) : ∃ date day, dateFrom ≤ date ∧ date ≤ dateTo ∧
      polishDayBounds zone date = .ok day ∧ day.start ≤ t ∧ t < day.stop := by
  induction dateTo, hle using Int.leInduction generalizing last with
  | base =>
    cases hfirst.symm.trans hlast
    exact ⟨dateFrom, first, le_rfl, le_rfl, hfirst, hfrom, hto⟩
  | succ dateTo hle ih =>
    obtain ⟨prev, hprev⟩ := hdays dateTo hle (Int.le_add_one le_rfl)
    have hmeet : prev.stop = last.start := Option.some.inj
      ((dayBounds_iff.mp hprev).2.symm.trans (dayBounds_iff.mp hlast).1)
    rcases lt_or_ge t prev.stop with hbefore | hafter
    · obtain ⟨date, day, hge, hle', hday, hin⟩ :=
        ih (fun date hge hle' => hdays date hge (Int.le_add_one hle')) hprev hbefore
      exact ⟨date, day, hge, Int.le_add_one hle', hday, hin⟩
    · exact ⟨_, last, Int.le_add_one hle, le_rfl, hlast, hmeet ▸ hafter, hto⟩

/-! ### All days -/

/-- Every instant lies in a day: the midnights are less than a day from those of UTC. -/
theorem PolishZone.Regular.day_of (h : zone.Regular) (t : Instant) :
    ∃ date day c, zone.OneChange date day c ∧ day.start ≤ t ∧ t < day.stop := by
  obtain ⟨day, c, hday⟩ := h.day (t / msPerDay)
  obtain ⟨next, c', hnext⟩ := h.day (t / msPerDay + 1)
  have hstart := (dayBounds_wall hday.bounds).1
  have hstop := (dayBounds_wall hnext.bounds).2.1
  have hmeet : day.stop = next.start := Option.some.inj
    ((dayBounds_iff.mp hday.bounds).2.symm.trans (dayBounds_iff.mp hnext.bounds).1)
  have hlow := zone.offset_nonneg day.start
  have hhigh := zone.offset_lt_day next.stop
  rcases lt_or_ge t day.stop with hbefore | hafter
  · refine ⟨_, day, c, hday, ?_, hbefore⟩
    dsimp only [Instant, msPerDay] at *
    omega
  · refine ⟨_, next, c', hnext, hmeet ▸ hafter, ?_⟩
    dsimp only [Instant, msPerDay] at *
    omega

/-- The clock shows a date from its midnight to the next one. -/
theorem PolishZone.Regular.date_eq_iff (h : zone.Regular)
    (hday : polishDayBounds zone date = .ok day) :
    (instantToPolishDateTime zone t).date = date ↔ day.start ≤ t ∧ t < day.stop := by
  refine ⟨?_, fun ⟨hfrom, hto⟩ => ?_⟩
  · rintro rfl
    obtain ⟨date, day', c, hone, hfrom, hto⟩ := h.day_of t
    rw [hone.date_eq hfrom hto] at hday
    cases hone.bounds.symm.trans hday
    exact ⟨hfrom, hto⟩
  · obtain ⟨day', c, hone⟩ := h.day date
    cases hone.bounds.symm.trans hday
    exact hone.date_eq hfrom hto

end

end OSK
