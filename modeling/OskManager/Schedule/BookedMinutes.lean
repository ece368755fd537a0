import OskManager.Schedule.DayWindows

/-! Bookings in the minutes of a day. On a day on which the clock keeps its offset, a booking of
whole minutes covers the minutes of its block and no others, so a slot avoids the block when none
of its minutes is covered. -/

namespace OSK

open Relational

/-- The clock shows the minute `m` of the day while the booking lasts. -/
def CoversMinute (zone : PolishZone) (day : ScheduleWindow) (start stop : Instant) (m : ℤ) : Prop :=
  ∃ t, (day.start ≤ t ∧ t < day.stop) ∧ (start ≤ t ∧ t < stop) ∧
    (instantToPolishDateTime zone t).minutes = m

/-- The booking takes some time, and the clock shows a whole minute at both of its ends. -/
structure WholeMinutes (zone : PolishZone) (start stop : Instant) : Prop where
  in_order : start < stop
  start_whole : (start + zone.offset start) % msPerMinute = 0
  stop_whole : (stop + zone.offset stop) % msPerMinute = 0

structure WholeMinuteBookings (zone : PolishZone) (db : Db) : Prop where
  lessons : ∀ l ∈ db.lessons.rows, WholeMinutes zone l.startTime l.endTime
  events : ∀ e ∈ db.instructorEvents.rows, WholeMinutes zone e.startTime e.endTime

section Block

variable {zone : PolishZone} {date : Day} {day : ScheduleWindow} {start stop : Instant}

theorem SteadyOn.whole (hsteady : zone.SteadyOn date) (hday : polishDayBounds zone date = .ok day)
    {t : Instant} (hfrom : day.start ≤ t) (hto : t ≤ day.stop)
    (hwhole : (t + zone.offset t) % msPerMinute = 0) : (t - day.start) % msPerMinute = 0 := by
  obtain ⟨hstart, _, _⟩ := dayBounds_wall hday
  rw [hsteady day hday t hfrom hto] at hwhole
  dsimp only [Instant, Day, msPerDay, msPerMinute] at *
  omega

/-- The block of whole minutes, counted in the milliseconds of its day. -/
theorem SteadyOn.block_ends (hsteady : zone.SteadyOn date)
    (hday : polishDayBounds zone date = .ok day) (hwhole : WholeMinutes zone start stop)
    (hcross : start < day.stop ∧ day.start < stop) :
    (timeWindowFromDates zone start stop day).start * msPerMinute =
        max start day.start - day.start ∧
      (timeWindowFromDates zone start stop day).stop * msPerMinute =
        min stop day.stop - day.start := by
  rw [SteadyOn.block_eq hsteady hday hcross]
  refine ⟨Int.ediv_mul_cancel (Int.dvd_of_emod_eq_zero ?_),
    Int.ediv_mul_cancel (Int.dvd_of_emod_eq_zero ?_)⟩
  · rcases le_total start day.start with hearly | hlate
    · rw [max_eq_right hearly, sub_self, Int.zero_emod]
    · rw [max_eq_left hlate]
      exact SteadyOn.whole hsteady hday hlate hcross.1.le hwhole.start_whole
  · rcases le_total stop day.stop with hearly | hlate
    · rw [min_eq_left hearly]
      exact SteadyOn.whole hsteady hday hcross.2.le hearly hwhole.stop_whole
    · rw [min_eq_right hlate, SteadyOn.day_length hsteady hday, add_sub_cancel_left]
      rfl

theorem SteadyOn.block_lt (hsteady : zone.SteadyOn date) (hday : polishDayBounds zone date = .ok day)
    (hwhole : WholeMinutes zone start stop) (hcross : start < day.stop ∧ day.start < stop) :
    (timeWindowFromDates zone start stop day).start <
      (timeWindowFromDates zone start stop day).stop := by
  obtain ⟨hstart, hstop⟩ := SteadyOn.block_ends hsteady hday hwhole hcross
  have hlt := hwhole.in_order
  have hday_lt := (dayBounds_wall hday).2.2
  dsimp only [Instant, msPerMinute] at *
  omega

theorem SteadyOn.block_le (hsteady : zone.SteadyOn date) (hday : polishDayBounds zone date = .ok day)
    (hlt : start < stop) (hcross : start < day.stop ∧ day.start < stop) :
    (timeWindowFromDates zone start stop day).start ≤
      (timeWindowFromDates zone start stop day).stop := by
  have hproper : max start day.start ≤ min stop day.stop :=
    max_le (le_min hlt.le hcross.1.le) (le_min hcross.2.le (dayBounds_wall hday).2.2.le)
  rw [SteadyOn.block_eq hsteady hday hcross]
  exact Int.ediv_le_ediv (by decide) (Int.sub_le_sub_right hproper _)

theorem SteadyOn.coversMinute_iff (hsteady : zone.SteadyOn date)
    (hday : polishDayBounds zone date = .ok day) (hwhole : WholeMinutes zone start stop)
    (hcross : start < day.stop ∧ day.start < stop) (m : ℤ) :
    CoversMinute zone day start stop m ↔
      (timeWindowFromDates zone start stop day).start ≤ m ∧
        m < (timeWindowFromDates zone start stop day).stop := by
  obtain ⟨hstart, hstop⟩ := SteadyOn.block_ends hsteady hday hwhole hcross
  generalize (timeWindowFromDates zone start stop day).start = from_ at *
  generalize (timeWindowFromDates zone start stop day).stop = to_ at *
  refine ⟨?_, ?_⟩
  · rintro ⟨t, ⟨hfrom, hto⟩, ⟨hs, he⟩, rfl⟩
    rw [SteadyOn.minutes hsteady hday hfrom hto]
    dsimp only [Instant, msPerMinute] at *
    omega
  · rintro ⟨hfrom, hto⟩
    have hin : max start day.start ≤ day.start + m * msPerMinute ∧
        day.start + m * msPerMinute < min stop day.stop := by
      dsimp only [Instant, msPerMinute] at *
      omega
    obtain ⟨⟨hs, hd⟩, he, hd'⟩ := And.imp max_le_iff.mp lt_min_iff.mp hin
    refine ⟨_, ⟨hd, hd'⟩, ⟨hs, he⟩, ?_⟩
    rw [SteadyOn.minutes hsteady hday hd hd', add_sub_cancel_left]
    exact Int.mul_ediv_cancel _ (by decide)

/-- A slot avoids the block of a booking when none of its minutes is covered. -/
theorem SteadyOn.avoids_iff (hsteady : zone.SteadyOn date)
    (hday : polishDayBounds zone date = .ok day) (hwhole : WholeMinutes zone start stop)
    (hcross : start < day.stop ∧ day.start < stop) {a b : ℤ} (hab : a < b) :
    (timeWindowFromDates zone start stop day).Avoids a b ↔
      ∀ m, a ≤ m → m < b → ¬CoversMinute zone day start stop m := by
  have hproper := SteadyOn.block_lt hsteady hday hwhole hcross
  simp only [SteadyOn.coversMinute_iff hsteady hday hwhole hcross, TimeWindow.Avoids]
  refine ⟨?_, fun h => ?_⟩
  · intro h m ham hmb
    omega
  · have hmeet := h (max a (timeWindowFromDates zone start stop day).start) (le_max_left _ _)
    omega

end Block

end OSK
