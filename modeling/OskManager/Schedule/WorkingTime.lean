import OskManager.Sample.SmallSchool
import OskManager.Schedule.BookedMinutes
import OskManager.Schedule.PolishDays

/-! The working time of an instructor. The check of a window compares the minutes the clock shows at
its ends with hours and blocks in minutes, so it does not see the part of a minute at an end, nor
that the clock is set back in between. -/

namespace OSK

open Relational WallClock

/-! ### What a window has to respect -/

/-- The working hours of a date, in milliseconds from its midnight by the clock: of the exception
row if there is one, else of the weekly row. -/
inductive WorkingHours (db : Db) (instructorId : Uuid) (date : Day) : ℤ → ℤ → Prop where
  | exception {row : InstructorWorkingHours} {start stop : ℤ} (mem : row ∈ db.workingHours.rows)
      (key : (row.instructorId, row.date) = (instructorId, date)) (works : row.isDayOff = false)
      (starts : row.startTime = some start) (stops : row.endTime = some stop) :
      WorkingHours db instructorId date (start % msPerDay) (stop % msPerDay)
  | weekly {row : InstructorWorkingHoursDefault}
      (usual : ∀ row ∈ db.workingHours.rows, (row.instructorId, row.date) ≠ (instructorId, date))
      (mem : row ∈ db.workingHoursDefault.rows)
      (key : (row.instructorId, row.dayOfWeek) = (instructorId, dayOfWeekOf date)) :
      WorkingHours db instructorId date (row.startTime % msPerDay) (row.endTime % msPerDay)

/-- The window from `s` to `e` lies in the working time of its day and meets no booking. -/
structure RespectsWorkingTime (zone : PolishZone) (db : Db) (instructorId : Uuid) (s e : Instant)
    (excludeEventId excludeLessonId : Option Uuid) (date : Day) : Prop where
  in_order : s < e
  same_day : (instantToPolishDateTime zone s).date = date ∧
    (instantToPolishDateTime zone e).date = date
  no_leave : ∀ l ∈ db.leaves.rows, l.instructorId = instructorId →
    ¬(l.startDate ≤ date ∧ date ≤ l.endDate)
  no_day_off : ∀ row ∈ db.workingHours.rows,
    (row.instructorId, row.date) = (instructorId, date) → row.isDayOff = false
  in_hours : ∃ start stop, WorkingHours db instructorId date start stop ∧ ∀ t, s ≤ t → t < e →
    date * msPerDay + start ≤ wall zone.offset t ∧ wall zone.offset t < date * msPerDay + stop
  not_booked : ∀ start stop, BooksInstructor db excludeEventId excludeLessonId instructorId start
    stop → ∀ t, s ≤ t → t < e → ¬(start ≤ t ∧ t < stop)

/-! ### What the minutes do not show -/

/-- The hours do not begin inside the first minute of the window nor end inside the minute of its
end; and where the clock is set back, it shows times of the hours right before and from then on. -/
structure HoursShown (zone : PolishZone) (date : Day) (start stop : ℤ) (s e : Instant) : Prop where
  first_minute : (instantToPolishDateTime zone s).minutes = start / msPerMinute →
    date * msPerDay + start ≤ wall zone.offset s
  last_minute : (instantToPolishDateTime zone e).minutes = stop / msPerMinute →
    wall zone.offset (e - 1) < date * msPerDay + stop
  set_back : ∀ c, s < c → c ≤ e → zone.offset c < zone.offset (c - 1) →
    wall zone.offset (c - 1) < date * msPerDay + stop ∧
      (c < e → date * msPerDay + start ≤ wall zone.offset c)

/-- A booking that meets the window, although in minutes it begins when the window has ended or has
ended when the window begins. -/
def HiddenBooking (zone : PolishZone) (day : ScheduleWindow) (s e start stop : Instant) : Prop :=
  (start < stop ∧ start < e ∧ s < stop) ∧
    (timeWindowFromDates zone start stop day).Avoids (instantToPolishDateTime zone s).minutes
      (instantToPolishDateTime zone e).minutes

structure NothingHidden (zone : PolishZone) (db : Db) (instructorId : Uuid) (s e : Instant)
    (excludeEventId excludeLessonId : Option Uuid) (date : Day) : Prop where
  hours : ∀ start stop, WorkingHours db instructorId date start stop →
    HoursShown zone date start stop s e
  bookings : ∀ day, polishDayBounds zone date = .ok day → ∀ start stop,
    BooksInstructor db excludeEventId excludeLessonId instructorId start stop →
      ¬HiddenBooking zone day s e start stop

section

variable {zone : PolishZone} {db : Db} {instructorId : Uuid} {date : Day} {day : ScheduleWindow}
  {start stop : ℤ} {s e : Instant} {excludeEventId excludeLessonId : Option Uuid}

/-! ### The rows of a day -/

theorem WorkingHours.unique {start' stop' : ℤ} (h : WorkingHours db instructorId date start stop)
    (h' : WorkingHours db instructorId date start' stop') : start = start' ∧ stop = stop' := by
  cases h with
  | exception hrow hkey _ hstart hstop =>
    cases h' with
    | exception hrow' hkey' _ hstart' hstop' =>
      obtain rfl := db.workingHours.key_inj hrow hrow' (hkey.trans hkey'.symm)
      cases hstart.symm.trans hstart'
      cases hstop.symm.trans hstop'
      exact ⟨rfl, rfl⟩
    | weekly husual => exact absurd hkey (husual _ hrow)
  | weekly husual hrow hkey =>
    cases h' with
    | exception hrow' hkey' => exact absurd hkey' (husual _ hrow')
    | weekly _ hrow' hkey' =>
      obtain rfl := db.workingHoursDefault.key_inj hrow hrow' (hkey.trans hkey'.symm)
      exact ⟨rfl, rfl⟩

theorem baseWindow_eq_some {base : TimeWindow}
    (h : baseWindow zone db instructorId (yyyymmddToDate date) = .ok (some base)) :
    (∀ row ∈ db.workingHours.rows, (row.instructorId, row.date) = (instructorId, date) →
      row.isDayOff = false) ∧
      ∃ start stop, WorkingHours db instructorId date start stop ∧
        base = ⟨start / msPerMinute, stop / msPerMinute⟩ := by
  rw [baseWindow, dateToYYYYMMDD_yyyymmddToDate] at h
  cases hfound : db.workingHours.findUnique (instructorId, date) with
  | some hours =>
    obtain ⟨hmem, hkey⟩ := (Table.findUnique_eq_some _ _ _).mp hfound
    rw [hfound] at h
    dsimp only at h
    split at h
    · cases h
    next hworks =>
    rw [Bool.not_eq_true] at hworks
    simp only [except_bind_eq_ok, orThrow_eq_ok, pure, Except.pure, Except.ok.injEq,
      Option.some.injEq] at h
    obtain ⟨start, hstart, stop, hstop, rfl⟩ := h
    refine ⟨fun row hrow hrowKey => ?_, _, _, .exception hmem hkey hworks hstart hstop, rfl⟩
    rw [db.workingHours.key_inj hrow hmem (hrowKey.trans hkey.symm)]
    exact hworks
  | none =>
    have husual (row : InstructorWorkingHours) (hrow : row ∈ db.workingHours.rows) :
        (row.instructorId, row.date) ≠ (instructorId, date) := fun hkey =>
      (Table.findUnique_eq_none _ _).mp hfound (List.mem_map.mpr ⟨row, hrow, hkey⟩)
    rw [hfound] at h
    simp only [(utcMidnight_clock zone date).2, pure, Except.pure, Except.ok.injEq,
      Option.map_eq_some_iff] at h
    obtain ⟨weekly, hweekly, rfl⟩ := h
    obtain ⟨hmem, hkey⟩ := (Table.findUnique_eq_some _ _ _).mp hweekly
    exact ⟨fun row hrow hrowKey => absurd hrowKey (husual row hrow), _, _,
      .weekly husual hmem hkey, rfl⟩

theorem fits_dayWindows {windows : List TimeWindow} {a b : ℤ}
    (h : computeDayWindows zone db instructorId (yyyymmddToDate date) excludeEventId
      excludeLessonId = .ok (some windows)) (hfits : Fits a b windows) :
    (∀ l ∈ db.leaves.rows, l.instructorId = instructorId →
      ¬(l.startDate ≤ date ∧ date ≤ l.endDate)) ∧
    (∀ row ∈ db.workingHours.rows, (row.instructorId, row.date) = (instructorId, date) →
      row.isDayOff = false) ∧
    (∃ start stop, WorkingHours db instructorId date start stop ∧ start / msPerMinute ≤ a ∧
      b ≤ stop / msPerMinute) ∧
    ∃ day, polishDayBounds zone date = .ok day ∧ ∀ start stop,
      BooksInstructor db excludeEventId excludeLessonId instructorId start stop →
        start < day.stop ∧ day.start < stop →
          (timeWindowFromDates zone start stop day).Avoids a b := by
  obtain ⟨hleave, base, day, used, hbase, hday, rfl, hused⟩ := computeDayWindows_eq_some h
  obtain ⟨hworks, start, stop, hhours, rfl⟩ := baseWindow_eq_some hbase
  obtain ⟨hfrom, hto, havoid⟩ := fits_subtractWindows hfits
  exact ⟨hleave, hworks, ⟨start, stop, hhours, hfrom, hto⟩, day, hday, fun start stop hbooks hcross =>
    havoid _ ((hused _).mpr ⟨start, stop, hbooks, hcross, rfl⟩)⟩

/-! ### Instants -/

/-- Of a window that fits in minutes, all times lie in the hours when these are not hidden. -/
theorem in_hours_iff {c : Instant} (hone : zone.OneChange date day c) (hs : day.start ≤ s)
    (hlt : s < e) (he : e < day.stop)
    (hfrom : start / msPerMinute ≤ (instantToPolishDateTime zone s).minutes)
    (hto : (instantToPolishDateTime zone e).minutes ≤ stop / msPerMinute) :
    (∀ t, s ≤ t → t < e → date * msPerDay + start ≤ wall zone.offset t ∧
      wall zone.offset t < date * msPerDay + stop) ↔ HoursShown zone date start stop s e := by
  refine ⟨fun hall => ⟨fun _ => (hall s le_rfl hlt).1, fun _ => ?_, fun c hsc hce _ => ⟨?_, ?_⟩⟩, ?_⟩
  · exact (hall (e - 1) (Int.le_sub_one_of_lt hlt) (Int.sub_one_lt_of_le le_rfl)).2
  · exact (hall (c - 1) (Int.le_sub_one_of_lt hsc) (Int.sub_one_lt_of_le hce)).2
  · exact fun hbefore => (hall c hsc.le hbefore).1
  · rintro ⟨hfirst, hlast, hback⟩
    refine (hone.change.wall_within_iff hs hlt he.le).mpr
      ⟨⟨?_, ?_⟩, fun c hsc hce hset => (hback c hsc hce.le hset).imp_right fun h => h hce⟩
    · rcases hfrom.eq_or_lt with heq | hafter
      · exact hfirst heq.symm
      · rw [hone.minutes_eq hs (hlt.trans he)] at hafter
        dsimp only [wall, Instant, Day, msPerDay, msPerMinute] at *
        omega
    · rcases hto.eq_or_lt with heq | hbefore
      · exact hlast heq
      · rw [hone.minutes_eq (hs.trans hlt.le) he] at hbefore
        have hend : wall zone.offset e < date * msPerDay + stop := by
          dsimp only [wall, Instant, Day, msPerDay, msPerMinute] at *
          omega
        rcases hone.change.wall_le_or_set_back (s := e - 1) (t := e) (hs.trans
          (Int.le_sub_one_of_lt hlt)) (Int.sub_le_self _ zero_le_one) he.le with
          hle | ⟨⟨hbeforeC, hce⟩, hset⟩
        · exact hle.trans_lt hend
        · obtain rfl : c = e := le_antisymm hce (Int.le_of_sub_one_lt hbeforeC)
          exact (hback c hlt le_rfl hset).1

theorem not_met_iff (hs : day.start ≤ s) (hlt : s < e) (he : e < day.stop)
    (havoid : start < day.stop ∧ day.start < stop →
      (timeWindowFromDates zone start stop day).Avoids (instantToPolishDateTime zone s).minutes
        (instantToPolishDateTime zone e).minutes) :
    (∀ t, s ≤ t → t < e → ¬(start ≤ t ∧ t < stop)) ↔ ¬HiddenBooking zone day s e start stop := by
  refine ⟨?_, fun hshown t hst hte ⟨hstart, hstop⟩ => hshown ⟨⟨?_, ?_, ?_⟩, havoid ⟨?_, ?_⟩⟩⟩
  · rintro hapart ⟨⟨hproper, hbefore, hafter⟩, -⟩
    exact hapart (max s start) (le_max_left _ _) (max_lt hlt hbefore)
      ⟨le_max_right _ _, max_lt hafter hproper⟩
  · exact hstart.trans_lt hstop
  · exact hstart.trans_lt hte
  · exact hst.trans_lt hstop
  · exact (hstart.trans_lt hte).trans he
  · exact (hs.trans hst).trans_lt hstop

/-! ### Days on which the clock keeps its offset -/

/-- Without a change of the clock a booking is hidden when it begins in the minute in which the
window ends, or ends in the minute in which the window begins. -/
theorem SteadyOn.hiddenBooking_iff (hsteady : zone.SteadyOn date)
    (hday : polishDayBounds zone date = .ok day) (hs : day.start ≤ s) (hlt : s < e)
    (he : e < day.stop) :
    HiddenBooking zone day s e start stop ↔ (start < stop ∧ start < e ∧ s < stop) ∧
      ((e - day.start) / msPerMinute = (max start day.start - day.start) / msPerMinute ∨
        (min stop day.stop - day.start) / msPerMinute = (s - day.start) / msPerMinute) := by
  refine and_congr_right fun ⟨_, hbefore, hafter⟩ => ?_
  rw [TimeWindow.Avoids, SteadyOn.block_eq hsteady hday ⟨hbefore.trans he, hs.trans_lt hafter⟩,
    SteadyOn.minutes hsteady hday hs (hlt.trans he),
    SteadyOn.minutes hsteady hday (hs.trans hlt.le) he]
  dsimp only [Instant, msPerMinute] at *
  omega

/-- Without a change of the clock the hours are hidden inside the first and the last minute only. -/
theorem SteadyOn.hoursShown_iff (hsteady : zone.SteadyOn date)
    (hday : polishDayBounds zone date = .ok day) (hs : day.start ≤ s) (hlt : s < e)
    (he : e < day.stop) :
    HoursShown zone date start stop s e ↔
      ((s - day.start) / msPerMinute = start / msPerMinute → start ≤ s - day.start) ∧
        ((e - day.start) / msPerMinute = stop / msPerMinute → e - day.start ≤ stop) := by
  obtain ⟨hmidnight, -, -⟩ := dayBounds_wall hday
  have hoffset (t : Instant) (hfrom : day.start ≤ t) (hto : t ≤ day.stop) :
      zone.offset t = zone.offset day.start := hsteady day hday t hfrom hto
  have hbefore : day.start ≤ e - 1 := hs.trans (Int.le_sub_one_of_lt hlt)
  have hfirst : date * msPerDay + start ≤ wall zone.offset s ↔ start ≤ s - day.start := by
    rw [wall, hoffset s hs (hlt.trans he).le]
    dsimp only [Instant, Day] at *
    omega
  have hlast : wall zone.offset (e - 1) < date * msPerDay + stop ↔ e - day.start ≤ stop := by
    rw [wall, hoffset (e - 1) hbefore ((Int.sub_le_self e zero_le_one).trans he.le)]
    dsimp only [Instant, Day] at *
    omega
  have hminutes := SteadyOn.minutes hsteady hday hs (hlt.trans he)
  have hminutes' := SteadyOn.minutes hsteady hday (hs.trans hlt.le) he
  refine ⟨fun hshown => ⟨?_, ?_⟩, fun hshown => ⟨?_, ?_, fun c hsc hce hset => ?_⟩⟩
  · exact fun hminute => hfirst.mp (hshown.first_minute (hminutes.trans hminute))
  · exact fun hminute => hlast.mp (hshown.last_minute (hminutes'.trans hminute))
  · exact fun hminute => hfirst.mpr (hshown.1 (hminutes.symm.trans hminute))
  · exact fun hminute => hlast.mpr (hshown.2 (hminutes'.symm.trans hminute))
  · rw [hoffset c (hs.trans hsc.le) (hce.trans he.le),
      hoffset (c - 1) (hs.trans (Int.le_sub_one_of_lt hsc))
        ((Int.sub_le_self c zero_le_one).trans (hce.trans he.le))] at hset
    exact absurd hset (lt_irrefl _)

/-- Without a change of the clock nothing is hidden when the window does not begin before the hours
in their first minute nor end after them in the minute of their end, and no booking that meets it
begins in the minute of its end or ends in that of its start. -/
theorem SteadyOn.nothingHidden_iff (hsteady : zone.SteadyOn date)
    (hday : polishDayBounds zone date = .ok day) (hs : day.start ≤ s) (hlt : s < e)
    (he : e < day.stop) :
    NothingHidden zone db instructorId s e excludeEventId excludeLessonId date ↔
      (∀ start stop, WorkingHours db instructorId date start stop →
        ((s - day.start) / msPerMinute = start / msPerMinute → start ≤ s - day.start) ∧
          ((e - day.start) / msPerMinute = stop / msPerMinute → e - day.start ≤ stop)) ∧
      ∀ start stop, BooksInstructor db excludeEventId excludeLessonId instructorId start stop →
        ¬((start < stop ∧ start < e ∧ s < stop) ∧
          ((e - day.start) / msPerMinute = (max start day.start - day.start) / msPerMinute ∨
            (min stop day.stop - day.start) / msPerMinute = (s - day.start) / msPerMinute)) := by
  refine ⟨fun hshown => ⟨fun start stop hhours => ?_, fun start stop hbooks => ?_⟩,
    fun ⟨hhours, hbookings⟩ => ⟨fun start stop hrow => ?_, fun day' hday' start stop hbooks => ?_⟩⟩
  · exact (SteadyOn.hoursShown_iff hsteady hday hs hlt he).mp (hshown.hours start stop hhours)
  · rw [← SteadyOn.hiddenBooking_iff hsteady hday hs hlt he]
    exact hshown.bookings day hday start stop hbooks
  · exact (SteadyOn.hoursShown_iff hsteady hday hs hlt he).mpr (hhours start stop hrow)
  · cases hday.symm.trans hday'
    rw [SteadyOn.hiddenBooking_iff hsteady hday hs hlt he]
    exact hbookings start stop hbooks

theorem nothingHidden_of_wholeMinutes (hsteady : zone.SteadyOn date)
    (hday : polishDayBounds zone date = .ok day) (hs : day.start ≤ s) (he : e < day.stop)
    (hwindow : WholeMinutes zone s e)
    (hhours : ∀ start stop, WorkingHours db instructorId date start stop →
      start % msPerMinute = 0 ∧ stop % msPerMinute = 0)
    (hbookings : ∀ start stop, BooksInstructor db excludeEventId excludeLessonId instructorId start
      stop → WholeMinutes zone start stop) :
    NothingHidden zone db instructorId s e excludeEventId excludeLessonId date := by
  have hlt := hwindow.in_order
  have hstart := SteadyOn.whole hsteady hday hs (hlt.trans he).le hwindow.start_whole
  have hstop := SteadyOn.whole hsteady hday (hs.trans hlt.le) he.le hwindow.stop_whole
  refine (SteadyOn.nothingHidden_iff hsteady hday hs hlt he).mpr ⟨fun start stop hrow => ?_, ?_⟩
  · obtain ⟨hfrom, hto⟩ := hhours start stop hrow
    dsimp only [Instant, msPerMinute] at *
    omega
  · rintro start stop hbooks ⟨⟨-, hbefore, hafter⟩, hminute⟩
    have hcross : start < day.stop ∧ day.start < stop := ⟨hbefore.trans he, hs.trans_lt hafter⟩
    obtain ⟨hbegin, hend⟩ := SteadyOn.block_ends hsteady hday (hbookings start stop hbooks) hcross
    rw [SteadyOn.block_eq hsteady hday hcross] at hbegin hend
    dsimp only [Instant, msPerMinute] at *
    omega

/-! ### Accepted windows -/

/-- An accepted window respects the working time of its day exactly when the minutes hide neither a
part of it outside the hours nor a booking. -/
theorem timeWindow_respects_iff (hzone : zone.Regular)
    (h : assertInstructorTimeWindowAvailable zone db instructorId s e excludeEventId
      excludeLessonId = .ok ()) :
    RespectsWorkingTime zone db instructorId s e excludeEventId excludeLessonId
        (instantToPolishDateTime zone s).date ↔
      NothingHidden zone db instructorId s e excludeEventId excludeLessonId
        (instantToPolishDateTime zone s).date := by
  obtain ⟨hlt, hdate, windows, hrun, hfits⟩ := timeWindow_eq_ok.mp h
  obtain ⟨hleave, hworks, ⟨start, stop, hhours, hfrom, hto⟩, day, hday, havoid⟩ :=
    fits_dayWindows hrun hfits
  obtain ⟨hs, -⟩ := (hzone.date_eq_iff hday).mp rfl
  obtain ⟨-, he⟩ := (hzone.date_eq_iff hday).mp hdate.symm
  obtain ⟨day', c, hone⟩ := hzone.day (instantToPolishDateTime zone s).date
  cases hone.bounds.symm.trans hday
  have hin := in_hours_iff hone hs hlt he hfrom hto
  refine ⟨fun hrespects => ⟨fun start' stop' hhours' => ?_, fun day' hday' start' stop' hbooks => ?_⟩,
    fun hshown => ⟨hlt, ⟨rfl, hdate.symm⟩, hleave, hworks, ?_, fun start' stop' hbooks => ?_⟩⟩
  · obtain ⟨start'', stop'', hhours'', hall⟩ := hrespects.in_hours
    obtain ⟨rfl, rfl⟩ := hhours.unique hhours'
    obtain ⟨rfl, rfl⟩ := hhours.unique hhours''
    exact hin.mp hall
  · cases hday.symm.trans hday'
    exact (not_met_iff hs hlt he (havoid start' stop' hbooks)).mp
      (hrespects.not_booked start' stop' hbooks)
  · exact ⟨start, stop, hhours, hin.mpr (hshown.hours start stop hhours)⟩
  · exact (not_met_iff hs hlt he (havoid start' stop' hbooks)).mpr
      (hshown.bookings day hday start' stop' hbooks)

end

namespace SmallSchool

theorem zone_regular : zone.Regular where
  day _ := ⟨_, _, SteadyOn.oneChange (fun _ _ _ _ _ => rfl) rfl⟩

theorem tuesdayHours : WorkingHours withTuesdayEvent 20 5 28800000 64800000 :=
  @WorkingHours.weekly withTuesdayEvent 20 5 ⟨20, 2, 28800000, 64800000⟩
    (fun _ h => absurd h List.not_mem_nil)
    (List.mem_append_left _ (List.mem_cons_of_mem _ List.mem_cons_self)) rfl

theorem tuesdayBooking {start stop : Instant}
    (h : BooksInstructor withTuesdayEvent none none 20 start stop) :
    start = clock 5 10 0 ∧ stop = clock 5 11 0 := by
  cases h with
  | timeBlock hmem => exact absurd hmem List.not_mem_nil
  | lesson hmem => exact absurd hmem List.not_mem_nil
  | event hmem =>
    rcases List.mem_singleton.mp hmem with rfl
    exact ⟨rfl, rfl⟩

end SmallSchool

open SmallSchool in
/-- The hour before the drive is accepted, and is free working time. -/
theorem timeWindow_respects_iff_beforeDrive :
    RespectsWorkingTime zone withTuesdayEvent 20 (clock 5 9 0) (clock 5 10 0) none none 5 := by
  refine (timeWindow_respects_iff zone_regular ?_).mpr ?_
  · rfl
  · refine nothingHidden_of_wholeMinutes (fun _ _ _ _ _ => rfl)
      (rfl : polishDayBounds zone 5 = .ok ⟨clock 5 0 0, clock 6 0 0⟩) (by decide) (by decide)
      ⟨by decide, by decide, by decide⟩ (fun start stop hhours => ?_) (fun start stop hbooks => ?_)
    · obtain ⟨rfl, rfl⟩ := tuesdayHours.unique hhours
      decide
    · obtain ⟨rfl, rfl⟩ := tuesdayBooking hbooks
      exact ⟨by decide, by decide, by decide⟩

open SmallSchool in
/-- Half a minute past the hours is accepted, and half a minute of the drive. -/
theorem timeWindow_hides_halfMinute :
    (assertInstructorTimeWindowAvailable zone withTuesdayEvent 20 (clock 5 17 0)
        (clock 5 18 0 + 30000) = .ok () ∧
      ¬RespectsWorkingTime zone withTuesdayEvent 20 (clock 5 17 0) (clock 5 18 0 + 30000) none
        none 5) ∧
    assertInstructorTimeWindowAvailable zone withTuesdayEvent 20 (clock 5 9 0)
        (clock 5 10 0 + 30000) = .ok () ∧
      ¬RespectsWorkingTime zone withTuesdayEvent 20 (clock 5 9 0) (clock 5 10 0 + 30000) none
        none 5 := by
  refine ⟨⟨rfl, fun h => ?_⟩, rfl, fun h => ?_⟩
  · obtain ⟨start, stop, hhours, hall⟩ := h.in_hours
    obtain ⟨rfl, rfl⟩ := tuesdayHours.unique hhours
    exact absurd (hall (clock 5 18 0) (by decide) (by decide)).2 (by decide)
  · exact h.not_booked _ _ (.event (List.mem_singleton_self tuesdayEvent) rfl rfl (by decide)
      (by decide)) (clock 5 10 0) (by decide) (by decide) (by decide)

end OSK
