import OskManager.Model.BusyLessons
import OskManager.Schedule.BookedMinutes
import OskManager.Schedule.LessonPreflight
import OskManager.Schedule.PolishDays

/-! The busy intervals of a student. Splitting a lesson at midnights and at the change of the clock
leaves segments in which the minutes run on, so a slot overlaps one of them exactly when the clock
shows one of its minutes during the lesson. -/

namespace OSK

open Relational WallClock SchoolAvailability

/-- The clock of the day is changed at a whole minute and by whole minutes. -/
structure PolishZone.WholeDay (zone : PolishZone) (date : Day) (day : ScheduleWindow) (c : Instant) :
    Prop extends zone.OneChange date day c where
  change_whole : (c - day.start) % msPerMinute = 0
  jump_whole : (zone.offset day.stop - zone.offset day.start) % msPerMinute = 0

structure PolishZone.RegularMinutes (zone : PolishZone) : Prop where
  day : ∀ date, ∃ day c, zone.WholeDay date day c

theorem PolishZone.RegularMinutes.regular {zone : PolishZone} (h : zone.RegularMinutes) :
    zone.Regular where
  day date := by
    obtain ⟨day, c, hday⟩ := h.day date
    exact ⟨day, c, hday.toOneChange⟩

/-- Between `start` and `stop` the clock shows a minute of the slot of the date. -/
def ShowsSlot (zone : PolishZone) (d : Day) (a b : ℤ) (start stop : Instant) : Prop :=
  ∃ t, (start ≤ t ∧ t < stop) ∧ (instantToPolishDateTime zone t).date = d ∧
    a ≤ (instantToPolishDateTime zone t).minutes ∧ (instantToPolishDateTime zone t).minutes < b

def Blocks (busy : List BusyInterval) (d : Day) (a b : ℤ) : Prop :=
  ∃ i ∈ busy, slotOverlapsLesson d a b i.date i.startMin i.endMin = true

section

variable {zone : PolishZone} {date dateFrom dateTo d : Day} {day : ScheduleWindow}
  {start stop c t : Instant} {a b : ℤ} {busy : List BusyInterval}

theorem not_showsSlot (h : stop ≤ start) : ¬ShowsSlot zone d a b start stop := by
  rintro ⟨t, ⟨hfrom, hto⟩, -⟩
  exact absurd (lt_of_le_of_lt hfrom hto) (not_lt.mpr h)

theorem showsSlot_split {middle : Instant} (hfrom : start ≤ middle) (hto : middle ≤ stop) :
    ShowsSlot zone d a b start stop ↔
      ShowsSlot zone d a b start middle ∨ ShowsSlot zone d a b middle stop := by
  refine ⟨?_, ?_⟩
  · rintro ⟨t, ⟨hs, he⟩, hshown⟩
    rcases lt_or_ge t middle with hbefore | hafter
    · exact Or.inl ⟨t, ⟨hs, hbefore⟩, hshown⟩
    · exact Or.inr ⟨t, ⟨hafter, he⟩, hshown⟩
  · rintro (⟨t, ⟨hs, he⟩, hshown⟩ | ⟨t, ⟨hs, he⟩, hshown⟩)
    · exact ⟨t, ⟨hs, he.trans_le hto⟩, hshown⟩
    · exact ⟨t, ⟨hfrom.trans hs, he⟩, hshown⟩

theorem blocks_append {i : BusyInterval} : Blocks (busy ++ [i]) d a b ↔
    Blocks busy d a b ∨ slotOverlapsLesson d a b i.date i.startMin i.endMin = true := by
  simp only [Blocks, List.mem_append, List.mem_singleton, or_and_right, exists_or, exists_eq_left]

theorem slotOverlaps_iff {fromMin toMin : ℤ} :
    slotOverlapsLesson d a b date fromMin (toMin : ℚ) = true ↔
      d = date ∧ fromMin < b ∧ a < toMin := by
  unfold slotOverlapsLesson
  split
  · next hne => simp [hne]
  · next heq =>
    rw [not_not] at heq
    simp only [heq, ge_iff_le, Rat.intCast_le_intCast, Bool.decide_or, Bool.not_or,
      Bool.and_eq_true, Bool.not_eq_eq_eq_not, Bool.not_true, decide_eq_false_iff_not, not_le,
      true_and]

/-! ### The segments of a day -/

/-- A whole minute of the clock is a whole number of minutes from midnight. -/
theorem PolishZone.WholeDay.whole (h : zone.WholeDay date day c) (hfrom : day.start ≤ t)
    (hto : t ≤ day.stop) (hwhole : (t + zone.offset t) % msPerMinute = 0) :
    (t - day.start) % msPerMinute = 0 := by
  have hwall := (dayBounds_wall h.bounds).1
  have hjump := h.jump_whole
  rcases lt_or_ge t c with hbefore | hafter
  · have hoffset := h.change.before t hfrom hbefore
    dsimp only [Instant, Day, msPerDay, msPerMinute] at *
    omega
  · have hoffset := h.change.after t hafter hto
    dsimp only [Instant, Day, msPerDay, msPerMinute] at *
    omega

/-- And the other way round. -/
theorem PolishZone.WholeDay.wall_whole (h : zone.WholeDay date day c) (hfrom : day.start ≤ t)
    (hto : t ≤ day.stop) (hwhole : (t - day.start) % msPerMinute = 0) :
    (t + zone.offset t - date * msPerDay) % msPerMinute = 0 := by
  have hwall := (dayBounds_wall h.bounds).1
  have hjump := h.jump_whole
  rcases lt_or_ge t c with hbefore | hafter
  · have hoffset := h.change.before t hfrom hbefore
    dsimp only [Instant, Day, msPerDay, msPerMinute] at *
    omega
  · have hoffset := h.change.after t hafter hto
    dsimp only [Instant, Day, msPerDay, msPerMinute] at *
    omega

theorem PolishZone.WholeDay.segment (h : zone.WholeDay date day c) (hfrom : day.start ≤ start)
    (hlt : start < stop) (hto : stop ≤ day.stop) (hwhole : (stop - day.start) % msPerMinute = 0) :
    (∀ t, start ≤ t → t < segmentEnd zone start stop → zone.offset t = zone.offset start) ∧
      (segmentEnd zone start stop - day.start) % msPerMinute = 0 := by
  unfold segmentEnd
  split
  · next hdiffer =>
    have hne : stop - 1 ≠ start := fun heq => hdiffer (congrArg zone.offset heq)
    have hnear (x y : ℤ) (h : x < y) (hne : y - 1 ≠ x) : x < y - 1 ∧ y - 1 ≤ y := by omega
    obtain ⟨hfar, hlast⟩ := hnear start stop hlt hne
    obtain ⟨hafter, hby⟩ := lt_bisect (fun t => zone.offset t = zone.offset start) hfar
    obtain ⟨hkept, hlost⟩ :=
      bisect_lost (fun t => zone.offset t = zone.offset start) hfar rfl hdiffer
    generalize bisect (fun t => zone.offset t = zone.offset start) start (stop - 1) = e at *
    obtain rfl : e = c := h.change.eq_of_lost (hfrom.trans_lt hafter)
      ((hby.trans hlast).trans hto) (hkept ▸ hlost)
    refine ⟨fun t hs he => ?_, h.change_whole⟩
    rw [h.change.before t (hfrom.trans hs) he, h.change.before start hfrom hafter]
  · next hsame =>
    rw [not_not] at hsame
    refine ⟨fun t hs he => ?_, hwhole⟩
    have hlast (x y : ℤ) (h : x < y) : x ≤ y - 1 ∧ y - 1 ≤ y := by omega
    obtain ⟨hle, hle'⟩ := hlast t stop he
    rcases lt_or_ge t c with hbefore | hafter
    · rw [h.change.before t (hfrom.trans hs) hbefore,
        h.change.before start hfrom (hs.trans_lt hbefore)]
    · rw [h.change.after t hafter (he.le.trans hto), ← hsame,
        h.change.after (stop - 1) (hafter.trans hle) (hle'.trans hto)]

/-- A slot overlaps a segment when the clock shows one of its minutes in it. -/
theorem PolishZone.WholeDay.overlaps_iff (h : zone.WholeDay date day c) (hab : a < b)
    (hfrom : day.start ≤ start) (hlt : start < stop) (hto : stop ≤ day.stop)
    (hstart : (start - day.start) % msPerMinute = 0) (hstop : (stop - day.start) % msPerMinute = 0)
    (hoffset : ∀ t, start ≤ t → t < stop → zone.offset t = zone.offset start) :
    slotOverlapsLesson d a b date (instantToPolishDateTime zone start).minutes
        ((instantToPolishDateTime zone start).minutes + (stop - start : ℤ) / (60000 : ℚ)) = true ↔
      ShowsSlot zone d a b start stop := by
  obtain ⟨n, hn⟩ : ∃ n, stop - start = n * 60000 := by
    refine ⟨(stop - start) / 60000, ?_⟩
    dsimp only [Instant, msPerMinute] at *
    omega
  have hminutes (t : Instant) (hs : start ≤ t) (he : t < stop) :
      (instantToPolishDateTime zone t).minutes =
        (instantToPolishDateTime zone start).minutes + (t - start) / msPerMinute := by
    rw [h.minutes_eq (hfrom.trans hs) (he.trans_le hto), h.minutes_eq hfrom (hlt.trans_le hto),
      hoffset t hs he]
    have hwall := h.wall_whole hfrom (hlt.le.trans hto) hstart
    dsimp only [Instant, Day, msPerDay, msPerMinute] at *
    omega
  have hend : ((instantToPolishDateTime zone start).minutes : ℚ) +
      (stop - start : ℤ) / (60000 : ℚ) = ((instantToPolishDateTime zone start).minutes + n : ℤ) := by
    rw [hn]
    push_cast
    rw [mul_div_cancel_right₀ _ (by decide)]
  rw [hend, slotOverlaps_iff]
  generalize (instantToPolishDateTime zone start).minutes = m at *
  refine ⟨?_, ?_⟩
  · rintro ⟨rfl, hb, ha⟩
    have hin : start ≤ start + (max a m - m) * msPerMinute ∧
        start + (max a m - m) * msPerMinute < stop := by
      dsimp only [Instant, msPerMinute] at *
      omega
    have hshown := hminutes _ hin.1 hin.2
    rw [add_sub_cancel_left, Int.mul_ediv_cancel _ (by decide)] at hshown
    refine ⟨_, hin, h.date_eq (hfrom.trans hin.1) (hin.2.trans_le hto), ?_⟩
    omega
  · rintro ⟨t, ⟨hs, he⟩, rfl, hta, htb⟩
    rw [hminutes t hs he] at hta htb
    refine ⟨h.date_eq (hfrom.trans hs) (he.trans_le hto), ?_⟩
    dsimp only [Instant, msPerMinute] at *
    omega

theorem PolishZone.WholeDay.appendBusy (h : zone.WholeDay date day c) (hab : a < b)
    (hfrom : day.start ≤ start) (hto : stop ≤ day.stop)
    (hstart : (start - day.start) % msPerMinute = 0)
    (hstop : (stop - day.start) % msPerMinute = 0) :
    Blocks (appendBusyOnPolishDay zone busy date start stop) d a b ↔
      Blocks busy d a b ∨ ShowsSlot zone d a b start stop := by
  fun_induction appendBusyOnPolishDay zone busy date start stop with
  | case1 busy start hlt startMin endMin ih =>
    obtain ⟨hafter, hby⟩ := lt_segmentEnd zone hlt
    obtain ⟨hoffset, hwhole⟩ := h.segment hfrom hlt hto hstop
    rw [ih (hfrom.trans hafter.le) hwhole, blocks_append, showsSlot_split hafter.le hby, or_assoc]
    refine or_congr Iff.rfl (or_congr ?_ Iff.rfl)
    exact h.overlaps_iff hab hfrom hafter (hby.trans hto) hstart hwhole hoffset
  | case2 busy start hle =>
    simp only [not_showsSlot (not_lt.mp hle), or_false]

/-! ### The days of a lesson -/

theorem PolishZone.WholeDay.clipped (h : zone.WholeDay date day c)
    (hwhole : WholeMinutes zone start stop) (hlt : max start day.start < min stop day.stop) :
    (max start day.start - day.start) % msPerMinute = 0 ∧
      (min stop day.stop - day.start) % msPerMinute = 0 := by
  obtain ⟨hstart, hstop⟩ := max_lt_iff.mp (lt_min_iff.mp hlt).2
  obtain ⟨-, hstop'⟩ := max_lt_iff.mp (lt_min_iff.mp hlt).1
  refine ⟨?_, ?_⟩
  · rcases le_total start day.start with hle | hle
    · rw [max_eq_right hle, sub_self]
      rfl
    · rw [max_eq_left hle]
      exact h.whole hle hstart.le hwhole.start_whole
  · rcases le_total stop day.stop with hle | hle
    · rw [min_eq_left hle]
      exact h.whole hstop'.le hle hwhole.stop_whole
    · rw [min_eq_right hle]
      refine h.whole hstop.le le_rfl ?_
      rw [(dayBounds_wall h.bounds).2.1]
      dsimp only [Instant, Day, msPerDay, msPerMinute]
      omega

/-- The rest of a lesson from a midnight on splits at the next midnight. -/
theorem showsSlot_nextDay {midnight next last : Instant} (hlt : midnight < next)
    (hlast : next ≤ last) (hbegun : start < next) :
    ShowsSlot zone d a b (max start midnight) (min stop last) ↔
      ShowsSlot zone d a b (max start midnight) (min stop next) ∨
        ShowsSlot zone d a b (max start next) (min stop last) := by
  rw [max_eq_right hbegun.le]
  rcases le_total stop next with hle | hle
  · rw [min_eq_left hle, min_eq_left (hle.trans hlast)]
    simp only [not_showsSlot hle, or_false]
  · rw [min_eq_right hle]
    exact showsSlot_split (max_le hbegun.le hlt.le) (le_min hle hlast)

/-- The loop over the dates goes through the lesson from a midnight on. -/
theorem appendBusyLesson_blocks {lesson : Lesson} {midnight last : Instant}
    (hdays : ∀ date, dateFrom ≤ date → date ≤ dateTo → ∃ day c, zone.WholeDay date day c)
    (hwhole : WholeMinutes zone lesson.startTime lesson.endTime) (hfrom : dateFrom ≤ date)
    (hto : date ≤ dateTo + 1) (hmidnight : zone.toAbsolute (date * msPerDay) = some midnight)
    (hlast : zone.toAbsolute ((dateTo + 1) * msPerDay) = some last)
    (hbegun : ∀ day, polishDayBounds zone date = .ok day → lesson.startTime < day.stop) :
    ∃ busy', appendBusyLesson zone lesson dateTo busy date = .ok busy' ∧
      ∀ d a b, a < b → (Blocks busy' d a b ↔ Blocks busy d a b ∨
        ShowsSlot zone d a b (max lesson.startTime midnight) (min lesson.endTime last)) := by
  obtain ⟨n, hn⟩ : ∃ n : ℕ, dateTo + 1 - date = n := Int.eq_ofNat_of_zero_le (Int.sub_nonneg.mpr hto)
  induction n generalizing date midnight busy with
  | zero =>
    obtain rfl : date = dateTo + 1 := (Int.eq_of_sub_eq_zero hn).symm
    cases hmidnight.symm.trans hlast
    rw [appendBusyLesson, if_neg (not_le.mpr (Int.lt_add_one_of_le le_rfl))]
    refine ⟨busy, rfl, fun d a b _ => ?_⟩
    simp only [not_showsSlot ((min_le_right _ _).trans (le_max_right _ _)), or_false]
  | succ n ih =>
    have hle : date ≤ dateTo := by
      dsimp only [Day] at *
      omega
    obtain ⟨day, c, hday⟩ := hdays date hfrom hle
    obtain ⟨hstart, hstop⟩ := dayBounds_iff.mp hday.bounds
    cases hmidnight.symm.trans hstart
    have hlt := (dayBounds_wall hday.bounds).2.2
    have hnext : day.stop ≤ last := midnight_le hstop hlast (Int.add_le_add_right hle 1)
    have hbegun := hbegun day hday.bounds
    rw [appendBusyLesson, if_pos hle, hday.bounds]
    simp only [bind, Except.bind, pure, Except.pure]
    by_cases hover : max lesson.startTime day.start ≥ min lesson.endTime day.stop
    · rw [if_pos hover]
      have hpast : lesson.endTime ≤ day.start := by
        have horder := hwhole.in_order
        by_contra hlate
        exact absurd hover (not_le.mpr (lt_min (max_lt horder (not_le.mp hlate)) (max_lt hbegun hlt)))
      refine ⟨busy, rfl, fun d a b _ => ?_⟩
      simp only [not_showsSlot (((min_le_left _ _).trans hpast).trans (le_max_right _ _)), or_false]
    · have hbegun' (next : ScheduleWindow) (hnext : polishDayBounds zone (date + 1) = .ok next) :
          lesson.startTime < next.stop := by
        have hmeet := Option.some.inj (hstop.symm.trans (dayBounds_iff.mp hnext).1)
        exact hbegun.trans (hmeet ▸ (dayBounds_wall hnext).2.2)
      have hn' : dateTo + 1 - (date + 1) = n := by
        dsimp only [Day] at *
        omega
      obtain ⟨busy', hrun, hblocks⟩ :=
        ih (Int.le_add_one hfrom) (Int.add_le_add_right hle 1) hstop hbegun' hn'
      rw [if_neg hover, addDays_one]
      rw [ge_iff_le, not_le] at hover
      obtain ⟨hwholeStart, hwholeStop⟩ := hday.clipped hwhole hover
      refine ⟨busy', hrun, fun d a b hab => ?_⟩
      rw [hblocks d a b hab, hday.appendBusy hab (le_max_right _ _) (min_le_right _ _) hwholeStart
        hwholeStop, or_assoc, ← showsSlot_nextDay hlt hnext hbegun]

/-! ### All lessons of a student -/

section Range

variable {first last : ScheduleWindow}

/-- The loop for one lesson of the range starts on the date of its first instant there. -/
theorem appendBusyLesson_range {lesson : Lesson}
    (hdays : ∀ date, dateFrom ≤ date → date ≤ dateTo → ∃ day c, zone.WholeDay date day c)
    (hle : dateFrom ≤ dateTo) (hfirst : polishDayBounds zone dateFrom = .ok first)
    (hlast : polishDayBounds zone dateTo = .ok last)
    (hwhole : WholeMinutes zone lesson.startTime lesson.endTime)
    (hbefore : lesson.startTime < last.stop) (busy : List BusyInterval) :
    ∃ busy', appendBusyLesson zone lesson dateTo busy
        (instantToPolishDateTime zone (max lesson.startTime first.start)).date = .ok busy' ∧
      ∀ d a b, a < b → (Blocks busy' d a b ↔ Blocks busy d a b ∨
        ShowsSlot zone d a b (max lesson.startTime first.start) (min lesson.endTime last.stop)) := by
  have hfirst' := (dayBounds_iff.mp hfirst).1
  have hlast' := (dayBounds_iff.mp hlast).2
  have hrange := midnight_lt hfirst' hlast' (Int.lt_add_one_of_le hle)
  obtain ⟨date, day, hge, hle', hday, hfrom, hto⟩ := exists_day_of_range
    (fun date hge hle => (hdays date hge hle).imp fun _ ⟨_, h⟩ => h.bounds) hle hfirst hlast
    (le_max_right lesson.startTime first.start) (max_lt hbefore hrange)
  obtain ⟨_, c, hone⟩ := hdays date hge hle'
  cases hone.bounds.symm.trans hday
  have hmidnight := (dayBounds_iff.mp hday).1
  have hstart := midnight_le hfirst' hmidnight hge
  have hclip : max lesson.startTime day.start = max lesson.startTime first.start :=
    le_antisymm (max_le (le_max_left _ _) hfrom) (max_le_max_left _ hstart)
  have hbegun (day' : ScheduleWindow) (hday' : polishDayBounds zone date = .ok day') :
      lesson.startTime < day'.stop := by
    cases hday.symm.trans hday'
    exact (le_max_left _ _).trans_lt hto
  rw [hone.date_eq hfrom hto, ← hclip]
  exact appendBusyLesson_blocks hdays hwhole hge (Int.le_add_one hle') hmidnight hlast' hbegun

theorem foldlM_appendBusy (lessons : List Lesson)
    (hdays : ∀ date, dateFrom ≤ date → date ≤ dateTo → ∃ day c, zone.WholeDay date day c)
    (hle : dateFrom ≤ dateTo) (hfirst : polishDayBounds zone dateFrom = .ok first)
    (hlast : polishDayBounds zone dateTo = .ok last)
    (hlessons : ∀ l ∈ lessons, WholeMinutes zone l.startTime l.endTime ∧ l.startTime < last.stop)
    (busy : List BusyInterval) :
    ∃ busy', lessons.foldlM (fun busy lesson => appendBusyLesson zone lesson dateTo busy
        (instantToPolishDateTime zone (max lesson.startTime first.start)).date) busy =
        .ok busy' ∧
      ∀ d a b, a < b → (Blocks busy' d a b ↔ Blocks busy d a b ∨ ∃ l ∈ lessons,
        ShowsSlot zone d a b (max l.startTime first.start) (min l.endTime last.stop)) := by
  induction lessons generalizing busy with
  | nil => exact ⟨busy, rfl, fun d a b _ => by simp⟩
  | cons lesson rest ih =>
    obtain ⟨⟨hwhole, hbefore⟩, hrest⟩ := List.forall_mem_cons.mp hlessons
    obtain ⟨middle, hrun, hmiddle⟩ :=
      appendBusyLesson_range hdays hle hfirst hlast hwhole hbefore busy
    obtain ⟨busy', hrun', hbusy'⟩ := ih hrest middle
    refine ⟨busy', ?_, fun d a b hab => ?_⟩
    · rw [List.foldlM_cons, hrun]
      exact hrun'
    · rw [hbusy' d a b hab, hmiddle d a b hab, or_assoc]
      simp only [List.exists_mem_cons_iff]

/-- The search returns, and its intervals are the parts of the lessons that lie in the range. -/
theorem loadStudentBusyIntervals_blocks {db : Db} {actor : Actor} {profile : StudentProfile}
    (hdays : ∀ date, dateFrom ≤ date → date ≤ dateTo → ∃ day c, zone.WholeDay date day c)
    (hle : dateFrom ≤ dateTo) (hfirst : polishDayBounds zone dateFrom = .ok first)
    (hlast : polishDayBounds zone dateTo = .ok last) (hrole : actor.role = .student)
    (hprofile : db.studentProfiles.findFirst (fun p => decide (p.userId = actor.id)) = some profile)
    (hwhole : ∀ l ∈ db.lessons.rows, l.studentId = profile.id →
      WholeMinutes zone l.startTime l.endTime) :
    ∃ busy, loadStudentBusyIntervals zone db actor dateFrom dateTo true = .ok busy ∧
      ∀ d a b, a < b → (Blocks busy d a b ↔ ∃ l ∈ db.lessons.rows,
        (l.studentId = profile.id ∧ l.status ≠ .cancelled) ∧
          ShowsSlot zone d a b (max l.startTime first.start) (min l.endTime last.stop)) := by
  obtain ⟨busy, hrun, hblocks⟩ := foldlM_appendBusy (db.lessons.findMany fun l =>
    decide (l.studentId = profile.id) && l.busyDuring first.start last.stop none) hdays hle hfirst
    hlast (by
      intro l hl
      simp only [Table.mem_findMany, Bool.and_eq_true, decide_eq_true_eq,
        Lesson.busyDuring_eq_true] at hl
      exact ⟨hwhole l hl.1 hl.2.1, hl.2.2.2.1.1⟩) []
  refine ⟨busy, ?_, fun d a b hab => (hblocks d a b hab).trans ?_⟩
  · rw [loadStudentBusyIntervals, if_neg (by simp [hrole]), hprofile]
    simp only [hfirst, hlast]
    exact hrun
  · simp only [Blocks, List.not_mem_nil, false_and, exists_false, false_or, Table.mem_findMany,
      Bool.and_eq_true, decide_eq_true_eq, Lesson.busyDuring_eq_true]
    refine ⟨?_, ?_⟩
    · rintro ⟨l, ⟨hl, hs, hlive, -⟩, hshown⟩
      exact ⟨l, hl, ⟨hs, hlive⟩, hshown⟩
    · rintro ⟨l, hl, ⟨hs, hlive⟩, hshown⟩
      obtain ⟨t, ⟨hfrom, hto⟩, -⟩ := id hshown
      have hin := max_lt_iff.mp (lt_min_iff.mp (hfrom.trans_lt hto)).2
      have hin' := max_lt_iff.mp (lt_min_iff.mp (hfrom.trans_lt hto)).1
      exact ⟨l, ⟨hl, hs, hlive, ⟨hin.1, hin'.2⟩, (Option.some_ne_none _).symm⟩, hshown⟩

end Range

/-- The busy intervals of a student cover exactly the minutes that the clock shows during the
lessons, whatever changes of the clock lie between. -/
theorem busyIntervals_exact {db : Db} {actor : Actor} {profile : StudentProfile}
    (hzone : zone.RegularMinutes) (hrole : actor.role = .student)
    (hprofile : db.studentProfiles.findFirst (fun p => decide (p.userId = actor.id)) = some profile)
    (hwhole : ∀ l ∈ db.lessons.rows, l.studentId = profile.id →
      WholeMinutes zone l.startTime l.endTime) (hle : dateFrom ≤ dateTo) :
    ∃ busy, loadStudentBusyIntervals zone db actor dateFrom dateTo true = .ok busy ∧
      ∀ d, dateFrom ≤ d → d ≤ dateTo → ∀ a b, a < b →
        ((∃ i ∈ busy, slotOverlapsLesson d a b i.date i.startMin i.endMin = true) ↔
          ∃ l ∈ db.lessons.rows, (l.studentId = profile.id ∧ l.status ≠ .cancelled) ∧
            ShowsSlot zone d a b l.startTime l.endTime) := by
  obtain ⟨first, _, hfirst⟩ := hzone.day dateFrom
  obtain ⟨last, _, hlast⟩ := hzone.day dateTo
  obtain ⟨busy, hrun, hblocks⟩ := loadStudentBusyIntervals_blocks (fun date _ _ => hzone.day date)
    hle hfirst.bounds hlast.bounds hrole hprofile hwhole
  refine ⟨busy, hrun, fun d hfrom hto a b hab => (hblocks d a b hab).trans ?_⟩
  refine exists_congr fun l => and_congr_right fun _ => and_congr_right fun _ => ?_
  obtain ⟨day, _, hday⟩ := hzone.day d
  have hday' := dayBounds_iff.mp hday.bounds
  have hstart := midnight_le (dayBounds_iff.mp hfirst.bounds).1 hday'.1 hfrom
  have hstop := midnight_le hday'.2 (dayBounds_iff.mp hlast.bounds).2 (Int.add_le_add_right hto 1)
  -- the instants at which the clock shows the date lie in the range
  refine ⟨?_, ?_⟩
  · rintro ⟨t, ⟨hs, he⟩, hshown⟩
    exact ⟨t, ⟨(le_max_left _ _).trans hs, he.trans_le (min_le_left _ _)⟩, hshown⟩
  · rintro ⟨t, ⟨hs, he⟩, hdate, hshown⟩
    obtain ⟨hin, hin'⟩ := (hzone.regular.date_eq_iff hday.bounds).mp hdate
    exact ⟨t, ⟨max_le hs (hstart.trans hin), lt_min he (hin'.trans_le hstop)⟩, hdate, hshown⟩

end

namespace SmallSchool

/-- The clocks are put forward from two to three on Tuesday. -/
def springZone : PolishZone :=
  .changed (5 * msPerDay + 3600000) 3600000 7200000 oneHour_inDay twoHours_inDay

def springMidnight (date : Day) : Instant :=
  date * msPerDay - if date ≤ 5 then 3600000 else 7200000

theorem springZone_midnight (date : Day) :
    springZone.toAbsolute (date * msPerDay) = some (springMidnight date) := by
  refine springZone.toAbsolute_complete _ _ ?_ fun t ht => ?_
  · dsimp only [springMidnight, springZone, PolishZone.changed, Day, Instant, msPerDay]
    split_ifs <;> omega
  · dsimp only [springMidnight, springZone, PolishZone.changed, Day, Instant, msPerDay] at ht ⊢
    split_ifs at * <;> omega

/-- The change of the day, or its end. -/
def springChange (date : Day) : Instant :=
  if date = 5 then 5 * msPerDay + 3600000 else springMidnight (date + 1)

theorem springZone_regular : springZone.RegularMinutes where
  day date := by
    refine ⟨⟨springMidnight date, springMidnight (date + 1)⟩, springChange date,
      ⟨dayBounds_iff.mpr ⟨springZone_midnight date, springZone_midnight (date + 1)⟩, ?_⟩, ?_, ?_⟩
    · constructor <;> dsimp only [springChange, springMidnight, springZone, PolishZone.changed, Day,
        Instant, msPerDay]
      · split_ifs <;> omega
      · split_ifs <;> omega
      · intro t hfrom hto
        split_ifs at * <;> omega
      · intro t hfrom hto
        split_ifs at * <;> omega
    · dsimp only [springChange, springMidnight, Day, Instant, msPerDay, msPerMinute]
      split_ifs <;> omega
    · dsimp only [springMidnight, springZone, PolishZone.changed, Day, Instant, msPerDay,
        msPerMinute]
      split_ifs <;> omega

/-- A lesson from half past one to half past three by the clock, an hour in fact. -/
def springLesson : Lesson :=
  { tuesdayLesson .practice with
    startTime := clock 5 1 30, endTime := clock 5 2 30, start_before_end := by decide }

end SmallSchool

open SmallSchool in
/-- In the night of the change the minutes from two to three are not busy. -/
theorem busyIntervals_exact_springNight :
    ∃ busy, loadStudentBusyIntervals springZone (SmallSchool.db ⟨[springLesson],
        List.nodup_singleton _⟩) student 4 6 true = .ok busy ∧
      ∀ d, 4 ≤ d → d ≤ 6 → ∀ a b, a < b →
        ((∃ i ∈ busy, slotOverlapsLesson d a b i.date i.startMin i.endMin = true) ↔
          ∃ l ∈ [springLesson], (l.studentId = 30 ∧ l.status ≠ .cancelled) ∧
            ShowsSlot springZone d a b l.startTime l.endTime) :=
  busyIntervals_exact springZone_regular rfl
    (rfl : (SmallSchool.db _).studentProfiles.findFirst _ = some ⟨30, 3, none, 0⟩)
    (fun l hl _ => by
      rcases List.mem_singleton.mp hl with rfl
      exact ⟨by decide, by decide, by decide⟩) (by decide)

end OSK
