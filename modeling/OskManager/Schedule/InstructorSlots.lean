import OskManager.Lib.Loops
import OskManager.Model.SchoolAvailability
import OskManager.Schedule.BookedMinutes

/-! The slots of an instructor. The free windows of a day lie apart when the bookings are intervals,
so the pieces they are cut into are all different. -/

namespace OSK

open Relational

/-- Also no time block ends before it starts. -/
structure WholeMinuteCalendar (zone : PolishZone) (db : Db) : Prop
    extends WholeMinuteBookings zone db where
  timeBlocks : ∀ b ∈ db.timeBlocks.rows, b.startTime < b.endTime

/-- The clock is not changed on the days from `dateFrom` to `dateTo`. -/
def SteadyDays (zone : PolishZone) (dateFrom dateTo : Day) : Prop :=
  ∀ date, dateFrom ≤ date → date ≤ dateTo →
    zone.SteadyOn date ∧ ∃ day, polishDayBounds zone date = .ok day

/-- One of the consecutive pieces of a free window of the instructor. -/
def IsPiece (zone : PolishZone) (db : Db) (instructorId : Uuid) (duration : ℤ) (slot : SlotDto) :
    Prop :=
  ∃ windows, computeDayWindows zone db instructorId (yyyymmddToDate slot.date) =
      .ok (some windows) ∧
    ∃ w ∈ windows, ∃ k : ℕ, slot.startTime = w.start + k * duration ∧
      slot.endTime = slot.startTime + duration ∧ slot.endTime ≤ w.stop

/-! ### Windows that lie apart -/

def WindowsApart (windows : List TimeWindow) : Prop :=
  windows.Pairwise fun w w' => w.stop ≤ w'.start

theorem windowsApart_subtractFrom {base : TimeWindow} {blocks : List TimeWindow} {cursor : ℤ}
    (hsorted : blocks.Pairwise fun x y => x.start ≤ y.start) (hbase : base.start ≤ cursor)
    (hproper : ∀ block ∈ blocks, block.start ≤ block.stop) :
    WindowsApart (subtractFrom base cursor blocks) := by
  refine pairwise_subtractFrom hsorted hbase fun block hblock hlt w w' hstop hstart => ?_
  have hle := hproper block hblock
  omega

section Day

variable {zone : PolishZone} {db : Db} {instructorId : Uuid} {date : Day} {day : ScheduleWindow}
  {duration : ℤ}

theorem dayWindows_apart (hsteady : zone.SteadyOn date) (hday : polishDayBounds zone date = .ok day)
    (hwhole : WholeMinuteCalendar zone db) {windows : List TimeWindow}
    (h : computeDayWindows zone db instructorId (yyyymmddToDate date) = .ok (some windows)) :
    WindowsApart windows ∧ ∀ w ∈ windows, w.start < w.stop := by
  obtain ⟨-, base, day', used, -, hday', rfl, hused⟩ := computeDayWindows_eq_some h
  cases hday.symm.trans hday'
  have hsorted := List.pairwise_insertionSort (fun x y : TimeWindow => x.start ≤ y.start)
  refine ⟨windowsApart_subtractFrom (hsorted _) le_rfl fun block hblock => ?_,
    fun w hw => (mem_subtractFrom (hsorted _) le_rfl hw).not_empty⟩
  obtain ⟨start, stop, hbooks, hcross, rfl⟩ := (hused block).mp ((List.mem_insertionSort _).mp hblock)
  refine SteadyOn.block_le hsteady hday ?_ hcross
  cases hbooks with
  | timeBlock hb => exact hwhole.timeBlocks _ hb
  | lesson hl => exact (hwhole.lessons _ hl).in_order
  | event he => exact (hwhole.events _ he).in_order

/-! ### Pieces -/

theorem nodup_stepsUpTo {lo hi step : ℤ} (hstep : 0 < step) : (stepsUpTo lo hi step).Nodup := by
  refine List.nodup_range.map fun j k hjk => ?_
  have hmul : (j : ℤ) * step = k * step := by omega
  exact Int.ofNat_inj.mp (Int.eq_of_mul_eq_mul_right hstep.ne' hmul)

/-- The split of a window that is not empty returns for a positive duration only. -/
theorem splitWindow_spec {w : TimeWindow} (hw : w.start < w.stop) {slots : List TimeWindow}
    (h : splitWindowIntoSlots w duration = .ok slots) :
    0 < duration ∧ slots.Nodup ∧ ∀ slot, slot ∈ slots ↔
      ∃ k : ℕ, slot.start = w.start + k * duration ∧ slot.stop = slot.start + duration ∧
        slot.stop ≤ w.stop := by
  simp only [splitWindowIntoSlots, except_bind_eq_ok, throwIf_eq_ok, pure, Except.pure,
    Except.ok.injEq] at h
  obtain ⟨-, hends, rfl⟩ := h
  have hpos : 0 < duration := by
    by_contra hneg
    exact hends ⟨not_lt.mp hneg, by omega⟩
  refine ⟨hpos, (nodup_stepsUpTo hpos).map fun x y hxy => ?_, fun slot => ?_⟩
  · exact congrArg TimeWindow.start hxy
  · simp only [List.mem_map, mem_stepsUpTo_iff hpos]
    refine ⟨?_, ?_⟩
    · rintro ⟨_, ⟨⟨k, rfl⟩, hle⟩, rfl⟩
      exact ⟨k, rfl, rfl, Int.add_le_of_le_sub_right hle⟩
    · rintro ⟨k, hstart, hstop, hle⟩
      refine ⟨slot.start, ⟨⟨k, hstart⟩, by omega⟩, ?_⟩
      rw [← hstop]

/-- The slots of a date are the pieces of its free windows, each once. -/
theorem daySlots_spec (hsteady : zone.SteadyOn date) (hday : polishDayBounds zone date = .ok day)
    (hwhole : WholeMinuteCalendar zone db) {slots : List SlotDto}
    (h : daySlots zone db instructorId duration date = .ok slots) :
    slots.Nodup ∧ (∀ slot ∈ slots, slot.startTime < slot.endTime) ∧ ∀ slot, slot ∈ slots ↔
      slot.date = date ∧ IsPiece zone db instructorId duration slot := by
  simp only [daySlots, except_bind_eq_ok, dateToYYYYMMDD_yyyymmddToDate, pure, Except.pure,
    Except.ok.injEq] at h
  obtain ⟨free, hfree, pieces, hpieces, rfl⟩ := h
  cases free with
  | none =>
    obtain rfl := List.length_eq_zero_iff.mp (length_of_mapM_ok hpieces)
    refine ⟨List.nodup_nil, fun slot hslot => absurd hslot List.not_mem_nil,
      fun slot => ⟨fun hslot => absurd hslot List.not_mem_nil, ?_⟩⟩
    rintro ⟨rfl, windows, hwindows, -⟩
    cases hfree.symm.trans hwindows
  | some windows =>
    rw [Option.getD_some] at hpieces
    obtain ⟨hapart, hproper⟩ := dayWindows_apart hsteady hday hwhole hfree
    refine ⟨?_, fun slot hslot => ?_, fun slot => ?_⟩
    · refine List.Nodup.map (fun x y hxy => ?_) (nodup_flatten_of_mapM_ok hpieces hapart
        (fun w hw slots hslots => (splitWindow_spec (hproper w hw) hslots).2.1) ?_)
      · rw [SlotDto.mk.injEq] at hxy
        cases x
        cases y
        exact congrArg₂ TimeWindow.mk hxy.2.1 hxy.2.2
      · intro w hw w' hw' hlt slots slots' hslots hslots' x hx hx'
        -- a common piece would end by the one window and start in the other
        obtain ⟨hpos, -, hmem⟩ := splitWindow_spec (hproper w hw) hslots
        obtain ⟨-, -, hmem'⟩ := splitWindow_spec (hproper w' hw') hslots'
        obtain ⟨k, -, hstop, hle⟩ := (hmem x).mp hx
        obtain ⟨k', hstart', -, -⟩ := (hmem' x).mp hx'
        have hnonneg : 0 ≤ (k' : ℤ) * duration := Int.mul_nonneg (Int.natCast_nonneg k') hpos.le
        omega
    · obtain ⟨x, hx, rfl⟩ := List.mem_map.mp hslot
      obtain ⟨w, hw, slots, hslots, hx⟩ := (mem_flatten_of_mapM_ok hpieces).mp hx
      obtain ⟨hpos, -, hmem⟩ := splitWindow_spec (hproper w hw) hslots
      obtain ⟨-, -, hstop, -⟩ := (hmem x).mp hx
      exact hstop ▸ lt_add_of_pos_right _ hpos
    · rw [List.mem_map]
      refine ⟨?_, ?_⟩
      · rintro ⟨x, hx, rfl⟩
        obtain ⟨w, hw, slots, hslots, hx⟩ := (mem_flatten_of_mapM_ok hpieces).mp hx
        exact ⟨rfl, windows, hfree, w, hw, ((splitWindow_spec (hproper w hw) hslots).2.2 x).mp hx⟩
      · rintro ⟨rfl, windows', hfree', w, hw, hpiece⟩
        cases hfree.symm.trans hfree'
        obtain ⟨slots, -, hslots⟩ := exists_of_mapM_ok hpieces hw
        refine ⟨⟨slot.startTime, slot.endTime⟩,
          (mem_flatten_of_mapM_ok hpieces).mpr ⟨w, hw, slots, hslots, ?_⟩, rfl⟩
        exact ((splitWindow_spec (hproper w hw) hslots).2.2 _).mpr hpiece

theorem mem_stepsUpTo_days {dateFrom dateTo date : Day} :
    date ∈ stepsUpTo dateFrom dateTo 1 ↔ dateFrom ≤ date ∧ date ≤ dateTo := by
  rw [mem_stepsUpTo_iff one_pos, and_congr_left_iff]
  intro _
  refine ⟨?_, fun hle => ⟨(date - dateFrom).toNat, ?_⟩⟩
  · rintro ⟨k, rfl⟩
    dsimp only [Day]
    omega
  · dsimp only [Day] at *
    omega

theorem generateSlots_spec {dateFrom dateTo : Day}
    (hdays : SteadyDays zone dateFrom dateTo)
    (hwhole : WholeMinuteCalendar zone db) {slots : List SlotDto}
    (h : generateSlotsInternal zone db instructorId dateFrom dateTo duration = .ok slots) :
    slots.Nodup ∧ (∀ slot ∈ slots, slot.startTime < slot.endTime) ∧
      ∀ slot, slot ∈ slots ↔ (dateFrom ≤ slot.date ∧ slot.date ≤ dateTo) ∧
        IsPiece zone db instructorId duration slot := by
  simp only [generateSlotsInternal, except_bind_eq_ok, pure, Except.pure, Except.ok.injEq] at h
  obtain ⟨days, hrun, rfl⟩ := h
  have hspec (date : Day) (hdate : date ∈ stepsUpTo dateFrom dateTo 1) (slots : List SlotDto)
      (hslots : daySlots zone db instructorId duration date = .ok slots) :
      slots.Nodup ∧ (∀ slot ∈ slots, slot.startTime < slot.endTime) ∧
        ∀ slot, slot ∈ slots ↔ slot.date = date ∧ IsPiece zone db instructorId duration slot := by
    obtain ⟨hfrom, hto⟩ := mem_stepsUpTo_days.mp hdate
    obtain ⟨hsteady, day, hday⟩ := hdays date hfrom hto
    exact daySlots_spec hsteady hday hwhole hslots
  obtain ⟨hnodup, hmem⟩ := flatten_of_mapM_ok SlotDto.date hrun (nodup_stepsUpTo one_pos)
    fun date hdate slots hslots =>
      ⟨(hspec date hdate slots hslots).1, (hspec date hdate slots hslots).2.2⟩
  refine ⟨hnodup, fun slot hslot => ?_, fun slot => ?_⟩
  · obtain ⟨date, hdate, slots, hslots, hin⟩ := (mem_flatten_of_mapM_ok hrun).mp hslot
    exact (hspec date hdate slots hslots).2.1 slot hin
  · rw [hmem, mem_stepsUpTo_days]

end Day

end OSK
