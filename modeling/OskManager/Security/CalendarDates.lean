import Mathlib.Data.String.Basic
import OskManager.Lib.Numerals
import OskManager.Model.SecurityLogList

/-! The dates of the filters. As texts they are in the order of their days, a day has at most one of
them, and from any of them on up to the end of the year 9999 every day has one. -/

namespace OSK

open Numerals

/-! ### Months -/

/-- The first day of a month, with the months counted on from January of the year 0. -/
def monthAt (k : ℤ) : ℤ := monthStart (k / 12) (k % 12 + 1)

theorem monthStart_eq {year month : ℤ} (h : 1 ≤ month ∧ month ≤ 12) :
    monthStart year month = monthAt (12 * year + month - 1) := by
  have hyear : (12 * year + month - 1) / 12 = year := by omega
  have hmonth : (12 * year + month - 1) % 12 + 1 = month := by omega
  rw [monthAt, hyear, hmonth]

theorem nextMonth_eq (year month : ℤ) :
    monthStart (year + month / 12) (month % 12 + 1) = monthAt (12 * year + month) := by
  have hyear : (12 * year + month) / 12 = year + month / 12 := by omega
  have hmonth : (12 * year + month) % 12 = month % 12 := by omega
  rw [monthAt, hyear, hmonth]

/-- A month has 28 to 31 days. -/
theorem month_length (k : ℤ) : 28 ≤ monthAt (k + 1) - monthAt k ∧
    monthAt (k + 1) - monthAt k ≤ 31 := by
  obtain ⟨y, r, rfl, hr⟩ : ∃ y r, k = 12 * y + r ∧ 0 ≤ r ∧ r < 12 :=
    ⟨k / 12, k % 12, by omega, by omega, by omega⟩
  have hyear : (12 * y + r) / 12 = y := by omega
  have hmonth : (12 * y + r) % 12 = r := by omega
  have hyear' : (12 * y + r + 1) / 12 = if r = 11 then y + 1 else y := by split_ifs <;> omega
  have hmonth' : (12 * y + r + 1) % 12 = if r = 11 then 0 else r + 1 := by split_ifs <;> omega
  rw [monthAt, monthAt, hyear, hmonth, hyear', hmonth']
  obtain ⟨hlow, hhigh⟩ := hr
  dsimp only [monthStart, Day]
  split_ifs <;> interval_cases r <;> omega

theorem monthAt_strictMono : StrictMono monthAt :=
  strictMono_int_of_lt_succ fun k => by
    have hlength := (month_length k).1
    omega

/-! ### Dates -/

/-- The text is three numerals with dashes between them. -/
structure IsoText (text : String) (year month day : List Char) : Prop where
  toList_eq : text.toList = year ++ '-' :: (month ++ '-' :: day)
  year_length : year.length = 4
  month_length : month.length = 2
  day_length : day.length = 2
  year_digits : ∀ c ∈ year, c.isDigit = true
  month_digits : ∀ c ∈ month, c.isDigit = true
  day_digits : ∀ c ∈ day, c.isDigit = true

theorem isoDateParts_spec {text : String} {y m d : ℤ} (h : isoDateParts text = some (y, m, d)) :
    ∃ year month day, IsoText text year month day ∧
      y = value year ∧ m = value month ∧ d = value day := by
  rw [isoDateParts] at h
  split at h
  next y₁ y₂ y₃ y₄ m₁ m₂ d₁ d₂ htext =>
    split_ifs at h with hdigits
    obtain ⟨rfl, rfl, rfl⟩ := h
    simp only [List.all_cons, List.all_nil, Bool.and_true, Bool.and_eq_true] at hdigits
    refine ⟨[y₁, y₂, y₃, y₄], [m₁, m₂], [d₁, d₂], ⟨htext, rfl, rfl, rfl, ?_, ?_, ?_⟩, rfl, rfl, rfl⟩
    all_goals simp [hdigits]
  next => cases h

/-- The date as it is written. -/
def isoText (year month day : ℕ) : String :=
  String.ofList (write 4 year ++ '-' :: (write 2 month ++ '-' :: write 2 day))

theorem isoDateParts_isoText {year month day : ℕ} (hyear : year < 10000) (hmonth : month < 100)
    (hday : day < 100) :
    isoDateParts (isoText year month day) = some ((year : ℤ), (month : ℤ), (day : ℤ)) := by
  have hy : value (write 4 year) = year := (value_write 4 year).trans (Nat.mod_eq_of_lt hyear)
  have hm : value (write 2 month) = month := (value_write 2 month).trans (Nat.mod_eq_of_lt hmonth)
  have hd : value (write 2 day) = day := (value_write 2 day).trans (Nat.mod_eq_of_lt hday)
  have hall : ∀ c ∈ write 4 year ++ (write 2 month ++ write 2 day), c.isDigit = true := by
    intro c hc
    rcases List.mem_append.mp hc with hc | hc
    · exact write_digits c hc
    · exact (List.mem_append.mp hc).elim (write_digits c) (write_digits c)
  rw [isoDateParts, isoText, String.toList_ofList]
  exact (if_pos (List.all_eq_true.mpr hall)).trans
    (congrArg some (Prod.ext (congrArg Nat.cast hy)
      (Prod.ext (congrArg Nat.cast hm) (congrArg Nat.cast hd))))

theorem IsoText.lt {text text' : String} {y m d y' m' d' : List Char} (h : IsoText text y m d)
    (h' : IsoText text' y' m' d') (hlt : text < text') :
    value y < value y' ∨ value y = value y' ∧
      (value m < value m' ∨ value m = value m' ∧ value d < value d') := by
  have hyears := h.year_length.trans h'.year_length.symm
  have hmonths := h.month_length.trans h'.month_length.symm
  have hdays := h.day_length.trans h'.day_length.symm
  rw [String.lt_iff_toList_lt, h.toList_eq, h'.toList_eq] at hlt
  rcases lt_of_append_lt_append hyears hlt with hyear | ⟨rfl, hlater⟩
  · exact Or.inl (value_lt_value hyears h.year_digits h'.year_digits hyear)
  rw [List.cons_lt_cons_self] at hlater
  rcases lt_of_append_lt_append hmonths hlater with hmonth | ⟨rfl, hlast⟩
  · exact Or.inr ⟨rfl, Or.inl (value_lt_value hmonths h.month_digits h'.month_digits hmonth)⟩
  rw [List.cons_lt_cons_self] at hlast
  exact Or.inr ⟨rfl, Or.inr ⟨rfl, value_lt_value hdays h.day_digits h'.day_digits hlast⟩⟩

theorem parseIsoDate_eq_some {text : String} {day : Day} : parseIsoDate text = some day ↔
    ∃ y m d : ℤ, isoDateParts text = some (y, m, d) ∧ (1 ≤ m ∧ m ≤ 12) ∧ (1 ≤ d ∧ d ≤ 31) ∧
      day = monthAt (12 * y + m - 1) + d - 1 := by
  rw [parseIsoDate]
  refine Option.bind_eq_some_iff.trans ⟨?_, ?_⟩
  · rintro ⟨⟨y, m, d⟩, hparts, h⟩
    by_cases hrange : 1 ≤ m ∧ m ≤ 12 ∧ 1 ≤ d ∧ d ≤ 31
    · obtain ⟨hm, hm', hd⟩ := hrange
      simp only [guard, hm, hm', hd, and_self, if_true] at h
      refine ⟨y, m, d, hparts, ⟨hm, hm'⟩, hd, ?_⟩
      rw [← monthStart_eq ⟨hm, hm'⟩]
      exact (Option.some.inj h).symm
    · simp only [guard, if_neg hrange] at h
      cases h
  · rintro ⟨y, m, d, hparts, hm, hd, rfl⟩
    refine ⟨(y, m, d), hparts, ?_⟩
    simp only [guard, hm.1, hm.2, hd, and_self, if_true]
    rw [← monthStart_eq hm]
    rfl

/-- The text is the date of the day. -/
def IsDate (text : String) (day : Day) : Prop :=
  parseIsoDate text = some day ∧ isCalendarDate text = true

theorem isDate_iff {text : String} {day : Day} : IsDate text day ↔
    ∃ y m d : ℤ, isoDateParts text = some (y, m, d) ∧ (1 ≤ m ∧ m ≤ 12) ∧ 1 ≤ d ∧
      day = monthAt (12 * y + m - 1) + d - 1 ∧ day < monthAt (12 * y + m) := by
  have hcalendar {y m d : ℤ} (hparts : isoDateParts text = some (y, m, d)) (hm : 1 ≤ m ∧ m ≤ 12) :
      isCalendarDate text = true ↔
        monthAt (12 * y + m - 1) + d - 1 < monthAt (12 * y + m) := by
    rw [isCalendarDate, hparts, Option.any_some, decide_eq_true_eq, monthStart_eq hm,
      nextMonth_eq]
  rw [IsDate, parseIsoDate_eq_some]
  constructor
  · rintro ⟨⟨y, m, d, hparts, hm, hd, rfl⟩, htext⟩
    exact ⟨y, m, d, hparts, hm, hd.1, rfl, (hcalendar hparts hm).mp htext⟩
  · rintro ⟨y, m, d, hparts, hm, hd, rfl, hnext⟩
    have hlength := (month_length (12 * y + m - 1)).2
    rw [sub_add_cancel] at hlength
    have hlong : d ≤ 31 := by
      dsimp only [Day] at hnext
      omega
    exact ⟨⟨y, m, d, hparts, hm, ⟨hd, hlong⟩, rfl⟩, (hcalendar hparts hm).mpr hnext⟩

/-- A date that is before another as a text is the date of an earlier day. -/
theorem IsDate.lt {text text' : String} {day day' : Day} (h : IsDate text day)
    (h' : IsDate text' day') (hlt : text < text') : day < day' := by
  obtain ⟨y, m, d, hparts, hm, hd, rfl, hnext⟩ := isDate_iff.mp h
  obtain ⟨y', m', d', hparts', hm', hd', rfl, -⟩ := isDate_iff.mp h'
  obtain ⟨ys, ms, ds, htext, rfl, rfl, rfl⟩ := isoDateParts_spec hparts
  obtain ⟨ys', ms', ds', htext', rfl, rfl, rfl⟩ := isoDateParts_spec hparts'
  have horder := htext.lt htext' hlt
  rcases lt_or_ge (12 * (value ys : ℤ) + value ms) (12 * value ys' + value ms') with hmonth | hmonth
  · -- the month of the later date has not begun before the month of the earlier one has ended
    have hmono := monthAt_strictMono.monotone
      (show 12 * (value ys : ℤ) + value ms ≤ 12 * value ys' + value ms' - 1 by omega)
    dsimp only [Day] at *
    omega
  · have hyears : value ys = value ys' := by omega
    have hmonths : value ms = value ms' := by omega
    rw [hyears, hmonths]
    dsimp only [Day] at *
    omega

theorem IsDate.le_iff {text text' : String} {day day' : Day} (h : IsDate text day)
    (h' : IsDate text' day') : text ≤ text' ↔ day ≤ day' := by
  rcases lt_trichotomy text text' with hlt | rfl | hgt
  · exact iff_of_true hlt.le (h.lt h' hlt).le
  · exact iff_of_true le_rfl (Option.some.inj (h.1.symm.trans h'.1)).le
  · exact iff_of_false hgt.not_ge (h'.lt h hgt).not_ge

/-- A day has one date. -/
theorem IsDate.unique {text text' : String} {day : Day} (h : IsDate text day)
    (h' : IsDate text' day) : text = text' :=
  le_antisymm ((h.le_iff h').mpr le_rfl) ((h'.le_iff h).mpr le_rfl)

theorem isDate_isoText {y m d : ℕ} {day : ℤ} (hy : y < 10000) (hm : 1 ≤ m ∧ m ≤ 12) (hd : 1 ≤ d)
    (hday : day = monthAt (12 * y + m - 1) + d - 1) (hnext : day < monthAt (12 * y + m)) :
    IsDate (isoText y m d) day := by
  have hlength := (month_length (12 * y + m - 1)).2
  rw [sub_add_cancel] at hlength
  refine isDate_iff.mpr ⟨y, m, d, isoDateParts_isoText hy ?_ ?_, ?_, ?_, hday, hnext⟩ <;> omega

theorem isDate_last : IsDate "9999-12-31" lastIsoDay := ⟨by decide, by decide⟩

theorem monthAt_end : monthAt 120000 = lastIsoDay + 1 := by decide

theorem value_year_lt {text : String} {y m d : List Char} (h : IsoText text y m d) :
    value y < 10000 := by
  have hlt := value_lt h.year_digits
  rw [h.year_length] at hlt
  exact hlt

theorem IsDate.le_last {text : String} {day : Day} (h : IsDate text day) : day ≤ lastIsoDay := by
  obtain ⟨y, m, d, hparts, hm, hd, rfl, hnext⟩ := isDate_iff.mp h
  obtain ⟨ys, ms, ds, htext, rfl, rfl, rfl⟩ := isoDateParts_spec hparts
  have hyear := value_year_lt htext
  have hend := monthAt_strictMono.monotone
    (show 12 * (value ys : ℤ) + value ms ≤ 120000 by omega)
  rw [monthAt_end] at hend
  exact Int.le_of_lt_add_one (hnext.trans_le hend)

theorem monthAt_zero : monthAt 0 = firstIsoDay := by decide

theorem IsDate.first_le {text : String} {day : Day} (h : IsDate text day) : firstIsoDay ≤ day := by
  obtain ⟨y, m, d, hparts, hm, hd, rfl, -⟩ := isDate_iff.mp h
  obtain ⟨ys, ms, ds, -, rfl, rfl, rfl⟩ := isoDateParts_spec hparts
  have hstart := monthAt_strictMono.monotone (show 0 ≤ 12 * (value ys : ℤ) + value ms - 1 by omega)
  rw [monthAt_zero] at hstart
  dsimp only [Day] at *
  omega

/-- The language reads a date as the midnight that starts its day. -/
theorem IsDate.parseMidnight_eq {text : String} {day : Day} (h : IsDate text day)
    (node : NodeRuntime) : parseMidnight node text = some (day * msPerDay) := by
  obtain ⟨y, m, d, hparts, -⟩ := isDate_iff.mp h
  have hisSome : (isoDateParts text).isSome = true := by rw [hparts, Option.isSome_some]
  have hfound : [text, text ++ "-01", text ++ "-01-01"].find? (fun date =>
      (isoDateParts date).isSome) = some text := List.find?_cons_of_pos hisSome
  simp only [parseMidnight, hfound, h.1, Option.map_some]

/-- After every date but the last one there is the date of the next day. -/
theorem IsDate.exists_next {text : String} {day : ℤ} (h : IsDate text day)
    (hlast : day < lastIsoDay) : ∃ text', IsDate text' (day + 1) := by
  obtain ⟨y, m, d, hparts, hm, hd, hday, hnext⟩ := isDate_iff.mp h
  obtain ⟨ys, ms, ds, htext, rfl, rfl, rfl⟩ := isoDateParts_spec hparts
  have hyear := value_year_lt htext
  rcases lt_or_ge (day + 1) (monthAt (12 * value ys + value ms)) with hin | hout
  · have hday' : day + 1 = monthAt (12 * value ys + value ms - 1) + (value ds + 1 : ℕ) - 1 := by
      dsimp only [Day] at hday
      omega
    exact ⟨_, isDate_isoText hyear (by omega) (by omega) hday' hin⟩
  -- the first day of the next month
  have hstart : day + 1 = monthAt (12 * value ys + value ms) := by
    dsimp only [Day] at hnext
    omega
  have hlength := (month_length (12 * value ys + value ms)).1
  rcases lt_or_eq_of_le hm.2 with hm' | hm'
  · have hk : 12 * (value ys : ℤ) + (value ms + 1 : ℕ) - 1 = 12 * value ys + value ms := by omega
    have hk' : 12 * (value ys : ℤ) + (value ms + 1 : ℕ) = 12 * value ys + value ms + 1 := by omega
    refine ⟨isoText (value ys) (value ms + 1) 1,
      isDate_isoText hyear (by omega) le_rfl ?_ ?_⟩
    · rw [hk, hstart]
      exact (add_sub_cancel_right _ _).symm
    · rw [hk']
      omega
  · have hyear' : value ys + 1 < 10000 := by
      by_contra hlong
      have hk : 12 * (value ys : ℤ) + value ms = 120000 := by omega
      rw [hk, monthAt_end] at hstart
      exact hlast.ne (add_right_cancel hstart)
    have hk : 12 * ((value ys + 1 : ℕ) : ℤ) + (1 : ℕ) - 1 = 12 * value ys + value ms := by omega
    have hk' : 12 * ((value ys + 1 : ℕ) : ℤ) + (1 : ℕ) = 12 * value ys + value ms + 1 := by omega
    refine ⟨isoText (value ys + 1) 1 1, isDate_isoText hyear' (by decide) le_rfl ?_ ?_⟩
    · rw [hk, hstart]
      exact (add_sub_cancel_right _ _).symm
    · rw [hk']
      omega

/-- From a date on up to the last one, every day has a date. -/
theorem IsDate.exists_later {text : String} {day later : ℤ} (h : IsDate text day)
    (hfrom : day ≤ later) (hto : later ≤ lastIsoDay) : ∃ text', IsDate text' later := by
  induction later, hfrom using Int.leInduction with
  | base => exact ⟨text, h⟩
  | succ n hfrom ih =>
    obtain ⟨text', h'⟩ := ih ((Int.lt_succ n).le.trans hto)
    exact h'.exists_next (Int.lt_of_add_one_le hto)

end OSK
