import OskManager.Model.IsoDates

/-! An instant that is written as a text is read back as it was. -/

namespace OSK

open Numerals

/-- The first day of a month of a year counted from March, by the place of the year among the
leap years. -/
theorem marchMonth_start {era c q k n : ℤ} (hc : 0 ≤ c ∧ c ≤ 3) (hq : 0 ≤ q ∧ q ≤ 24)
    (hk : 0 ≤ k ∧ k ≤ 3) :
    365 * (400 * era + 100 * c + 4 * q + k) + (400 * era + 100 * c + 4 * q + k) / 4 -
        (400 * era + 100 * c + 4 * q + k) / 100 + (400 * era + 100 * c + 4 * q + k) / 400 +
        (153 * n + 2) / 5 - 719468 =
      146097 * era + 36524 * c + 1461 * q + 365 * k + (153 * n + 2) / 5 - 719468 := by
  have hfour : (400 * era + 100 * c + 4 * q + k) / 4 = 100 * era + 25 * c + q := by omega
  have hhundred : (400 * era + 100 * c + 4 * q + k) / 100 = 4 * era + c := by omega
  have hera : (400 * era + 100 * c + 4 * q + k) / 400 = era := by omega
  rw [hfour, hhundred, hera]
  omega

/-- The months from March on follow each other by the days before them. -/
theorem dayOfMonth_bounds {dayOfYear n : ℤ} (hn : 0 ≤ n ∧ n ≤ 11)
    (h : (5 * dayOfYear + 2) / 153 = n) :
    1 ≤ dayOfYear - (153 * n + 2) / 5 + 1 ∧ dayOfYear - (153 * n + 2) / 5 + 1 ≤ 31 := by
  obtain ⟨hlow, hhigh⟩ := hn
  interval_cases n <;> omega

/-- The parts of a date are those of its day. -/
theorem civilDate_spec {day y m d : ℤ} (h : civilDate day = (y, m, d)) :
    monthStart y m + d - 1 = day ∧ (1 ≤ m ∧ m ≤ 12) ∧ 1 ≤ d ∧ d ≤ 31 := by
  simp only [civilDate, Day] at h
  generalize hera : (day + 719468) / 146097 = era at h
  generalize hdoe : (day + 719468) % 146097 = doe at h
  generalize hc : min (doe / 36524) 3 = c at h
  generalize hq : (doe - 36524 * c) / 1461 = q at h
  generalize hr : (doe - 36524 * c) % 1461 = r at h
  generalize hy : min (r / 365) 3 = k at h
  have hcs : 0 ≤ c ∧ c ≤ 3 := by omega
  have hqs : 0 ≤ q ∧ q ≤ 24 := by omega
  have hks : 0 ≤ k ∧ k ≤ 3 := by omega
  have hdays : 0 ≤ r - 365 * k ∧ r - 365 * k ≤ 365 := by omega
  have hday : day + 719468 = 146097 * era + 36524 * c + 1461 * q + r := by omega
  clear hera hdoe hc hq hr hy
  generalize hn : (5 * (r - 365 * k) + 2) / 153 = n at h
  have hstart := @marchMonth_start era c q k n hcs hqs hks
  generalize 400 * era + 100 * c + 4 * q + k = year at h hstart
  have hns : 0 ≤ n ∧ n ≤ 11 := by omega
  have hbounds := dayOfMonth_bounds hns hn
  split_ifs at h with hmonth
  · obtain ⟨rfl, rfl, rfl⟩ : year = y ∧ n + 3 = m ∧ _ = d := by simpa using h
    have hplace : (n + 3 + 9) % 12 = n := by omega
    refine ⟨?_, by omega, hbounds⟩
    simp only [monthStart, Day, if_neg (show ¬ n + 3 ≤ 2 by omega), hplace]
    omega
  · obtain ⟨rfl, rfl, rfl⟩ : year + 1 = y ∧ n - 9 = m ∧ _ = d := by simpa using h
    have hplace : (n - 9 + 9) % 12 = n := by omega
    refine ⟨?_, by omega, hbounds⟩
    simp only [monthStart, Day, if_pos (show n - 9 ≤ 2 by omega), hplace, add_sub_cancel_right]
    omega

/-! ### Years -/

theorem readYear_digits {digits : List Char} (hdigits : ∀ c ∈ digits, c.isDigit = true)
    (hlength : digits.length = 4) : readYear digits = some (value digits : ℤ) := by
  unfold readYear
  split
  next => exact absurd (hdigits '+' List.mem_cons_self) (by decide)
  next => exact absurd (hdigits '-' List.mem_cons_self) (by decide)
  next => rw [List.all_eq_true.mpr hdigits, hlength]; rfl

/-- A number in at least six digits. -/
theorem sixDigits_spec (n : ℕ) :
    let digits := List.replicate (6 - (Nat.toDigits 10 n).length) '0' ++ Nat.toDigits 10 n
    digits.all Char.isDigit = true ∧ 6 ≤ digits.length ∧ read 10 digits = n := by
  refine ⟨List.all_eq_true.mpr fun c hc => ?_, ?_, ?_⟩
  · rcases List.mem_append.mp hc with hc | hc
    · rw [List.eq_of_mem_replicate hc]
      decide
    · exact toDigits_forall (p := fun c => c.isDigit = true) (by decide)
        (fun d hd => (digitChar_spec hd).1) n c hc
  · rw [List.length_append, List.length_replicate]
    omega
  · rw [read_zeros, read_toDigits (by decide) (by decide)]

theorem readYear_yearText (year : ℤ) : readYear (yearText year) = some year := by
  unfold yearText
  split_ifs with hfour hneg
  · rw [readYear_digits write_digits (length_write 4 _), value_write]
    exact congrArg some (by omega)
  · obtain ⟨hdigits, hlength, hread⟩ := sixDigits_spec year.natAbs
    have hzero : year.natAbs ≠ 0 := by omega
    simp only [readYear, hdigits, hlength, hread, hzero, ne_eq, not_false_eq_true, decide_true,
      Bool.and_self, if_true]
    exact congrArg some (by omega)
  · obtain ⟨hdigits, hlength, hread⟩ := sixDigits_spec year.natAbs
    simp only [readYear, hdigits, hlength, hread, decide_true, Bool.and_self, if_true]
    exact congrArg some (by omega)

/-! ### Instants -/

theorem readISOString_write {year : List Char} {y : ℤ} {month day hour minute second ms : ℕ}
    (hyear : readYear year = some y) (hmonth : 1 ≤ month ∧ month ≤ 12)
    (hday : 1 ≤ day ∧ day ≤ 31) (hhour : hour < 24) (hminute : minute < 60) (hsecond : second < 60)
    (hms : ms < 1000) :
    readISOString (String.ofList (year ++ ('-' :: write 2 month ++ '-' :: write 2 day ++
      'T' :: write 2 hour ++ ':' :: write 2 minute ++ ':' :: write 2 second ++
      '.' :: write 3 ms ++ ['Z']))) =
    some ((monthStart y month + day - 1) * msPerDay + hour * 3600000 + minute * 60000 +
      second * 1000 + ms) := by
  have hdigit (n : ℕ) : (Nat.digitChar (n % 10)).isDigit = true :=
    (digitChar_spec (Nat.mod_lt n (by decide))).1
  have htwo (n : ℕ) (hn : n < 100) : value (write 2 n) = n :=
    (value_write 2 n).trans (Nat.mod_eq_of_lt hn)
  have hthree : value (write 3 ms) = ms := (value_write 3 ms).trans (Nat.mod_eq_of_lt hms)
  generalize hrest : '-' :: write 2 month ++ '-' :: write 2 day ++ 'T' :: write 2 hour ++
    ':' :: write 2 minute ++ ':' :: write 2 second ++ '.' :: write 3 ms ++ ['Z'] = rest
  have hyears : (year ++ rest).length - 20 = year.length := by
    rw [← hrest]
    simp
  unfold readISOString
  rw [String.toList_ofList]
  dsimp only
  rw [hyears, List.drop_left, List.take_left, hyear, ← hrest]
  simp only [write] at htwo hthree
  simp only [write, List.cons_append, List.nil_append, List.all_cons, List.all_nil, hdigit,
    Bool.and_self, htwo month (by omega), htwo day (by omega), htwo hour (by omega),
    htwo minute (by omega), htwo second (by omega), hthree]
  have hranges : 1 ≤ (month : ℤ) ∧ (month : ℤ) ≤ 12 ∧ 1 ≤ (day : ℤ) ∧ (day : ℤ) ≤ 31 ∧
      (hour : ℤ) < 24 ∧ (minute : ℤ) < 60 ∧ (second : ℤ) < 60 := by omega
  simp only [guard, hranges, and_self, if_true]
  rfl

theorem readISOString_toISOString (t : ℤ) : readISOString (toISOString t) = some t := by
  obtain ⟨y, m, d, hdate⟩ : ∃ y m d, civilDate (t / msPerDay) = (y, m, d) := ⟨_, _, _, rfl⟩
  obtain ⟨hday, hmonth, hdays⟩ := civilDate_spec hdate
  rw [toISOString, hdate]
  dsimp only [msPerDay, Day, Instant] at hday ⊢
  rw [readISOString_write (readYear_yearText y) (by omega) (by omega) (by omega) (by omega)
    (by omega) (by omega)]
  have hm : ((m.toNat : ℕ) : ℤ) = m := by omega
  have hd : ((d.toNat : ℕ) : ℤ) = d := by omega
  rw [hm, hd, hday]
  refine congrArg some ?_
  dsimp only [msPerDay, Instant, Day]
  omega

end OSK
