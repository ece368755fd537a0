import OskManager.Lib.Numerals
import OskManager.Model.SecurityLogList

/-! Instants as the texts of `Date.prototype.toISOString`, and such a text read back by
`new Date(...)`. Where `Date` has no more days, the format goes on with longer years. -/

namespace OSK

open Numerals

/-- Year, month and day of a day of the Gregorian calendar. Years are counted from March, in eras of
400 years, so that the day a leap year has more is the last one. -/
def civilDate (day : Day) : ℤ × ℤ × ℤ :=
  let era := (day + 719468) / 146097
  let dayOfEra := (day + 719468) % 146097
  let century := min (dayOfEra / 36524) 3
  let dayOfCentury := dayOfEra - 36524 * century
  let leapCycle := dayOfCentury / 1461
  let yearOfCycle := min (dayOfCentury % 1461 / 365) 3
  let dayOfYear := dayOfCentury % 1461 - 365 * yearOfCycle
  let year := 400 * era + 100 * century + 4 * leapCycle + yearOfCycle
  let month := (5 * dayOfYear + 2) / 153
  let dayOfMonth := dayOfYear - (153 * month + 2) / 5 + 1
  if month < 10 then (year, month + 3, dayOfMonth) else (year + 1, month - 9, dayOfMonth)

/-- Years beyond the four digits have a sign and at least six. -/
def yearText (year : ℤ) : List Char :=
  if 0 ≤ year ∧ year < 10000 then write 4 year.toNat
  else
    let digits := Nat.toDigits 10 year.natAbs
    (if year < 0 then '-' else '+') :: (List.replicate (6 - digits.length) '0' ++ digits)

def toISOString (t : Instant) : String :=
  let (year, month, day) := civilDate (t / msPerDay)
  let ms := t % msPerDay
  String.ofList (yearText year ++ ('-' :: write 2 month.toNat ++ '-' :: write 2 day.toNat ++
    'T' :: write 2 (ms / 3600000).toNat ++ ':' :: write 2 (ms / 60000 % 60).toNat ++
    ':' :: write 2 (ms / 1000 % 60).toNat ++ '.' :: write 3 (ms % 1000).toNat ++ ['Z']))

/-- A year of the format; there is no year `-000000`. -/
def readYear : List Char → Option ℤ
  | '+' :: digits =>
    if digits.all Char.isDigit && decide (6 ≤ digits.length) then some (read 10 digits) else none
  | '-' :: digits =>
    if digits.all Char.isDigit && decide (6 ≤ digits.length) && decide (read 10 digits ≠ 0) then
      some (-(read 10 digits))
    else none
  | digits =>
    if digits.all Char.isDigit && decide (digits.length = 4) then some (value digits) else none

/-- The instant that a text of the format stands for. As in `Date.parse`, a day up to 31 runs over
into the next month. -/
def readISOString (text : String) : Option Instant :=
  let chars := text.toList
  match chars.drop (chars.length - 20) with
  | ['-', m₁, m₂, '-', d₁, d₂, 'T', h₁, h₂, ':', n₁, n₂, ':', s₁, s₂, '.', f₁, f₂, f₃, 'Z'] => do
    guard ([m₁, m₂, d₁, d₂, h₁, h₂, n₁, n₂, s₁, s₂, f₁, f₂, f₃].all Char.isDigit = true)
    let year ← readYear (chars.take (chars.length - 20))
    let month : ℤ := value [m₁, m₂]
    let day : ℤ := value [d₁, d₂]
    let hour : ℤ := value [h₁, h₂]
    let minute : ℤ := value [n₁, n₂]
    let second : ℤ := value [s₁, s₂]
    let ms : ℤ := value [f₁, f₂, f₃]
    guard (1 ≤ month ∧ month ≤ 12 ∧ 1 ≤ day ∧ day ≤ 31 ∧ hour < 24 ∧ minute < 60 ∧ second < 60)
    return (monthStart year month + day - 1) * msPerDay + hour * 3600000 + minute * 60000 +
      second * 1000 + ms
  | _ => none

end OSK
