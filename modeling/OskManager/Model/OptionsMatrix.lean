import Mathlib.Order.WithBot
import OskManager.Lib.Loops
import OskManager.Model.DayOptions

/-! The loops of `schedule-validation/optionsMatrix.ts` as they run, with the texts they list. The
longest duration may be infinite, and nothing ends the loops when a step is not positive. -/

namespace OSK

open Relational

/-- `String(n).padStart(2, '0')`. -/
def pad2 (n : ℤ) : String :=
  let digits := toString n
  String.ofList (List.replicate (2 - digits.length) '0') ++ digits

def minutesToHHmm (minutes : ℤ) : String := pad2 (minutes / 60) ++ ":" ++ pad2 (minutes.tmod 60)

structure OptionsMatrixInput where
  windows : List TimeWindow
  minDurationMinutes : ℤ
  maxDurationMinutes : WithTop ℤ
  startStepMinutes : ℤ
  endStepMinutes : Option ℤ := none

/-- The option as it is returned. -/
structure OptionTexts where
  startTime : String
  endTimes : List String
  deriving DecidableEq, Repr

/-- `Math.min(start + maxDurationMinutes, window.end)`. -/
def latestEnd (start : ℤ) (maxDurationMinutes : WithTop ℤ) (stop : ℤ) : ℤ :=
  match maxDurationMinutes with
  | none => stop
  | some m => min (start + m) stop

/-- The end times of a start. -/
def endTimesLoop (input : OptionsMatrixInput) (window : TimeWindow) (turns : ℕ) (start : ℤ) :
    Option (List String) :=
  let latest := latestEnd start input.maxDurationMinutes window.stop
  whileLoop (fun stop => stop ≤ latest)
    (· + input.endStepMinutes.getD availabilityOptionStepMinutes)
    (fun stop => some [minutesToHHmm stop]) turns (start + input.minDurationMinutes)

/-- The options of a window. -/
def startTimesLoop (input : OptionsMatrixInput) (turns : ℕ) (window : TimeWindow) :
    Option (List OptionTexts) :=
  whileLoop (fun start => start + input.minDurationMinutes ≤ window.stop) (· + input.startStepMinutes)
    (fun start => do
      let endTimes ← endTimesLoop input window turns start
      return if endTimes ≠ [] then [{ startTime := minutesToHHmm start, endTimes }] else [])
    turns (ceilTo window.start input.startStepMinutes)

/-- `buildScheduleAvailabilityOptions`, when none of its loops takes more than `turns` tests. -/
def buildOptionsMatrix (turns : ℕ) (input : OptionsMatrixInput) : Option (List OptionTexts) :=
  (input.windows.mapM (startTimesLoop input turns)).map List.flatten

end OSK
