import TelemetryGate.Log.Record
import TelemetryGate.Text.Digits

/-!
# Thresholds

The least severe level that passes, or none at all. A threshold is written as the name of a level,
as `off`, or as a digit.
-/

namespace TelemetryGate.Log

/-- What passes by its level. -/
inductive Threshold where
  /-- Nothing passes. -/
  | off
  /-- What is at least as severe as a level passes. -/
  | atLeast (level : Level)
  deriving DecidableEq, Repr

namespace Threshold

/-- A level passes a threshold. -/
def admits : Threshold → Level → Bool
  | .off, _ => false
  | .atLeast least, level => least.rank ≤ level.rank

/-- The thresholds by their numbers. -/
def numbered : List Threshold :=
  [.off, .atLeast .error, .atLeast .warn, .atLeast .info, .atLeast .debug, .atLeast .trace]

/-- The name of a threshold. -/
def name : Threshold → String
  | .off => "OFF"
  | .atLeast level => level.name

/-- The value of a whole number without sign or with a plus sign. -/
def number? (cs : List Char) : Option Nat :=
  let digits := match cs with
    | '+' :: rest => rest
    | cs => cs
  if digits ≠ [] ∧ digits.all Char.isDigit then some (Text.decimal digits) else none

/-- The threshold of a text: a number, or a name in any case. -/
def ofText? (s : String) : Option Threshold :=
  match number? s.toList with
  | some n => numbered[n]?
  | none => numbered.find? fun t => t.name = String.ofList (s.toList.map Char.toUpper)

end Threshold

end TelemetryGate.Log
