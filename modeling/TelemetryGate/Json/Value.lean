import TelemetryGate.Binary64.Basic
import TelemetryGate.Entries

/-!
# JSON values

Values of JSON text. Whole numbers and doubles are kept apart, as they are written differently. The
members of an object are written as they are listed; an object that is read or collected lists them
in the order of their keys.
-/

namespace TelemetryGate.Json

/-- A JSON value. -/
inductive Value where
  /-- The word `null`. -/
  | null
  /-- The words `true` and `false`. -/
  | bool (b : Bool)
  /-- A number written without point and exponent. -/
  | int (i : Int)
  /-- A number written with a point or an exponent. -/
  | float (x : Binary64)
  /-- A text. -/
  | text (s : String)
  /-- A list of values. -/
  | array (items : List Value)
  /-- Values under text keys. -/
  | object (members : List (String × Value))
  deriving Repr, Inhabited

/-- The number of a double, or `null` if it is not finite. -/
def Value.ofBinary64 (x : Binary64) : Value := if x.isFinite then .float x else .null

/-- An object from its members, given in any order. -/
def Value.ofMembers (members : List (String × Value)) : Value := .object (Entries.ofList members)

/-- An object of texts. -/
def Value.ofTexts (texts : Entries String) : Value := .object (texts.mapValues .text)

/-- An object of numbers. -/
def Value.ofNumbers (numbers : Entries Binary64) : Value := .object (numbers.mapValues .ofBinary64)

end TelemetryGate.Json
