import TelemetryGate.Text.Casing
import TelemetryGate.Text.Digits
import TelemetryGate.Words

/-!
# Key paths

A key at the top of a layer may name a place deeper down: names joined by points, and numbers in
brackets that count the items of a list, from its end if they are negative. A key that is no such
path stands for itself.
-/

namespace TelemetryGate

/-- One step from a value into one of its parts. -/
inductive Access where
  /-- The entry of a table. -/
  | key (name : String)
  /-- The item of a list. -/
  | item (index : Int)
  deriving DecidableEq, Repr

/-- The place of a value, from the entry at the top on. Names are in lower case. -/
structure KeyPath where
  /-- The entry at the top. -/
  top : String
  /-- The steps below it. -/
  below : List Access
  deriving DecidableEq, Repr

namespace KeyPath

/-- A character of a name in a path. -/
def isNameChar (c : Char) : Bool := c.isAlphanum || c = '_' || c = ' ' || c = '-'

/-- White space around a number in brackets. -/
def isSpace (c : Char) : Bool := c = ' ' || c = '\t'

/-- A name at the front of a path, and the rest. -/
def name? (cs : List Char) : Option (String × List Char) :=
  match cs.takeWhile isNameChar with
  | [] => none
  | taken => some (Text.lower (String.ofList taken), cs.dropWhile isNameChar)

/-- A number at the front of a text and the closing bracket behind it, and the rest. -/
def index? (cs : List Char) : Option (Int × List Char) :=
  let cs := cs.dropWhile isSpace
  let (minus, cs) := match cs with
    | '-' :: rest => (true, rest)
    | cs => (false, cs)
  let digits := cs.takeWhile Char.isDigit
  let n : Int := Text.decimal digits
  let i := if minus then -n else n
  if digits.isEmpty ∨ !fitsSigned i then none
  else match (cs.dropWhile Char.isDigit).dropWhile isSpace with
    | ']' :: rest => some (i, rest)
    | _ => none

/-- The steps of a path behind its first name. The loop is bounded by `fuel`. -/
def steps? : Nat → List Char → Option (List Access)
  | _, [] => some []
  | 0, _ => none
  | fuel + 1, '.' :: rest => do
    let (name, rest) ← name? rest
    let more ← steps? fuel rest
    some (.key name :: more)
  | fuel + 1, '[' :: rest => do
    let (i, rest) ← index? rest
    let more ← steps? fuel rest
    some (.item i :: more)
  | _, _ => none

/-- The path that a text is written as. -/
def parse? (s : String) : Option KeyPath := do
  let (top, rest) ← name? s.toList
  let below ← steps? rest.length rest
  some ⟨top, below⟩

/-- The place that a key stands for. -/
def ofKey (s : String) : KeyPath := (parse? s).getD ⟨Text.lower s, []⟩

end KeyPath

end TelemetryGate
