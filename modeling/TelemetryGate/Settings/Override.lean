import TelemetryGate.Binary64.Rounding
import TelemetryGate.Environment
import TelemetryGate.Settings.Merging
import TelemetryGate.Text.Split

/-!
# Overrides from the environment

Environment variables whose names start with a certain text, in either case, override settings. A
double underscore in the rest of the name separates the parts of a key. The value is a truth value,
a whole number or a double if it reads as one, and else a text.
-/

namespace TelemetryGate

namespace Override

/-- What the names of overriding variables start with, in lower case. -/
def nameStart : String := "qsharp_telemetry__"

/-- The origin of overriding values. -/
def origin : String := "the environment"

/-- The sign at the front of a number, whether it is a minus, and the rest. -/
def sign : List Char → Bool × List Char
  | '+' :: rest => (false, rest)
  | '-' :: rest => (true, rest)
  | cs => (false, cs)

/-- The whole number of 64 bits that a text reads as. -/
def int? (cs : List Char) : Option Int :=
  let (minus, digits) := sign cs
  if digits.isEmpty ∨ !digits.all Char.isDigit then none
  else
    let n : Int := Text.decimal digits
    let i := if minus then -n else n
    if fitsSigned i then some i else none

/-- The exponent that a text reads as. -/
def exponent? (cs : List Char) : Option Int :=
  let (minus, digits) := sign cs
  if digits.isEmpty ∨ !digits.all Char.isDigit then none
  else
    let n : Int := Text.decimal digits
    some (if minus then -n else n)

/-- The double that a text reads as: digits with a point anywhere among them and an exponent, or a
word for infinity or a NaN in any case. -/
def float? (cs : List Char) : Option Binary64 :=
  let (minus, body) := sign cs
  let word := Text.lower (String.ofList body)
  if word = "inf" ∨ word = "infinity" then some (.infinity minus)
  else if word = "nan" then some (.quietNaN minus)
  else
    let whole := body.takeWhile Char.isDigit
    let (part, rest) := match body.dropWhile Char.isDigit with
      | '.' :: rest => (rest.takeWhile Char.isDigit, rest.dropWhile Char.isDigit)
      | rest => ([], rest)
    let power := match rest with
      | [] => some 0
      | c :: rest => if c = 'e' ∨ c = 'E' then exponent? rest else none
    if whole.isEmpty ∧ part.isEmpty then none
    else power.map fun e =>
      Binary64.ofDecimal minus (Text.decimal (whole ++ part)) (e - part.length)

/-- The value that a text reads as. -/
def scalar (s : String) : Scalar :=
  match Text.lower s with
  | "true" => .bool true
  | "false" => .bool false
  | _ =>
    match int? s.toList with
    | some i => .int i
    | none =>
      match float? s.toList with
      | some x => .float x
      | none => .text s

/-- The key that a variable overrides, if it overrides one. -/
def key? (name : String) : Option String :=
  (Text.dropStart? nameStart.toList (Text.lower name).toList).map fun rest =>
    String.ofList (Text.pointed rest)

/-- The layer that the variables of an environment give. Of variables that differ only in the case of
their names the last one counts. -/
def layer (environment : Variables) : Layer :=
  Entries.ofList (environment.filterMap fun v =>
    (key? v.1).map (·, .scalar (some origin) (scalar v.2)))

end Override

end TelemetryGate
