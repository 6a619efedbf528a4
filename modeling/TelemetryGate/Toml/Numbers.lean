import TelemetryGate.Toml.Reader
import TelemetryGate.Toml.Value
import TelemetryGate.Binary64.Rounding
import TelemetryGate.Text.Digits

/-!
# Numbers in TOML text

Whole numbers in four bases and doubles. An underscore may stand between two digits, and a decimal
number does not start with a zero.
-/

namespace TelemetryGate.Toml

/-- The digits at the front of a text with single underscores between them, behind a first digit. -/
def digitRun (p : Char → Bool) : List Char → List Char × List Char
  | '_' :: d :: rest =>
    if p d then
      let (ds, rest) := digitRun p rest
      (d :: ds, rest)
    else ([], '_' :: d :: rest)
  | d :: rest =>
    if p d then
      let (ds, rest) := digitRun p rest
      (d :: ds, rest)
    else ([], d :: rest)
  | [] => ([], [])

namespace Reader

/-- Read digits with underscores between them. -/
def digits (p : Char → Bool) : Reader (List Char) := do
  let first ← satisfy p
  let more ← fun cs => some (digitRun p cs)
  pure (first :: more)

/-- Read a sign: whether it is a minus. -/
def sign : Reader Bool := do
  match ← peek with
  | some '+' => do
    char '+'
    pure false
  | some '-' => do
    char '-'
    pure true
  | _ => pure false

/-- Read the digits of a whole number without a zero in front. -/
def wholeDigits : Reader (List Char) := do
  match ← peek with
  | some '0' => do
    char '0'
    pure ['0']
  | _ => digits Char.isDigit

/-- Accept a whole number of 64 bits. -/
def bounded (i : Int) : Reader Int :=
  if fitsSigned i then pure i else failure

/-- Read the digits of a whole number in a base. -/
def based (base : Nat) (p : Char → Bool) : Reader Int := do
  let ds ← digits p
  bounded (Text.ofDigits base (ds.filterMap Text.hexValue))

/-- Read a whole number in base ten. -/
def decimalInteger : Reader Int := do
  let minus ← sign
  let n : Int := Text.decimal (← wholeDigits)
  bounded (if minus then -n else n)

/-- Read a whole number behind the mark of its base, if it has one. -/
def marked (mark : Char) (base : Nat) (p : Char → Bool) : Reader Int := do
  word ['0', mark]
  based base p

/-- Read a whole number. -/
def integer : Reader Int :=
  marked 'x' 16 (fun c => (Text.hexValue c).isSome) <|>
    marked 'o' 8 (fun c => '0' ≤ c && c ≤ '7') <|>
    marked 'b' 2 (fun c => c = '0' || c = '1') <|>
    decimalInteger

/-- Read an exponent. -/
def exponent : Reader Int := do
  let _ ← satisfy fun c => c = 'e' || c = 'E'
  let minus ← sign
  let n : Int := Text.decimal (← digits Char.isDigit)
  pure (if minus then -n else n)

/-- Read the digits behind a point. -/
def fraction : Reader (List Char) := do
  char '.'
  digits Char.isDigit

/-- Read a double that has a fraction or an exponent. One too large is refused, one too small for a
negative double is infinite. -/
def decimalFloat : Reader Binary64 := do
  let minus ← sign
  let whole ← wholeDigits
  let part ← optional fraction
  let power ← optional exponent
  if part.isNone ∧ power.isNone then failure
  else
    let ds := whole ++ part.getD []
    let e : Int := power.getD 0 - (part.getD []).length
    let x := Binary64.ofDecimal minus (Text.decimal ds) e
    if x = .infinity false then failure else pure x

/-- Read infinity or a NaN. -/
def specialFloat : Reader Binary64 := do
  let minus ← sign
  match ← optional (word ['i', 'n', 'f']) with
  | some _ => pure (.infinity minus)
  | none => do
    word ['n', 'a', 'n']
    pure (.quietNaN minus)

/-- Read a double. -/
def float : Reader Binary64 := decimalFloat <|> specialFloat

end Reader

end TelemetryGate.Toml
