import TelemetryGate.Json.Cursor
import TelemetryGate.Json.Value
import TelemetryGate.Binary64.Rounding
import TelemetryGate.Text.Digits

/-!
# Numbers in JSON text

A numeral is read into its parts first and valued afterwards. A whole number that fits in 64 bits is
exact. Any other number becomes a double in two roundings: the digits up to the first that does not
fit in 64 bits make a significand, which is rounded and then multiplied or divided by a power of ten.
-/

namespace TelemetryGate.Json

/-- The parts of a number: digits are given by their values. -/
structure Numeral where
  /-- A minus sign stands before it. -/
  negative : Bool
  /-- The digits before the point. -/
  whole : List Nat
  /-- The digits after the point. -/
  fraction : Option (List Nat)
  /-- The digits of the exponent, and whether a minus stands before them. -/
  exponent : Option (Bool × List Nat)
  deriving DecidableEq, Repr

/-- A way to value numerals. A number that is out of range is reported with the count of characters at
its end that are not read before. -/
abbrev Valuation := Numeral → Except Nat Value

/-- A mark that starts an exponent. -/
def isExponentMark (c : Char) : Bool := c = 'e' || c = 'E'

/-- Read digits as far as they fit under a limit: the number, and the digits that are left. -/
def absorb (limit : Nat) : Nat → List Nat → Nat × List Nat
  | n, [] => (n, [])
  | n, d :: rest => if n * 10 + d ≤ limit then absorb limit (n * 10 + d) rest else (n, d :: rest)

/-- A significand times a power of ten in two roundings, for powers that the table of powers of a
double holds in steps; `none` beyond the greatest double. -/
def scaleByTen : Nat → Binary64 → Int → Option Binary64
  | 0, _, _ => some .zero
  | fuel + 1, f, e =>
    if e.natAbs ≤ 308 then
      let power := Binary64.ofDecimal false 1 e.natAbs
      if 0 ≤ e then
        let product := f.mul power
        if product.isFinite then some product else none
      else some (f.div power)
    else if f.isZero then some f
    else if 0 ≤ e then none
    else scaleByTen fuel (f.div (Binary64.ofDecimal false 1 308)) (e + 308)

/-- The greatest significand. -/
def greatestSignificand : Nat := twoPow 64 - 1

/-- The greatest exponent that is computed with. -/
def greatestExponent : Nat := twoPow 31 - 1

/-- The value of a numeral. -/
def Numeral.value (n : Numeral) : Except Nat Value :=
  let (significand, left) := absorb greatestSignificand 0 n.whole
  match n.fraction, n.exponent, left with
  | none, none, [] =>
    if !n.negative then .ok (.int significand)
    else if significand = 0 ∨ twoPow 63 < significand then
      .ok (.float (Binary64.ofRatio true significand 1))
    else .ok (.int (-significand))
  | fraction, exponent, left =>
    let digits := fraction.getD []
    let (significand, dropped) := absorb greatestSignificand significand digits
    let shift : Int := left.length - (digits.length - dropped.length : Nat)
    let sign (x : Binary64) : Value := .float (if n.negative then x.negate else x)
    let (minus, power) := exponent.getD (false, [])
    let (e, unread) := absorb greatestExponent 0 power
    match unread with
    | _ :: more =>
      if significand ≠ 0 ∧ !minus then .error more.length else .ok (sign .zero)
    | [] =>
      match scaleByTen 4 (Binary64.ofNat significand) (shift + if minus then -(e : Int) else e) with
      | some x => .ok (sign x)
      | none => .error 0

namespace Reader

/-- Read digits as far as they go. -/
def digits : Reader (List Nat) := do
  let ds ← readWhile Char.isDigit
  pure (ds.map Text.digitValue)

/-- Read the digits before the point. `atEnd` is the cause when the text ends. -/
def wholePart (atEnd : Cause) : Reader (List Nat) := do
  match ← peek with
  | none => fail atEnd
  | some c =>
    if c = '0' then do
      advance
      match ← peek with
      | some d => if d.isDigit then failAhead .invalidNumber else pure [0]
      | none => pure [0]
    else if c.isDigit then digits
    else do
      advanceByte
      fail .invalidNumber

/-- Read a point and the digits after it, if there is a point. -/
def fractionPart (atEnd : Cause) : Reader (Option (List Nat)) := do
  match ← peek with
  | some '.' => do
    advance
    let ds ← digits
    if ds.isEmpty then
      match ← peek with
      | none => failAhead atEnd
      | some _ => failAhead .invalidNumber
    else pure (some ds)
  | _ => pure none

/-- Read the sign of an exponent, if there is one. -/
def exponentSign : Reader Bool := do
  match ← peek with
  | some '+' => do
    advance
    pure false
  | some '-' => do
    advance
    pure true
  | _ => pure false

/-- Read an exponent, if its mark comes next. -/
def exponentPart (atEnd : Cause) : Reader (Option (Bool × List Nat)) := do
  match ← peek with
  | none => pure none
  | some c =>
    if isExponentMark c then do
      advance
      let minus ← exponentSign
      match ← peek with
      | none => fail atEnd
      | some d =>
        if d.isDigit then do
          let ds ← digits
          pure (some (minus, ds))
        else do
          advanceByte
          fail .invalidNumber
    else pure none

/-- Read the parts of a number from its first digit on. -/
def numeralFrom (atEnd : Cause) (negative : Bool) : Reader Numeral := do
  let whole ← wholePart atEnd
  let fraction ← fractionPart atEnd
  let exponent ← exponentPart atEnd
  pure ⟨negative, whole, fraction, exponent⟩

/-- Read a number, a minus sign included. -/
def numeral (atEnd : Cause) : Reader Numeral := do
  match ← peek with
  | some '-' => do
    advance
    numeralFrom atEnd true
  | _ => numeralFrom atEnd false

/-- Read a number and value it in some way. -/
def numberBy (valued : Valuation) : Reader Value := do
  let n ← numeral .endInValue
  match valued n with
  | .ok v => pure v
  | .error unread => fun c => .error ⟨.numberOutOfRange, c.offset - unread⟩

/-- Read a number and value it. -/
def number : Reader Value := numberBy Numeral.value

/-- Read past a number. -/
def skipNumber : Reader Unit := do
  let _ ← numeral .invalidNumber
  pure ()

end Reader

end TelemetryGate.Json
