import TelemetryGate.Binary64.Shortest

/-!
# Text of doubles

A double is written with its shortest digits. A layout says between which exponents the point
stands among the digits, and whether a whole number keeps a point.
-/

namespace TelemetryGate.Binary64

/-- How a double is written. -/
structure Layout where
  /-- Which of two equally near decimals is taken. -/
  tie : TieRule
  /-- The exponents of the first digit between which no exponent is written, ends included; without
  bounds none ever is. -/
  positional : Option (Int × Int)
  /-- Whole numbers in positional notation end in `.0`. -/
  keepsPoint : Bool
  deriving DecidableEq, Repr

/-- The layout of numbers in JSON text: `100.0`, `1e-6`, `1.5e+16`. -/
def Layout.json : Layout := ⟨.toEven, some (-5, 15), true⟩

/-- The layout without exponents: `100`, `0.000001`, `-0`. -/
def Layout.plain : Layout := ⟨.up, none, false⟩

/-- The layout without exponents in which every finite number has a point: `100.0`. -/
def Layout.pointed : Layout := ⟨.up, none, true⟩

/-- The digits with the point set among them; `e` is the exponent of the first digit. -/
def positionalText (digits : String) (e : Int) (keepsPoint : Bool) : String :=
  if e < 0 then "0." ++ "".pushn '0' ((-e).toNat - 1) ++ digits
  else
    let whole := e.toNat + 1
    if digits.length ≤ whole then
      digits ++ "".pushn '0' (whole - digits.length) ++ (if keepsPoint then ".0" else "")
    else
      String.ofList (digits.toList.take whole) ++ "." ++ String.ofList (digits.toList.drop whole)

/-- The digits with one before the point, then the exponent with its sign. -/
def scientificText (digits : String) (e : Int) : String :=
  let tail := String.ofList (digits.toList.drop 1)
  let mantissa := String.ofList (digits.toList.take 1) ++ (if tail.isEmpty then "" else "." ++ tail)
  mantissa ++ "e" ++ (if e < 0 then "-" else "+") ++ toString e.natAbs

/-- The text of a double. -/
def text (layout : Layout) (x : Binary64) : String :=
  if x.isNaN then "NaN"
  else
    let sign := if x.negative then "-" else ""
    if !x.isFinite then sign ++ "inf"
    else
      let d := x.shortest layout.tie
      let digits := toString d.digits
      let e := d.exponent + digits.length - 1
      let isPositional := match layout.positional with
        | none => true
        | some (least, greatest) => least ≤ e && e ≤ greatest
      sign ++
        (if isPositional then positionalText digits e layout.keepsPoint else scientificText digits e)

end TelemetryGate.Binary64
