import TelemetryGate.Binary64.Basic

/-!
# Rounding to doubles

The double nearest to a quotient of whole numbers, a tie going to the even significand. Whole
numbers, decimal numerals and the sums, products and quotients of doubles are rounded through it, so
each is exact up to one rounding.
-/

namespace TelemetryGate.Binary64

/-- The whole number nearest to `num / den`, a tie going to the even one. -/
def roundHalfEven (num den : Nat) : Nat :=
  let q := num / den
  let r := num % den
  if 2 * r < den then q
  else if den < 2 * r then q + 1
  else if q % 2 = 0 then q else q + 1

/-- The quotient `num / den` times a power of two, as numerator and denominator. -/
def timesTwoPow (num den : Nat) (e : Int) : Nat × Nat :=
  (num * twoPow e.toNat, den * twoPow (-e).toNat)

/-- The greatest `k` with `2 ^ k ≤ num / den`, for positive `num` and `den`. -/
def floorLogTwo (num den : Nat) : Int :=
  let guess : Int := (Nat.log2 num : Int) - Nat.log2 den
  let (n, d) := timesTwoPow num den (-guess)
  if n < d then guess - 1 else guess

/-- The double nearest to `num / den`, infinite beyond the greatest finite one. -/
def ofRatio (negative : Bool) (num den : Nat) : Binary64 :=
  if num = 0 then ofMagnitude negative 0
  else
    let q : Int := max (floorLogTwo num den - 52) (-1074)
    let (n, d) := timesTwoPow num den (-q)
    let magnitude := (q + 1074).toNat * exponentWeight + roundHalfEven n d
    ofMagnitude negative (min magnitude infinityMagnitude)

/-- The double nearest to a natural number. -/
def ofNat (n : Nat) : Binary64 := ofRatio false n 1

/-- The double nearest to a whole number. -/
def ofInt (i : Int) : Binary64 := ofRatio (i < 0) i.natAbs 1

/-- The double nearest to `digits * 10 ^ e`. Exponents that can only give infinity or zero are
settled without computing the power. -/
def ofDecimal (negative : Bool) (digits : Nat) (e : Int) : Binary64 :=
  if digits = 0 then ofMagnitude negative 0
  else if e > 400 then infinity negative
  else if e + ((Nat.log2 digits : Int) / 3 + 1) < -400 then ofMagnitude negative 0
  else ofRatio negative (digits * tenPow e.toNat) (tenPow (-e).toNat)

/-- The absolute value of a finite double as numerator and denominator. -/
def ratio (x : Binary64) : Nat × Nat := timesTwoPow x.significand 1 x.exponent

/-- The sum of two finite doubles that are not negative, rounded. -/
def plus (x y : Binary64) : Binary64 :=
  ofRatio false (x.ratio.1 * y.ratio.2 + y.ratio.1 * x.ratio.2) (x.ratio.2 * y.ratio.2)

/-- The product of two finite doubles, rounded. -/
def mul (x y : Binary64) : Binary64 :=
  ofRatio (x.negative != y.negative) (x.ratio.1 * y.ratio.1) (x.ratio.2 * y.ratio.2)

/-- The quotient of two finite doubles, rounded, for a divisor that is not zero. -/
def div (x y : Binary64) : Binary64 :=
  ofRatio (x.negative != y.negative) (x.ratio.1 * y.ratio.2) (x.ratio.2 * y.ratio.1)

end TelemetryGate.Binary64
