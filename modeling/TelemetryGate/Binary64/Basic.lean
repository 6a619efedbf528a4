import TelemetryGate.Words

/-!
# Doubles as words

A double-precision number is the word of its 64 bits: the sign, eleven bits of exponent and 52 bits
of fraction. A finite number stands for `significand * 2 ^ exponent` with its sign.
-/

namespace TelemetryGate

/-- A double-precision number, given by its bits. -/
structure Binary64 where
  /-- Sign, exponent and fraction, from the highest bit down. -/
  bits : UInt64
  deriving DecidableEq, Repr

namespace Binary64

/-- The weight of the sign bit. -/
def signWeight : Nat := twoPow 63

/-- The weight of the lowest exponent bit. -/
def exponentWeight : Nat := twoPow 52

/-- The exponent and fraction bits of infinity. -/
def infinityMagnitude : Nat := 2047 * exponentWeight

/-- The sign bit is set. -/
def negative (x : Binary64) : Bool := signWeight ≤ x.bits.toNat

/-- The exponent and fraction bits. They order the numbers of one sign. -/
def magnitude (x : Binary64) : Nat := x.bits.toNat % signWeight

/-- Neither infinite nor a NaN. -/
def isFinite (x : Binary64) : Bool := x.magnitude < infinityMagnitude

/-- Not a number. -/
def isNaN (x : Binary64) : Bool := infinityMagnitude < x.magnitude

/-- Zero of either sign. -/
def isZero (x : Binary64) : Bool := x.magnitude == 0

/-- The whole number that the fraction bits stand for, with the hidden bit of normal numbers. -/
def significand (x : Binary64) : Nat :=
  if x.magnitude < exponentWeight then x.magnitude
  else exponentWeight + x.magnitude % exponentWeight

/-- The power of two that the significand is multiplied by. -/
def exponent (x : Binary64) : Int :=
  (max 1 (x.magnitude / exponentWeight) : Nat) - 1075

/-- The number with a sign and the exponent and fraction bits. -/
def ofMagnitude (negative : Bool) (magnitude : Nat) : Binary64 :=
  ⟨UInt64.ofNat (magnitude + if negative then signWeight else 0)⟩

/-- Zero. -/
def zero : Binary64 := ofMagnitude false 0

/-- Infinity of a sign. -/
def infinity (negative : Bool) : Binary64 := ofMagnitude negative infinityMagnitude

/-- The quiet NaN of a sign. -/
def quietNaN (negative : Bool) : Binary64 := ofMagnitude negative (infinityMagnitude + twoPow 51)

/-- The same number with the sign turned. -/
def negate (x : Binary64) : Binary64 := ofMagnitude (!x.negative) x.magnitude

end Binary64

end TelemetryGate
