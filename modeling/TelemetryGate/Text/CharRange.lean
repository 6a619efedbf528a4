/-!
# Ranges of characters

A character class of a standard is a list of ranges of code points in rising order.
-/

namespace TelemetryGate.Text

/-- A run of consecutive code points, both ends included. -/
structure CharRange where
  /-- The least code point of the range. -/
  first : Nat
  /-- The greatest code point of the range. -/
  last : Nat
  deriving DecidableEq, Repr

/-- A character lies in a range if its code point does. -/
def CharRange.contains (r : CharRange) (c : Char) : Bool :=
  r.first ≤ c.toNat && c.toNat ≤ r.last

/-- A character belongs to a class if one of the ranges holds it. Ranges that start beyond the
character are not looked at, so the list has to be in rising order. -/
def inRanges (c : Char) : List CharRange → Bool
  | [] => false
  | r :: rest => if c.toNat < r.first then false else r.contains c || inRanges c rest

end TelemetryGate.Text
