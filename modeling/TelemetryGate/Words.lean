/-!
# Words and powers

Powers of two and of ten, and the bounds of the whole numbers that words of 64 bits hold.
-/

namespace TelemetryGate

/-- A power of two. -/
def twoPow (n : Nat) : Nat := Nat.pow 2 n

/-- A power of ten. -/
def tenPow (n : Nat) : Nat := Nat.pow 10 n

/-- A word of 64 bits with sign holds a whole number. -/
def fitsSigned (i : Int) : Bool := -(twoPow 63 : Int) ≤ i && i < twoPow 63

/-- A word of 64 bits without sign holds a whole number. -/
def fitsUnsigned (i : Int) : Bool := 0 ≤ i && i < twoPow 64

end TelemetryGate
