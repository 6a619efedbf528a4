/-!
# Digits

The values of decimal and hexadecimal digits, and of numbers written with them.
-/

namespace TelemetryGate.Text

/-- The value of a decimal digit. -/
def digitValue (c : Char) : Nat := c.toNat - 48

/-- The value of a hexadecimal digit, in either case. -/
def hexValue (c : Char) : Option Nat :=
  if c.isDigit then some (c.toNat - 48)
  else if 'a' ≤ c ∧ c ≤ 'f' then some (c.toNat - 87)
  else if 'A' ≤ c ∧ c ≤ 'F' then some (c.toNat - 55)
  else none

/-- The value of a number written in some base, whose digits are given by their values. -/
def ofDigits (base : Nat) (digits : List Nat) : Nat :=
  digits.foldl (fun n d => n * base + d) 0

/-- The value of a number written with decimal digits. -/
def decimal (digits : List Char) : Nat := ofDigits 10 (digits.map digitValue)

end TelemetryGate.Text
