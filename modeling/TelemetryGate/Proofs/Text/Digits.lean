import TelemetryGate.Text.Digits
import Mathlib.Data.Nat.Digits.Defs

/-!
# Decimal digits

What numbers written with decimal digits stand for, and which digit comes first.
-/

namespace TelemetryGate.Text

/-- The value of digits is what the library reads from them. -/
theorem decimal_eq_ofDigitChars (cs : List Char) : decimal cs = Nat.ofDigitChars 10 cs 0 := by
  simp only [decimal, ofDigits, Nat.ofDigitChars, List.foldl_map, Nat.mul_comm]
  rfl

/-- A number is written with its digits. -/
theorem toList_natText (n : Nat) : (toString n).toList = Nat.toDigits 10 n := Nat.toList_repr

/-- A whole number is written with its digits, behind a minus if it is negative. -/
theorem toList_intText (i : Int) :
    (toString i).toList = (if i < 0 then ['-'] else []) ++ Nat.toDigits 10 i.natAbs := by
  cases i with
  | ofNat n => exact toList_natText n
  | negSucc n =>
    change ("-" ++ (n + 1).repr).toList = _
    rw [String.toList_append, Nat.toList_repr, if_pos (Int.negSucc_lt_zero n)]
    rfl

theorem isDigit_toDigits (n : Nat) : ∀ c ∈ Nat.toDigits 10 n, c.isDigit :=
  fun _ hc => Nat.isDigit_of_mem_toDigits (by decide) (by decide) hc

theorem decimal_toDigits (n : Nat) : decimal (Nat.toDigits 10 n) = n := by
  rw [decimal_eq_ofDigitChars, Nat.ofDigitChars_toDigits (by decide) (by decide)]

/-- A number is read back from its text. -/
theorem decimal_natText (n : Nat) : decimal (toString n).toList = n := by
  rw [toList_natText, decimal_toDigits]

/-- Zeros before the digits do not count. -/
theorem decimal_zeros_append (k : Nat) (cs : List Char) :
    decimal (List.replicate k '0' ++ cs) = decimal cs := by
  rw [decimal_eq_ofDigitChars, decimal_eq_ofDigitChars, Nat.ofDigitChars_append,
    Nat.ofDigitChars_replicate_zero, Nat.mul_zero]

/-- Each zero behind the digits is a factor of ten. -/
theorem decimal_append_zeros (k : Nat) (cs : List Char) :
    decimal (cs ++ List.replicate k '0') = 10 ^ k * decimal cs := by
  rw [decimal_eq_ofDigitChars, decimal_eq_ofDigitChars, Nat.ofDigitChars_append,
    Nat.ofDigitChars_replicate_zero]

/-- A positive number does not start with a zero. -/
theorem toDigits_eq_cons {n : Nat} (hn : 0 < n) :
    ∃ c cs, Nat.toDigits 10 n = c :: cs ∧ c ≠ '0' := by
  induction n using Nat.strongRecOn with
  | ind n ih =>
    by_cases hless : n < 10
    · refine ⟨Nat.digitChar n, [], Nat.toDigits_of_lt_base hless, ?_⟩
      have hdigits : ∀ d < 10, 0 < d → Nat.digitChar d ≠ '0' := by decide
      exact hdigits n hless hn
    · obtain ⟨c, cs, hcs, hc⟩ := ih (n / 10) (by omega) (by omega)
      refine ⟨c, cs ++ [Nat.digitChar (n % 10)], ?_, hc⟩
      rw [Nat.toDigits_of_base_le (by decide) (by omega), hcs, List.cons_append]

end TelemetryGate.Text
