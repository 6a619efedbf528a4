import TelemetryGate.Binary64.Rounding
import Mathlib.Algebra.Order.Field.Power
import Mathlib.Data.Rat.Cast.Order
import Mathlib.Tactic.Linarith
import Mathlib.Tactic.Ring
import Mathlib.Tactic.FieldSimp
import Mathlib.Tactic.NormNum

/-!
# The numbers that doubles stand for

A finite double stands for a rational number: its significand times a power of two, with its sign.
This file gives that number for doubles that are built from exponent and fraction bits, and shows on
which grids the number of any finite double can lie.
-/

namespace TelemetryGate

theorem twoPow_eq (n : ℕ) : twoPow n = 2 ^ n := rfl

theorem tenPow_eq (n : ℕ) : tenPow n = 10 ^ n := rfl

namespace Binary64

theorem signWeight_eq : signWeight = 9223372036854775808 := by decide

theorem exponentWeight_eq : exponentWeight = 4503599627370496 := by decide

theorem infinityMagnitude_eq : infinityMagnitude = 9218868437227405312 := by decide

/-- The absolute value of a finite double. -/
def absValue (x : Binary64) : ℚ := x.significand * (2 : ℚ) ^ x.exponent

/-- The number that a finite double stands for. -/
def value (x : Binary64) : ℚ := if x.negative then -x.absValue else x.absValue

/-- The exponent and fraction bits are those that a double was built from. -/
theorem magnitude_ofMagnitude (negative : Bool) {m : Nat} (h : m < signWeight) :
    (ofMagnitude negative m).magnitude = m := by
  rw [signWeight_eq] at h
  simp only [magnitude, ofMagnitude, UInt64.toNat_ofNat', signWeight_eq]
  cases negative <;> simp <;> omega

/-- The sign is that which a double was built from. -/
theorem negative_ofMagnitude (negative : Bool) {m : Nat} (h : m < signWeight) :
    (ofMagnitude negative m).negative = negative := by
  rw [signWeight_eq] at h
  simp only [Binary64.negative, ofMagnitude, UInt64.toNat_ofNat', signWeight_eq]
  cases negative <;> simp <;> omega

/-- A double is made of its sign and of its exponent and fraction bits. -/
theorem ofMagnitude_magnitude (x : Binary64) : ofMagnitude x.negative x.magnitude = x := by
  obtain ⟨bits⟩ := x
  have hlt : bits.toNat < 18446744073709551616 := bits.toNat_lt
  simp only [ofMagnitude, negative, magnitude, signWeight_eq, decide_eq_true_eq]
  congr 1
  apply UInt64.toNat_inj.mp
  rw [UInt64.toNat_ofNat']
  split <;> omega

/-- A double with a sign and bits that read `k` binades above the least one, then `m` units. The
units may fill a binade and start the next one. -/
theorem absValue_of_magnitude {x : Binary64} {k m : Nat}
    (hx : x.magnitude = k * exponentWeight + m) (hm : m ≤ 2 * exponentWeight)
    (hk : k = 0 ∨ exponentWeight ≤ m) :
    x.absValue = m * (2 : ℚ) ^ ((k : ℤ) - 1074) := by
  rw [exponentWeight_eq] at *
  unfold absValue significand exponent
  rw [hx, exponentWeight_eq]
  by_cases hsmall : k * 4503599627370496 + m < 4503599627370496
  · have hk0 : k = 0 := by omega
    subst hk0
    have hdiv : (0 * 4503599627370496 + m) / 4503599627370496 = 0 := by omega
    rw [if_pos hsmall, hdiv]
    norm_num
  · rw [if_neg hsmall]
    by_cases hfull : m = 2 * 4503599627370496
    · have hdiv : (k * 4503599627370496 + m) / 4503599627370496 = k + 2 := by omega
      have hmod : (k * 4503599627370496 + m) % 4503599627370496 = 0 := by omega
      have hexp : (((max 1 (k + 2) : Nat) : ℤ) - 1075) = ((k : ℤ) - 1074) + 1 := by omega
      rw [hdiv, hmod, hexp, zpow_add₀ (by norm_num), hfull]
      push_cast
      ring
    · have hdiv : (k * 4503599627370496 + m) / 4503599627370496 = k + 1 := by omega
      have hmod : 4503599627370496 + (k * 4503599627370496 + m) % 4503599627370496 = m := by omega
      have hexp : (((max 1 (k + 1) : Nat) : ℤ) - 1075) = (k : ℤ) - 1074 := by omega
      rw [hdiv, hmod, hexp]

/-- An even number of units gives an even significand. -/
theorem significand_even_of_magnitude {x : Binary64} {k m : Nat}
    (hx : x.magnitude = k * exponentWeight + m) (heven : m % 2 = 0) : x.significand % 2 = 0 := by
  unfold significand
  rw [hx, exponentWeight_eq]
  split <;> omega

theorem significand_lt (x : Binary64) : x.significand < 2 * exponentWeight := by
  unfold significand
  rw [exponentWeight_eq]
  split <;> omega

theorem significand_pos {x : Binary64} (hpos : 0 < x.magnitude) : 0 < x.significand := by
  unfold significand
  rw [exponentWeight_eq]
  split <;> omega

/-- The bits of a double: binades above the least one, then the significand. -/
theorem magnitude_eq (x : Binary64) :
    x.magnitude = (x.exponent + 1074).toNat * exponentWeight + x.significand := by
  unfold significand exponent
  rw [exponentWeight_eq]
  split <;> omega

/-- Unless it is in the lowest binade, a double has a full significand. -/
theorem full_significand (x : Binary64) :
    exponentWeight ≤ x.significand ∨ x.exponent = -1074 := by
  unfold significand exponent
  rw [exponentWeight_eq]
  split <;> omega

theorem least_exponent (x : Binary64) : -1074 ≤ x.exponent := by
  unfold exponent
  omega

theorem absValue_nonneg (x : Binary64) : 0 ≤ x.absValue := by
  unfold absValue
  positivity

/-- The absolute value of a double is a multiple of a power of two, or less than the least number
that has a full significand there. -/
theorem absValue_on_grid (x : Binary64) (q : ℤ) :
    (∃ j : ℕ, x.absValue = j * (2 : ℚ) ^ q) ∨
      x.absValue < exponentWeight * (2 : ℚ) ^ q ∧ -1074 < q := by
  by_cases hq : q ≤ x.exponent
  · left
    obtain ⟨d, hd⟩ : ∃ d : ℕ, x.exponent = q + d := ⟨(x.exponent - q).toNat, by omega⟩
    refine ⟨x.significand * 2 ^ d, ?_⟩
    unfold absValue
    rw [hd, zpow_add₀ (by norm_num), zpow_natCast]
    push_cast
    ring
  · right
    have hleast := least_exponent x
    refine ⟨?_, by omega⟩
    have hsig : (x.significand : ℚ) < 2 * exponentWeight := by exact_mod_cast significand_lt x
    have hpow : (2 : ℚ) ^ x.exponent ≤ 2 ^ (q - 1) := zpow_le_zpow_right₀ (by norm_num) (by omega)
    calc x.absValue = x.significand * (2 : ℚ) ^ x.exponent := rfl
      _ ≤ x.significand * (2 : ℚ) ^ (q - 1) := by gcongr
      _ < 2 * exponentWeight * (2 : ℚ) ^ (q - 1) := by gcongr
      _ = exponentWeight * (2 : ℚ) ^ q := by
        rw [zpow_sub₀ (by norm_num)]
        ring

end Binary64

end TelemetryGate
