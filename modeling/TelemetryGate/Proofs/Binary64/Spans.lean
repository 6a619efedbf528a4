import TelemetryGate.AssociationId
import TelemetryGate.Proofs.Wire.Fidelity

/-!
# Spans of time

A span is rounded four times on its way to milliseconds: its whole seconds, the rest of them, their
sum, and the product. Each of these roundings at most doubles a number, so that no span comes near
the greatest double, and what is measured is reported.
-/

namespace TelemetryGate.Binary64

/-- A double is a number that is not negative, with a bound. -/
structure Within (x : Binary64) (bound : ℚ) : Prop where
  /-- The double is a number. -/
  finite : x.isFinite = true
  /-- It is not negative. -/
  positive : x.negative = false
  /-- The bound. -/
  le : x.absValue ≤ bound

/-- A double as numerator and denominator. -/
theorem ratio_quotient (x : Binary64) : (x.ratio.1 / x.ratio.2 : ℚ) = x.absValue := by
  rw [ratio, timesTwoPow_quotient, Nat.cast_one, div_one, absValue]

theorem ratio_den_pos (x : Binary64) : 0 < x.ratio.2 := timesTwoPow_den_pos _ one_pos _

/-- Rounding at most doubles a quotient, for zero is a double. -/
theorem within_ofRatio {num den k : ℕ} (hden : 0 < den) (hk : k < 1023)
    (h : (num / den : ℚ) ≤ 2 ^ k) : (ofRatio false num den).Within (2 ^ (k + 1)) := by
  have hlt : (num / den : ℚ) < 2 ^ (k + 1) :=
    h.trans_lt (pow_lt_pow_right₀ (by norm_num) (Nat.lt_succ_self k))
  have hfinite := isFinite_ofRatio false hden hk hlt
  have hpositive := negative_ofRatio false num den
  refine ⟨hfinite, hpositive, ?_⟩
  have hquotient : (0 : ℚ) ≤ num / den := by positivity
  have hnear := (ofRatio_isNearest false num hden hfinite).nearest (ofMagnitude false 0) (by decide)
  simp only [Bool.false_eq_true, if_false, value_zero, zero_sub, abs_neg,
    abs_of_nonneg hquotient] at hnear
  rw [value, hpositive, if_neg Bool.false_ne_true] at hnear
  have hle := (le_abs_self _).trans hnear
  calc (ofRatio false num den).absValue
      ≤ num / den + num / den := by linarith only [hle]
    _ ≤ 2 ^ k + 2 ^ k := by gcongr
    _ = 2 ^ (k + 1) := by ring

theorem within_ofNat {n k : ℕ} (hk : k < 1023) (h : n ≤ 2 ^ k) :
    (ofNat n).Within (2 ^ (k + 1)) := by
  refine within_ofRatio one_pos hk ?_
  rw [Nat.cast_one, div_one]
  exact_mod_cast h

section Arithmetic

variable {x y : Binary64} {j k : ℕ}

theorem Within.plus (hx : x.Within (2 ^ k)) (hy : y.Within (2 ^ k)) (hk : k < 1022) :
    (x.plus y).Within (2 ^ (k + 2)) := by
  refine within_ofRatio (Nat.mul_pos x.ratio_den_pos y.ratio_den_pos) (k := k + 1) (by omega) ?_
  have hxpos : (x.ratio.2 : ℚ) ≠ 0 := by exact_mod_cast x.ratio_den_pos.ne'
  have hypos : (y.ratio.2 : ℚ) ≠ 0 := by exact_mod_cast y.ratio_den_pos.ne'
  push_cast
  calc (x.ratio.1 * y.ratio.2 + y.ratio.1 * x.ratio.2 : ℚ) / (x.ratio.2 * y.ratio.2)
      = x.ratio.1 / x.ratio.2 + y.ratio.1 / y.ratio.2 := by field_simp
    _ ≤ 2 ^ k + 2 ^ k := by
      rw [ratio_quotient, ratio_quotient]
      exact add_le_add hx.le hy.le
    _ = 2 ^ (k + 1) := by ring

theorem Within.mul (hx : x.Within (2 ^ j)) (hy : y.Within (2 ^ k)) (hsum : j + k < 1023) :
    (x.mul y).Within (2 ^ (j + k + 1)) := by
  rw [Binary64.mul, hx.positive, hy.positive]
  refine within_ofRatio (Nat.mul_pos x.ratio_den_pos y.ratio_den_pos) hsum ?_
  push_cast
  rw [mul_div_mul_comm, ratio_quotient, ratio_quotient, pow_add]
  exact mul_le_mul hx.le hy.le y.absValue_nonneg (by positivity)

/-- A divisor that is at least one makes nothing greater. -/
theorem Within.div (hx : x.Within (2 ^ k)) (hy : y.negative = false) (hone : 1 ≤ y.absValue)
    (hk : k < 1023) : (x.div y).Within (2 ^ (k + 1)) := by
  rw [Binary64.div, hx.positive, hy]
  have hnum : 0 < y.ratio.1 := by
    rw [← ratio_quotient] at hone
    by_contra hzero
    rw [Nat.eq_zero_of_not_pos hzero, Nat.cast_zero, zero_div] at hone
    exact absurd hone (by norm_num)
  refine within_ofRatio (Nat.mul_pos x.ratio_den_pos hnum) hk ?_
  push_cast
  calc (x.ratio.1 * y.ratio.2 : ℚ) / (x.ratio.2 * y.ratio.1)
      = x.absValue / y.absValue := by
        rw [← ratio_quotient x, ← ratio_quotient y, div_div_div_eq]
    _ ≤ x.absValue := div_le_self x.absValue_nonneg hone
    _ ≤ 2 ^ k := hx.le

end Arithmetic

end TelemetryGate.Binary64

namespace TelemetryGate

open Binary64 (Within within_ofNat)

/-- Spans of less than `2 ^ 64` seconds are no more than `2 ^ 79` milliseconds. -/
theorem within_elapsedMillis {nanoseconds : Nat} (h : nanoseconds < 2 ^ 64 * tenPow 9) :
    (elapsedMillis nanoseconds).Within (2 ^ 79) := by
  have hseconds : nanoseconds / tenPow 9 ≤ 2 ^ 64 := by
    rw [Nat.mul_comm] at h
    exact (Nat.div_lt_of_lt_mul h).le
  have hrest : nanoseconds % tenPow 9 ≤ 2 ^ 63 :=
    (Nat.mod_lt _ (by decide)).le.trans (by decide)
  have hbillion : (Binary64.ofNat (tenPow 9)).value = 10 ^ 9 := by
    have hexact := Binary64.value_ofInt (i := (tenPow 9 : Nat)) (by decide)
    exact hexact.trans (by norm_num [tenPow])
  have hpositive : (Binary64.ofNat (tenPow 9)).negative = false := Binary64.negative_ofRatio _ _ _
  rw [Binary64.value, hpositive, if_neg Bool.false_ne_true] at hbillion
  have hpart := (within_ofNat (by norm_num) hrest).div hpositive (by rw [hbillion]; norm_num)
    (by norm_num)
  have hsum := (within_ofNat (by norm_num) hseconds).plus hpart (by norm_num)
  exact hsum.mul (within_ofNat (k := 10) (by norm_num) (by norm_num)) (by norm_num)

/-- The milliseconds of a span of less than `2 ^ 64` seconds are not negative, and are reported as
they are. -/
theorem reported_elapsedMillis {nanoseconds : Nat} (h : nanoseconds < 2 ^ 64 * tenPow 9) :
    (elapsedMillis nanoseconds).negative = false ∧
      (Quantity.real (elapsedMillis nanoseconds)).reported = some (elapsedMillis nanoseconds) := by
  have hwithin := within_elapsedMillis h
  exact ⟨hwithin.positive, Quantity.reported_eq_some.mpr ⟨hwithin.finite, rfl⟩⟩

end TelemetryGate
