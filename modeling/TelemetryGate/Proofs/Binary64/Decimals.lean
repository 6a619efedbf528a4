import TelemetryGate.Proofs.Binary64.Nearest
import TelemetryGate.Proofs.Binary64.Shortest

/-!
# Reading decimals

A decimal is read as the double nearest to it, whether it is rounded as a quotient or its exponent
alone decides. So a double is read back from its shortest decimal, and from every other one with the
same value.
-/

namespace TelemetryGate.Binary64

/-- A decimal place is more than three binary ones. -/
theorem two_pow_le_ten_pow {k n : ℕ} (h : k ≤ 3 * n) : 2 ^ k ≤ 10 ^ n := by
  calc 2 ^ k ≤ 2 ^ (3 * n) := Nat.pow_le_pow_right two_pos h
    _ = (2 ^ 3) ^ n := pow_mul 2 3 n
    _ ≤ 10 ^ n := Nat.pow_le_pow_left (by decide) n

/-- The powers of two around all positive doubles lie between powers of ten. -/
theorem powers_of_range : (2 : ℚ) ^ (1024 : ℤ) ≤ 10 ^ (401 : ℤ) ∧
    (10 : ℚ) ^ (-401 : ℤ) ≤ 2 ^ (-1075 : ℤ) := by
  have hmost : (2 : ℚ) ^ 1024 ≤ 10 ^ 401 := by exact_mod_cast two_pow_le_ten_pow (by decide)
  have hleast : (2 : ℚ) ^ 1075 ≤ 10 ^ 401 := by exact_mod_cast two_pow_le_ten_pow (by decide)
  rw [zpow_neg, zpow_neg]
  exact ⟨by exact_mod_cast hmost, inv_anti₀ (by positivity) (by exact_mod_cast hleast)⟩

/-- A decimal whose exponent makes it zero is less than half of the least positive double. -/
theorem decimal_lt {digits : ℕ} {e : ℤ} (h : e + ((digits.log2 : ℤ) / 3 + 1) < -400) :
    digits * (10 : ℚ) ^ e < 2 ^ (-1075 : ℤ) := by
  have hplaces : (digits : ℚ) < 10 ^ ((digits.log2 : ℤ) / 3 + 1) := by
    have hlt : digits < 10 ^ (digits.log2 / 3 + 1) :=
      Nat.lt_log2_self.trans_le (two_pow_le_ten_pow (by omega))
    exact_mod_cast hlt
  calc digits * (10 : ℚ) ^ e < 10 ^ ((digits.log2 : ℤ) / 3 + 1) * 10 ^ e := by gcongr
    _ = 10 ^ (e + ((digits.log2 : ℤ) / 3 + 1)) := by rw [← zpow_add₀ (by norm_num), add_comm]
    _ ≤ 10 ^ (-401 : ℤ) := zpow_le_zpow_right₀ (by norm_num) (by omega)
    _ ≤ 2 ^ (-1075 : ℤ) := powers_of_range.2

/-- A decimal as a quotient of whole numbers. -/
theorem decimal_quotient (digits : ℕ) (e : ℤ) :
    (((digits * tenPow e.toNat : ℕ) : ℚ) / (tenPow (-e).toNat : ℕ)) = digits * 10 ^ e := by
  rw [tenPow_eq, tenPow_eq, zpow_eq_div (by norm_num), mul_div_assoc']
  push_cast
  rfl

/-- A decimal that is neither beyond all doubles nor below all of them is rounded as a quotient. -/
theorem ofDecimal_eq_ofRatio {digits : ℕ} {e : ℤ} (negative : Bool)
    (hleast : (2 : ℚ) ^ (-1075 : ℤ) ≤ digits * 10 ^ e)
    (hmost : digits * (10 : ℚ) ^ e < 2 ^ (1024 : ℤ)) :
    ofDecimal negative digits e =
      ofRatio negative (digits * tenPow e.toNat) (tenPow (-e).toNat) := by
  have hdigits : digits ≠ 0 := by
    rintro rfl
    rw [Nat.cast_zero, zero_mul] at hleast
    exact absurd hleast (not_le.mpr (by positivity))
  have hmany : (1 : ℚ) ≤ digits := by exact_mod_cast Nat.one_le_iff_ne_zero.mpr hdigits
  have hgreat : ¬ e > 400 := by
    intro hgreat
    have hbeyond : (10 : ℚ) ^ (401 : ℤ) ≤ 10 ^ e := zpow_le_zpow_right₀ (by norm_num) (by omega)
    have hmore : (10 : ℚ) ^ e ≤ digits * 10 ^ e := le_mul_of_one_le_left (by positivity) hmany
    exact absurd hmost (not_lt.mpr ((powers_of_range.1.trans hbeyond).trans hmore))
  have hsmall : ¬ e + ((digits.log2 : ℤ) / 3 + 1) < -400 := fun hsmall =>
    absurd (decimal_lt hsmall) (not_lt.mpr hleast)
  rw [ofDecimal, if_neg hdigits, if_neg hgreat, if_neg hsmall]

/-- The numbers that are rounded to a finite double other than zero have bounds. -/
theorem bounds_of_contains {x : Binary64} (hfinite : x.isFinite = true) (hpos : 0 < x.magnitude)
    {r : ℚ} (h : x.interval.Contains r) : (2 : ℚ) ^ (-1075 : ℤ) ≤ r ∧ r < 2 ^ (1024 : ℤ) := by
  have hnear := abs_le.mp (near_of_contains h).1
  have hunit : (0 : ℚ) < 2 ^ x.exponent := by positivity
  have hone : (1 : ℚ) ≤ x.significand := by exact_mod_cast significand_pos hpos
  have hlt : (x.significand : ℚ) + 1 ≤ 2 ^ (53 : ℤ) := by
    have := significand_lt x
    rw [exponentWeight_eq] at this
    norm_cast
  constructor
  · calc (2 : ℚ) ^ (-1075 : ℤ) = 2 ^ (-1074 : ℤ) / 2 := by
          rw [div_eq_mul_inv, ← zpow_sub_one₀ two_ne_zero]
          rfl
      _ ≤ 2 ^ x.exponent / 2 := by
        gcongr
        · norm_num
        · exact least_exponent x
      _ ≤ (x.significand - 1 / 2) * 2 ^ x.exponent := by
        rw [div_eq_inv_mul]
        gcongr
        linarith
      _ ≤ r := by linarith
  · have hexponent : x.exponent ≤ 971 := by
      have hless : x.magnitude < infinityMagnitude := by simpa [isFinite] using hfinite
      have hbinade : x.magnitude / exponentWeight < 2047 := by
        rw [Nat.div_lt_iff_lt_mul (by rw [exponentWeight_eq]; decide)]
        exact hless
      unfold exponent
      omega
    calc r ≤ (x.significand + 1 / 2) * 2 ^ x.exponent := by linarith
      _ < 2 ^ (53 : ℤ) * 2 ^ x.exponent := by gcongr; linarith
      _ ≤ 2 ^ (53 : ℤ) * 2 ^ (971 : ℤ) := by
        gcongr
        norm_num
      _ = 2 ^ (1024 : ℤ) := by
        rw [← zpow_add₀ two_ne_zero]
        rfl

/-- A decimal in the interval of a double is rounded to it. -/
theorem ofDecimal_of_contains {x : Binary64} (hfinite : x.isFinite = true) (hpos : 0 < x.magnitude)
    {digits : ℕ} {e : ℤ} (h : x.interval.Contains (digits * (10 : ℚ) ^ e)) :
    ofDecimal x.negative digits e = x := by
  obtain ⟨hleast, hmost⟩ := bounds_of_contains hfinite hpos h
  have hdigits : 0 < digits := by
    have hpositive : (0 : ℚ) < digits * 10 ^ e := lt_of_lt_of_le (by positivity) hleast
    exact_mod_cast pos_of_mul_pos_left hpositive (by positivity)
  have hten (k : ℕ) : 0 < tenPow k := Nat.pow_pos (by decide)
  rw [ofDecimal_eq_ofRatio x.negative hleast hmost]
  refine ofRatio_of_contains hfinite (Nat.mul_pos hdigits (hten _)) (hten _) ?_
  rwa [decimal_quotient]

/-- A finite double is read back from every decimal with the value of its shortest one. -/
theorem ofDecimal_of_shortest {x : Binary64} (hfinite : x.isFinite = true) (tie : TieRule)
    {digits : ℕ} {e : ℤ} (h : digits * (10 : ℚ) ^ e = (x.shortest tie).value) :
    ofDecimal x.negative digits e = x := by
  rcases Nat.eq_zero_or_pos x.magnitude with hzero | hpos
  · have hshortest : x.shortest tie = ⟨0, 0⟩ := if_pos hzero
    have hdigits : digits = 0 := by
      rw [hshortest, Decimal.value, Nat.cast_zero, zero_mul] at h
      exact_mod_cast (mul_eq_zero.mp h).resolve_right (by positivity)
    rw [ofDecimal, if_pos hdigits, ← hzero, ofMagnitude_magnitude]
  · exact ofDecimal_of_contains hfinite hpos (h ▸ contains_shortest hpos tie)

/-! ## The nearest double -/

/-- Unless it is beyond the greatest finite double, a decimal is read as the double nearest to it. -/
theorem ofDecimal_isNearest (negative : Bool) (digits : ℕ) (e : ℤ)
    (hfinite : (ofDecimal negative digits e).isFinite = true) :
    IsNearest (ofDecimal negative digits e)
      (if negative then -(digits * (10 : ℚ) ^ e) else digits * 10 ^ e) := by
  unfold ofDecimal at hfinite ⊢
  by_cases hdigits : digits = 0
  case pos =>
    rw [if_pos hdigits, hdigits, Nat.cast_zero, zero_mul, neg_zero, ite_self]
    exact isNearest_zero_of_lt negative (by norm_num)
  rw [if_neg hdigits] at hfinite ⊢
  by_cases hgreat : e > 400
  case pos =>
    rw [if_pos hgreat] at hfinite
    cases negative <;> exact absurd hfinite (by decide)
  rw [if_neg hgreat] at hfinite ⊢
  by_cases hsmall : e + ((digits.log2 : ℤ) / 3 + 1) < -400
  case pos =>
    rw [if_pos hsmall]
    apply isNearest_zero_of_lt
    have habs : |if negative then -(digits * (10 : ℚ) ^ e) else digits * 10 ^ e| =
        digits * 10 ^ e := by
      have hnonneg : (0 : ℚ) ≤ digits * 10 ^ e := by positivity
      split
      · rw [abs_neg, abs_of_nonneg hnonneg]
      · exact abs_of_nonneg hnonneg
    rw [habs]
    exact decimal_lt hsmall
  rw [if_neg hsmall] at hfinite ⊢
  rw [← decimal_quotient]
  exact ofRatio_isNearest negative _ (Nat.pow_pos (by decide)) hfinite

end TelemetryGate.Binary64
