import TelemetryGate.Proofs.Binary64.Units

/-!
# Rounding to the nearest double

`ofRatio` gives the double nearest to a quotient, a tie going to the even significand: among all
finite doubles none is nearer, and if another one is as near, then the significand is even. Whole
numbers with at most 53 bits are doubles themselves.
-/

namespace TelemetryGate.Binary64

/-- A double is nearest to a rational number, a tie going to the even significand. -/
structure IsNearest (x : Binary64) (r : ℚ) : Prop where
  /-- The double is a number. -/
  finite : x.isFinite = true
  /-- No finite double is nearer. -/
  nearest : ∀ y : Binary64, y.isFinite = true → |x.value - r| ≤ |y.value - r|
  /-- A tie with another number went to the even significand. -/
  even : ∀ y : Binary64, y.isFinite = true → |y.value - r| = |x.value - r| →
    y.value = x.value ∨ x.significand % 2 = 0

/-- Among the absolute values of doubles none is nearer to a quotient than its units, and of two
that are as near the units are even. -/
theorem units_nearest {num den : ℕ} (hnum : 0 < num) (hden : 0 < den) (y : Binary64) :
    |units num den * (2 : ℚ) ^ unitExponent num den - num / den| ≤ |y.absValue - num / den| ∧
      (|y.absValue - num / den| = |units num den * (2 : ℚ) ^ unitExponent num den - num / den| →
        y.absValue = units num den * (2 : ℚ) ^ unitExponent num den ∨ units num den % 2 = 0) := by
  have hpos : (0 : ℚ) < (inUnits num den).2 := by exact_mod_cast inUnits_den_pos num hden
  have hscale : (0 : ℚ) < 2 ^ unitExponent num den / (inUnits num den).2 := by positivity
  have hunits := grid_distance num hden (units num den)
  push_cast at hunits
  rcases absValue_on_grid y (unitExponent num den) with ⟨j, hj⟩ | ⟨hless, hexp⟩
  · obtain ⟨hnear, heven⟩ :=
      roundHalfEven_spec (inUnits num den).1 (inUnits_den_pos num hden) j
    have hgrid := grid_distance num hden j
    push_cast at hgrid
    rw [hj, hgrid, hunits]
    constructor
    · exact mul_le_mul_of_nonneg_right (by exact_mod_cast hnear) hscale.le
    · intro heq
      have hdist := mul_right_cancel₀ hscale.ne' heq
      refine (heven (by exact_mod_cast hdist)).imp_left fun h => ?_
      rw [show j = units num den by exact_mod_cast h]
  · -- the least number with a full significand is a multiple of the unit and lies in between
    have hbinade : exponentWeight * (2 : ℚ) ^ unitExponent num den ≤ num / den := by
      have hle := exponentWeight_le_inUnits hnum hden hexp
      rw [zpow_neg] at hle
      calc exponentWeight * (2 : ℚ) ^ unitExponent num den
          ≤ num / den * (2 ^ unitExponent num den)⁻¹ * 2 ^ unitExponent num den := by gcongr
        _ = num / den := by field_simp
    have hnear := (roundHalfEven_spec (inUnits num den).1 (inUnits_den_pos num hden)
      exponentWeight).1
    have hgrid := grid_distance num hden exponentWeight
    push_cast at hgrid
    have hle : |units num den * (2 : ℚ) ^ unitExponent num den - num / den| ≤
        num / den - exponentWeight * (2 : ℚ) ^ unitExponent num den := by
      rw [← abs_of_nonneg (sub_nonneg.mpr hbinade), abs_sub_comm (num / den : ℚ), hgrid, hunits]
      exact mul_le_mul_of_nonneg_right (by exact_mod_cast hnear) hscale.le
    have hfar : |y.absValue - num / den| = num / den - y.absValue := by
      rw [abs_sub_comm, abs_of_nonneg (by linarith)]
    rw [hfar]
    exact ⟨by linarith, fun heq => by linarith⟩

/-- A double with the sign of a number is as far from it as the absolute values are apart; any other
double is farther away, unless it is zero. -/
theorem signed_distance (y : Binary64) (negative : Bool) {x : ℚ} (hx : 0 < x) :
    |y.absValue - x| ≤ |y.value - if negative then -x else x| ∧
      (|y.value - if negative then -x else x| = |y.absValue - x| →
        y.value = if negative then -y.absValue else y.absValue) := by
  have ha := absValue_nonneg y
  have hsame : |(-y.absValue) - -x| = |y.absValue - x| := by
    rw [abs_sub_comm]
    congr 1
    ring
  have hopposite : |y.absValue - x| ≤ y.absValue + x := abs_le.mpr ⟨by linarith, by linarith⟩
  have hzero : |y.absValue - x| = y.absValue + x → y.absValue = 0 := by
    intro h
    rcases abs_choice (y.absValue - x) with h' | h' <;> linarith
  unfold value
  cases y.negative <;> cases negative
  · simp
  · have hfar : |y.absValue - -x| = y.absValue + x := by
      rw [sub_neg_eq_add, abs_of_nonneg (by linarith)]
    simp only [if_true, Bool.false_eq_true, if_false, hfar]
    exact ⟨hopposite, fun h => by rw [hzero h.symm, neg_zero]⟩
  · have hfar : |-y.absValue - x| = y.absValue + x := by
      rw [abs_sub_comm, sub_neg_eq_add, abs_of_nonneg (by linarith), add_comm]
    simp only [if_true, Bool.false_eq_true, if_false, hfar]
    exact ⟨hopposite, fun h => by rw [hzero h.symm, neg_zero]⟩
  · simp only [if_true, hsame, le_refl, implies_true, and_self]

/-- Zero of either sign stands for zero. -/
theorem value_zero (negative : Bool) : (ofMagnitude negative 0).value = 0 := by
  cases negative <;> norm_num [value, absValue, significand, magnitude, ofMagnitude, signWeight,
    exponentWeight, twoPow]

/-- Below half of the least positive double nothing but zero is nearest. -/
theorem isNearest_zero_of_lt (negative : Bool) {r : ℚ} (h : |r| < 2 ^ (-1075 : ℤ)) :
    IsNearest (ofMagnitude negative 0) r := by
  have hfar (y : Binary64) (hy : y.value ≠ 0) : |r| < |y.value - r| := by
    have hleast : (2 : ℚ) ^ (-1074 : ℤ) ≤ |y.value| := by
      have habs : |y.value| = y.absValue := by
        unfold value
        split
        · rw [abs_neg, abs_of_nonneg (absValue_nonneg y)]
        · rw [abs_of_nonneg (absValue_nonneg y)]
      have hsignificand : (1 : ℚ) ≤ y.significand := by
        rw [Nat.one_le_cast, Nat.one_le_iff_ne_zero]
        intro hzero
        rw [← abs_ne_zero, habs, absValue, hzero, Nat.cast_zero, zero_mul] at hy
        exact hy rfl
      calc (2 : ℚ) ^ (-1074 : ℤ) ≤ 2 ^ y.exponent :=
            zpow_le_zpow_right₀ (by norm_num) (least_exponent y)
        _ ≤ y.significand * 2 ^ y.exponent := le_mul_of_one_le_left (by positivity) hsignificand
        _ = |y.value| := habs.symm
    have hhalf : (2 : ℚ) ^ (-1074 : ℤ) = 2 * 2 ^ (-1075 : ℤ) := by
      rw [← zpow_one_add₀ two_ne_zero]
      rfl
    have htriangle := abs_sub_abs_le_abs_sub y.value r
    linarith
  refine ⟨by cases negative <;> decide, fun y _ => ?_, fun y _ htie => ?_⟩
  · rw [value_zero, zero_sub, abs_neg]
    by_cases hy : y.value = 0
    · rw [hy, zero_sub, abs_neg]
    · exact (hfar y hy).le
  · rw [value_zero, zero_sub, abs_neg] at htie
    rw [value_zero]
    by_contra hnot
    exact absurd htie (hfar y (not_or.mp hnot).1).ne'

/-- Unless it is beyond the greatest finite double, a quotient is rounded to the double nearest to
it. -/
theorem ofRatio_isNearest (negative : Bool) (num : ℕ) {den : ℕ} (hden : 0 < den)
    (hfinite : (ofRatio negative num den).isFinite = true) :
    IsNearest (ofRatio negative num den) (if negative then -(num / den : ℚ) else num / den) := by
  rcases Nat.eq_zero_or_pos num with rfl | hnum
  · have hzero : ofRatio negative 0 den = ofMagnitude negative 0 := if_pos rfl
    have hnum : (if negative then -((0 : ℕ) / den : ℚ) else (0 : ℕ) / den) = 0 := by simp
    rw [hzero, hnum]
    exact isNearest_zero_of_lt negative (by norm_num)
  have hquotient : (0 : ℚ) < num / den := by positivity
  have hvalue := value_ofRatio hnum hden hfinite
  have hdistance :
      |(ofRatio negative num den).value - if negative then -(num / den : ℚ) else num / den| =
        |units num den * (2 : ℚ) ^ unitExponent num den - num / den| := by
    rw [hvalue]
    cases negative
    · rfl
    · simp only [if_true]
      rw [neg_sub_neg, abs_sub_comm]
  refine ⟨hfinite, fun y _ => ?_, fun y _ heq => ?_⟩
  · rw [hdistance]
    exact (units_nearest hnum hden y).1.trans (signed_distance y negative hquotient).1
  · rw [hdistance] at heq
    obtain ⟨hnear, heven⟩ := units_nearest hnum hden y
    obtain ⟨hle, hsign⟩ := signed_distance y negative hquotient
    rcases heven (le_antisymm (hle.trans heq.le) hnear) with h | h
    · left
      rw [hsign (le_antisymm (heq.le.trans hnear) hle), h, hvalue]
    · exact .inr (significand_even_ofRatio hnum hfinite h)

/-- Below `2 ^ 1023` nothing is rounded to infinity. -/
theorem isFinite_ofRatio (negative : Bool) {num den k : ℕ} (hden : 0 < den) (hk : k ≤ 1023)
    (h : (num / den : ℚ) < 2 ^ k) : (ofRatio negative num den).isFinite = true := by
  rcases Nat.eq_zero_or_pos num with rfl | hnum
  · rw [ofRatio, if_pos rfl]
    cases negative <;> decide
  have hlog : floorLogTwo num den < k := by
    have hlt : (2 : ℚ) ^ floorLogTwo num den < 2 ^ (k : ℤ) := by
      rw [zpow_natCast]
      exact (floorLogTwo_spec hnum hden).1.trans_lt h
    exact (zpow_lt_zpow_iff_right₀ (by norm_num)).mp hlt
  have hexp : (unitExponent num den + 1074).toNat ≤ 2044 := by
    unfold unitExponent
    omega
  have hunits : units num den ≤ 2 * exponentWeight := units_le hnum hden
  rw [ofRatio_eq hnum, isFinite, magnitude_ofMagnitude]
  · rw [decide_eq_true_eq, min_lt_iff]
    left
    rw [exponentWeight_eq] at *
    rw [infinityMagnitude_eq]
    omega
  · rw [infinityMagnitude_eq, signWeight_eq]
    omega

/-- Below `2 ^ 64` no whole number is rounded to infinity. -/
theorem isFinite_ofRatio_one (negative : Bool) {n : ℕ} (h : n < 2 ^ 64) :
    (ofRatio negative n 1).isFinite = true := by
  refine isFinite_ofRatio (k := 64) negative one_pos (by norm_num) ?_
  rw [Nat.cast_one, div_one]
  exact_mod_cast h

/-- Whole numbers up to `2 ^ 53` are doubles. -/
theorem units_exact {n : ℕ} (hn : 0 < n) (h : n ≤ 2 ^ 53) :
    (units n 1 : ℚ) * 2 ^ unitExponent n 1 = n := by
  rcases h.eq_or_lt with rfl | hlt
  · have hexp : unitExponent (2 ^ 53) 1 = 1 := by decide +kernel
    have hunits : units (2 ^ 53) 1 = 2 ^ 52 := by decide +kernel
    rw [hexp, hunits]
    norm_num
  have hexp : unitExponent n 1 ≤ 0 := by
    have hlow := (floorLogTwo_spec hn one_pos).1
    have hlt : (2 : ℚ) ^ floorLogTwo n 1 < 2 ^ (53 : ℤ) := by
      refine hlow.trans_lt ?_
      have : (n : ℚ) < 2 ^ 53 := by exact_mod_cast hlt
      simpa using this
    have := (zpow_lt_zpow_iff_right₀ (by norm_num)).mp hlt
    unfold unitExponent
    omega
  have hden : (inUnits n 1).2 = 1 := by
    have hzero : (- -unitExponent n 1).toNat = 0 := by omega
    simp only [inUnits, timesTwoPow, hzero]
    rfl
  have hunits : units n 1 = (inUnits n 1).1 := by
    simp [units, hden, roundHalfEven, Nat.mod_one]
  have hquotient := inUnits_quotient n 1
  rw [hden, ← hunits] at hquotient
  rw [Nat.cast_one, div_one, div_one, zpow_neg] at hquotient
  rw [hquotient]
  field_simp

/-- A whole number of 64 bits is rounded to the double nearest to it. -/
theorem ofInt_isNearest {i : ℤ} (h : i.natAbs < 2 ^ 64) : IsNearest (ofInt i) i := by
  have hnearest := ofRatio_isNearest (i < 0) i.natAbs one_pos (isFinite_ofRatio_one _ h)
  have hvalue : (if decide (i < 0) = true then -((i.natAbs : ℚ) / (1 : ℕ))
      else (i.natAbs : ℚ) / (1 : ℕ)) = i := by
    rw [Nat.cast_one, div_one, Nat.cast_natAbs]
    by_cases hi : i < 0
    · simp [hi, abs_of_neg hi]
    · simp [hi, abs_of_nonneg (not_lt.mp hi)]
  rw [hvalue] at hnearest
  exact hnearest

/-- A whole number of at most 53 bits stays as it is. -/
theorem value_ofInt {i : ℤ} (h : i.natAbs ≤ 2 ^ 53) : (ofInt i).value = i := by
  have hfinite := isFinite_ofRatio_one (i < 0) (h.trans_lt (by norm_num))
  rcases Nat.eq_zero_or_pos i.natAbs with hzero | hpos
  · rw [Int.natAbs_eq_zero] at hzero
    subst hzero
    exact_mod_cast value_zero false
  · rw [ofInt, value_ofRatio hpos one_pos hfinite, units_exact hpos h, Nat.cast_natAbs]
    by_cases hi : i < 0
    · simp [hi, abs_of_neg hi]
    · simp [hi, abs_of_nonneg (not_lt.mp hi)]

end TelemetryGate.Binary64
