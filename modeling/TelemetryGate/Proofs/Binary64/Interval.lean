import TelemetryGate.Binary64.Shortest
import TelemetryGate.Proofs.Binary64.Units

/-!
# The quotients that round to a double

The interval of a double holds the quotients that are rounded to it. A double is a whole number of
units of its own binade; a quotient of its interval that lies in the same binade has that number of
units. Only a power of two has an interval that reaches into the binade below, where the units are
half as great and the double is twice as many of them.
-/

namespace TelemetryGate.Binary64

section Units

variable {x : Binary64} {num den units : ℕ} {q : ℤ}

/-- A quotient is measured in the units of its binade. -/
theorem unitExponent_eq (hnum : 0 < num) (hden : 0 < den)
    (hlow : exponentWeight * (2 : ℚ) ^ q ≤ num / den ∨ q = -1074) (hleast : -1074 ≤ q)
    (hhigh : (num / den : ℚ) < 2 * exponentWeight * 2 ^ q) : unitExponent num den = q := by
  obtain ⟨hfloor, hceil⟩ := floorLogTwo_spec hnum hden
  have hweight : (exponentWeight : ℚ) = 2 ^ (52 : ℤ) := by
    rw [exponentWeight_eq]
    norm_num
  have hle : floorLogTwo num den < 53 + q := by
    refine (zpow_lt_zpow_iff_right₀ (one_lt_two : (1 : ℚ) < 2)).mp (hfloor.trans_lt ?_)
    refine hhigh.trans_eq ?_
    rw [hweight, zpow_add₀ two_ne_zero]
    norm_num
  rcases hlow with hlow | rfl
  · have hge : 52 + q < floorLogTwo num den + 1 := by
      refine (zpow_lt_zpow_iff_right₀ (one_lt_two : (1 : ℚ) < 2)).mp (lt_of_le_of_lt ?_ hceil)
      rwa [zpow_add₀ two_ne_zero, ← hweight]
    unfold unitExponent
    omega
  · unfold unitExponent
    omega

/-- A quotient is rounded to a double if it is at most half a unit away from it, or less if the
double is an odd number of units. -/
theorem ofRatio_eq_of_near (hfinite : x.isFinite = true) (hnum : 0 < num) (hden : 0 < den)
    (hmagnitude : x.magnitude = (q + 1074).toNat * exponentWeight + units)
    (hunit : unitExponent num den = q)
    (hnear : |units * (2 : ℚ) ^ q - num / den| ≤ 2 ^ q / 2)
    (hodd : units % 2 = 1 → |units * (2 : ℚ) ^ q - num / den| < 2 ^ q / 2) :
    ofRatio x.negative num den = x := by
  have hscale : (0 : ℚ) < 2 ^ q / (inUnits num den).2 := by
    have : (0 : ℚ) < (inUnits num den).2 := by exact_mod_cast inUnits_den_pos num hden
    positivity
  have hdistance := grid_distance num hden units
  rw [hunit, Int.cast_natCast] at hdistance
  have hhalf : (2 : ℚ) ^ q / 2 = (inUnits num den).2 / 2 * (2 ^ q / (inUnits num den).2) := by
    have : ((inUnits num den).2 : ℚ) ≠ 0 := by exact_mod_cast (inUnits_den_pos num hden).ne'
    field_simp
  have hunits : Binary64.units num den = units := by
    refine roundHalfEven_eq (inUnits_den_pos num hden) ?_ fun h => ?_
    · rw [hdistance, hhalf, mul_le_mul_iff_left₀ hscale, le_div_iff₀' two_pos] at hnear
      exact_mod_cast hnear
    · have hless := hodd h
      rw [hdistance, hhalf, mul_lt_mul_iff_left₀ hscale, lt_div_iff₀' two_pos] at hless
      exact_mod_cast hless
  have hless : x.magnitude < infinityMagnitude := by simpa [isFinite] using hfinite
  rw [ofRatio_eq hnum, hunit, hunits, ← hmagnitude, min_eq_left hless.le, ofMagnitude_magnitude]

end Units

/-! ## The interval -/

/-- A rational number lies in an interval. -/
def RoundingInterval.Contains (i : RoundingInterval) (r : ℚ) : Prop :=
  if i.closed then i.low * (2 : ℚ) ^ i.scale ≤ r ∧ r ≤ i.high * (2 : ℚ) ^ i.scale
  else i.low * (2 : ℚ) ^ i.scale < r ∧ r < i.high * (2 : ℚ) ^ i.scale

theorem RoundingInterval.Contains.le {i : RoundingInterval} {r : ℚ} (h : i.Contains r) :
    i.low * (2 : ℚ) ^ i.scale ≤ r ∧ r ≤ i.high * (2 : ℚ) ^ i.scale := by
  unfold Contains at h
  split at h
  · exact h
  · exact h.imp le_of_lt le_of_lt

theorem RoundingInterval.Contains.lt {i : RoundingInterval} {r : ℚ} (h : i.Contains r)
    (hopen : i.closed = false) :
    i.low * (2 : ℚ) ^ i.scale < r ∧ r < i.high * (2 : ℚ) ^ i.scale := by
  unfold Contains at h
  rwa [if_neg (by simp [hopen])] at h

/-- A decimal is tried for an interval by comparing whole numbers. -/
theorem RoundingInterval.holds_iff (i : RoundingInterval) (n : ℕ) (p : ℤ) :
    i.holds n p = true ↔ i.Contains (n * (10 : ℚ) ^ p) := by
  have hhere : (n * (10 : ℚ) ^ p) =
      n * 10 ^ p.toNat * 2 ^ (-i.scale).toNat / (10 ^ (-p).toNat * 2 ^ (-i.scale).toNat) := by
    rw [zpow_eq_div (by norm_num) p]
    field_simp
  have hend (k : ℕ) : (k * (2 : ℚ) ^ i.scale) =
      k * (10 ^ (-p).toNat * 2 ^ i.scale.toNat) / (10 ^ (-p).toNat * 2 ^ (-i.scale).toNat) := by
    rw [zpow_eq_div (by norm_num) i.scale]
    field_simp
  have hpos : (0 : ℚ) < 10 ^ (-p).toNat * 2 ^ (-i.scale).toNat := by positivity
  rw [holds, Contains, hhere, hend, hend]
  cases i.closed <;> simp only [Bool.and_eq_true, decide_eq_true_eq, if_true, Bool.false_eq_true,
    if_false, div_le_div_iff_of_pos_right hpos, div_lt_div_iff_of_pos_right hpos]
  · rw [tenPow_eq, tenPow_eq, twoPow_eq, twoPow_eq]
    norm_cast
  · rw [tenPow_eq, tenPow_eq, twoPow_eq, twoPow_eq]
    norm_cast

section Interval

variable {x : Binary64}

/-- The ends of an interval, in units of the last place. -/
theorem interval_scale (x : Binary64) : (2 : ℚ) ^ x.interval.scale = 2 ^ x.exponent / 4 := by
  change (2 : ℚ) ^ (x.exponent - 2) = _
  rw [zpow_sub₀ two_ne_zero]
  norm_num

/-- What lies in the interval of a double is at most half a unit of its last place away from it, and
less if the significand is odd. -/
theorem near_of_contains {r : ℚ} (h : x.interval.Contains r) :
    |x.significand * (2 : ℚ) ^ x.exponent - r| ≤ 2 ^ x.exponent / 2 ∧
      (x.significand % 2 = 1 → |x.significand * (2 : ℚ) ^ x.exponent - r| < 2 ^ x.exponent / 2) := by
  have hlow : (4 * x.significand - 2 : ℚ) ≤ x.interval.low := by
    have hlow : 4 * x.significand ≤ x.interval.low + 2 := by
      simp only [interval]
      split <;> omega
    have hlow' : (4 * x.significand : ℚ) ≤ x.interval.low + 2 := by exact_mod_cast hlow
    linarith
  have hhigh : (x.interval.high : ℚ) = 4 * x.significand + 2 := by
    change ((4 * x.significand + 2 : ℕ) : ℚ) = _
    push_cast
    ring
  have hunit : (0 : ℚ) < 2 ^ x.exponent := by positivity
  have hbelow : (4 * x.significand - 2) * ((2 : ℚ) ^ x.exponent / 4) ≤
      x.interval.low * (2 ^ x.exponent / 4) := by gcongr
  constructor
  · obtain ⟨hge, hle⟩ := h.le
    rw [interval_scale] at hge hle
    rw [hhigh] at hle
    exact abs_le.mpr ⟨by linarith, by linarith⟩
  · intro hodd
    obtain ⟨hgt, hlt⟩ := h.lt (beq_false_of_ne (by omega))
    rw [interval_scale] at hgt hlt
    rw [hhigh] at hlt
    exact abs_lt.mpr ⟨by linarith, by linarith⟩

/-- Below its own binade the interval of a double holds nothing, unless the double is the least one
of its binade. Then it reaches down to a quarter of a unit. -/
theorem least_of_contains {r : ℚ} (h : x.interval.Contains r)
    (hbelow : r < exponentWeight * (2 : ℚ) ^ x.exponent) (hexponent : x.exponent ≠ -1074) :
    x.significand = exponentWeight ∧
      (2 * exponentWeight - 1 / 2) * (2 : ℚ) ^ (x.exponent - 1) ≤ r := by
  have hfull : exponentWeight ≤ x.significand := (full_significand x).resolve_right hexponent
  have hunit : (0 : ℚ) < 2 ^ x.exponent := by positivity
  have hnear := (abs_le.mp (near_of_contains h).1).2
  have hleast : x.significand = exponentWeight := by
    have hlt : (x.significand : ℚ) - 1 / 2 < exponentWeight := by
      refine lt_of_mul_lt_mul_right ?_ hunit.le
      linarith
    have hlt' : (x.significand : ℚ) < (exponentWeight + 1 : ℕ) := by
      push_cast
      linarith
    have hnat : x.significand < exponentWeight + 1 := by exact_mod_cast hlt'
    omega
  refine ⟨hleast, ?_⟩
  have hbinade : 1 < x.magnitude / exponentWeight := by
    unfold exponent at hexponent
    omega
  have hlow : x.interval.low = 4 * exponentWeight - 1 := by
    rw [← hleast]
    exact if_pos ⟨hleast, hbinade⟩
  have hge := h.le.1
  rw [hlow, interval_scale, exponentWeight_eq] at hge
  rw [zpow_sub_one₀ two_ne_zero, exponentWeight_eq]
  norm_num at hge ⊢
  linarith

/-- A quotient in the interval of a double that lies in the binade below is rounded to it. -/
theorem ofRatio_of_contains_below (hfinite : x.isFinite = true) {num den : ℕ} (hnum : 0 < num)
    (hden : 0 < den) (h : x.interval.Contains (num / den))
    (hbelow : (num / den : ℚ) < exponentWeight * 2 ^ x.exponent) (hexponent : x.exponent ≠ -1074) :
    ofRatio x.negative num den = x := by
  have hleast := least_exponent x
  obtain ⟨hsignificand, hlow⟩ := least_of_contains h hbelow hexponent
  have hunit : (2 : ℚ) ^ x.exponent = 2 * 2 ^ (x.exponent - 1) := by
    rw [zpow_sub_one₀ two_ne_zero]
    ring
  have hhalf : (0 : ℚ) < 2 ^ (x.exponent - 1) := by positivity
  have hweight : (1 : ℚ) ≤ exponentWeight := by
    rw [exponentWeight_eq]
    norm_num
  rw [hunit] at hbelow
  have hexp : unitExponent num den = x.exponent - 1 := by
    refine unitExponent_eq hnum hden (.inl (le_trans ?_ hlow)) (by omega) (by linarith)
    gcongr
    linarith
  -- the double is the greatest number of the smaller units, and one more
  have hmagnitude : x.magnitude =
      (x.exponent - 1 + 1074).toNat * exponentWeight + 2 * exponentWeight := by
    rw [magnitude_eq, hsignificand, exponentWeight_eq]
    omega
  refine ofRatio_eq_of_near hfinite hnum hden hmagnitude hexp ?_ fun hodd => by omega
  push_cast
  exact abs_le.mpr ⟨by linarith, by linarith⟩

/-- A quotient in the interval of a double is rounded to it. -/
theorem ofRatio_of_contains (hfinite : x.isFinite = true) {num den : ℕ} (hnum : 0 < num)
    (hden : 0 < den) (h : x.interval.Contains (num / den)) : ofRatio x.negative num den = x := by
  by_cases hbinade : exponentWeight * (2 : ℚ) ^ x.exponent ≤ num / den ∨ x.exponent = -1074
  case neg =>
    obtain ⟨hbelow, hexponent⟩ := not_or.mp hbinade
    exact ofRatio_of_contains_below hfinite hnum hden h (not_le.mp hbelow) hexponent
  case pos =>
    obtain ⟨hnear, hodd⟩ := near_of_contains h
    have hunit : (0 : ℚ) < 2 ^ x.exponent := by positivity
    have hless : (x.significand : ℚ) + 1 ≤ 2 * exponentWeight := by
      exact_mod_cast significand_lt x
    have hhigh : (num / den : ℚ) < 2 * exponentWeight * 2 ^ x.exponent := by
      have hle := (abs_le.mp hnear).1
      calc (num / den : ℚ) ≤ (x.significand + 1 / 2) * 2 ^ x.exponent := by linarith
        _ < 2 * exponentWeight * 2 ^ x.exponent := by gcongr; linarith
    exact ofRatio_eq_of_near hfinite hnum hden (magnitude_eq x)
      (unitExponent_eq hnum hden hbinade (least_exponent x) hhigh) hnear hodd

end Interval

end TelemetryGate.Binary64
