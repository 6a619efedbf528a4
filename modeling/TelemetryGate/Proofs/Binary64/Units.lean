import TelemetryGate.Proofs.Binary64.Value
import Mathlib.Algebra.Order.Field.Basic
import Mathlib.Algebra.Order.Ring.Abs
import Mathlib.Data.Nat.Log

/-!
# Rounding to whole units

`ofRatio` measures a quotient in units of the last place of its binade and takes the nearest whole
number of units. This file gives that number and the double that is made of it.
-/

namespace TelemetryGate.Binary64

/-- The distances of whole numbers below a quotient, in units of the denominator. -/
theorem distance_below {q r den : ℕ} {j : ℤ} (h : j ≤ q) :
    |j * den - (den * q + r : ℤ)| = (q - j) * den + r := by
  have hnonneg : 0 ≤ (q - j) * (den : ℤ) := mul_nonneg (by omega) (by omega)
  rw [abs_sub_comm, abs_of_nonneg (by linarith)]
  ring

/-- The distances of whole numbers above a quotient, in units of the denominator. -/
theorem distance_above {q r den : ℕ} {j : ℤ} (h : q + 1 ≤ j) (hr : r < den) :
    |j * den - (den * q + r : ℤ)| = (j - q - 1) * den + (den - r) := by
  have hnonneg : 0 ≤ (j - q - 1) * (den : ℤ) := mul_nonneg (by omega) (by omega)
  have hrest : 0 < (den : ℤ) - r := by omega
  rw [abs_of_nonneg (by linarith)]
  ring

/-- A whole multiple of a denominator is nothing or at least the denominator. -/
theorem multiple_cases {t : ℤ} (ht : 0 ≤ t) (den : ℕ) :
    t = 0 ∧ t * den = 0 ∨ (den : ℤ) ≤ t * den := by
  rcases ht.eq_or_lt with rfl | hpos
  · simp
  · right
    nlinarith

/-- Half-even rounding finds a nearest whole number, and the even one of two. -/
theorem roundHalfEven_spec (num : ℕ) {den : ℕ} (hden : 0 < den) (j : ℤ) :
    |(roundHalfEven num den : ℤ) * den - num| ≤ |j * den - num| ∧
      (|j * den - (num : ℤ)| = |(roundHalfEven num den : ℤ) * den - num| →
        j = roundHalfEven num den ∨ roundHalfEven num den % 2 = 0) := by
  have hr : num % den < den := Nat.mod_lt _ hden
  have hnum : (num : ℤ) = den * (num / den : ℕ) + (num % den : ℕ) := by
    exact_mod_cast (Nat.div_add_mod num den).symm
  have hlow : |((num / den : ℕ) : ℤ) * den - num| = (num % den : ℕ) := by
    rw [hnum, distance_below le_rfl]
    ring
  have hhigh : |((num / den + 1 : ℕ) : ℤ) * den - num| = den - (num % den : ℕ) := by
    rw [hnum, distance_above (by push_cast; omega) hr]
    push_cast
    ring
  have hj : j ≤ (num / den : ℕ) ∧ (j = (num / den : ℕ) ∧ |j * den - num| = (num % den : ℕ) ∨
        (den : ℤ) + (num % den : ℕ) ≤ |j * den - num|) ∨
      (num / den : ℕ) + 1 ≤ j ∧ (j = (num / den : ℕ) + 1 ∧ |j * den - num| = den - (num % den : ℕ) ∨
        (den : ℤ) + (den - (num % den : ℕ)) ≤ |j * den - num|) := by
    rcases le_or_gt j (num / den : ℕ) with hle | hgt
    · left
      rw [hnum, distance_below hle]
      rcases multiple_cases (sub_nonneg.mpr hle) den with ⟨h, h'⟩ | h <;> omega
    · right
      rw [hnum, distance_above hgt hr]
      rcases multiple_cases (t := j - (num / den : ℕ) - 1) (by omega) den with
        ⟨h, h'⟩ | h <;> omega
  unfold roundHalfEven
  simp only
  split_ifs with hless hmore htie
  · rw [hlow]; omega
  · rw [hhigh]; omega
  · rw [hlow]; omega
  · rw [hhigh]; omega

/-- Half-even rounding finds a whole number that is at most one half away, if it is even or nearer
than that. -/
theorem roundHalfEven_eq {num den j : ℕ} (hden : 0 < den) (hnear : 2 * |(j : ℤ) * den - num| ≤ den)
    (hodd : j % 2 = 1 → 2 * |(j : ℤ) * den - num| < den) : roundHalfEven num den = j := by
  obtain ⟨hle, heven⟩ := roundHalfEven_spec num hden j
  generalize roundHalfEven num den = found at hle heven
  have hapart : |((found : ℤ) - j) * den| ≤ |(found : ℤ) * den - num| + |(j : ℤ) * den - num| := by
    rw [sub_mul, ← abs_neg ((j : ℤ) * den - num)]
    refine le_trans (le_of_eq ?_) (abs_add_le _ _)
    congr 1
    ring
  rw [abs_mul, Nat.abs_cast] at hapart
  -- Two different whole numbers are one apart, two of them that are even are two apart.
  rcases lt_trichotomy |(found : ℤ) - j| 1 with hsame | hnext | hfar
  · have := abs_lt.mp hsame
    omega
  · rw [hnext, one_mul] at hapart
    have htie := heven (by omega)
    rcases abs_eq (zero_le_one' ℤ) |>.mp hnext with h | h <;> omega
  · have hfar' : (2 : ℤ) * den ≤ |(found : ℤ) - j| * den := by gcongr; omega
    omega

/-- A power with a sign as a quotient of powers without. -/
theorem zpow_eq_div {b : ℚ} (hb : b ≠ 0) (e : ℤ) : b ^ e = b ^ e.toNat / b ^ (-e).toNat := by
  rw [← zpow_natCast, ← zpow_natCast, ← zpow_sub₀ hb]
  congr 1
  omega

/-- Scaling numerator and denominator scales the quotient. -/
theorem timesTwoPow_quotient (num den : ℕ) (e : ℤ) :
    ((timesTwoPow num den e).1 : ℚ) / (timesTwoPow num den e).2 = num / den * (2 : ℚ) ^ e := by
  simp only [timesTwoPow, twoPow_eq]
  rw [zpow_eq_div two_ne_zero]
  push_cast
  exact mul_div_mul_comm _ _ _ _

theorem timesTwoPow_den_pos (num : ℕ) {den : ℕ} (hden : 0 < den) (e : ℤ) :
    0 < (timesTwoPow num den e).2 := by
  simp only [timesTwoPow, twoPow_eq]
  positivity

/-- A positive number lies in the binade of its binary logarithm. -/
theorem log2_bounds {n : ℕ} (hn : 0 < n) :
    (2 : ℚ) ^ (n.log2 : ℤ) ≤ n ∧ (n : ℚ) < 2 ^ ((n.log2 : ℤ) + 1) := by
  constructor
  · rw [zpow_natCast]
    exact_mod_cast Nat.log2_self_le (by omega)
  · rw [zpow_add_one₀ (by norm_num), zpow_natCast, ← pow_succ]
    exact_mod_cast Nat.lt_log2_self

/-- A positive quotient lies in the binade that `floorLogTwo` finds. -/
theorem floorLogTwo_spec {num den : ℕ} (hnum : 0 < num) (hden : 0 < den) :
    (2 : ℚ) ^ floorLogTwo num den ≤ num / den ∧
      (num / den : ℚ) < 2 ^ (floorLogTwo num den + 1) := by
  obtain ⟨hnlow, hnhigh⟩ := log2_bounds hnum
  obtain ⟨hdlow, hdhigh⟩ := log2_bounds hden
  have hnpos : (0 : ℚ) < num := by exact_mod_cast hnum
  have hdpos : (0 : ℚ) < den := by exact_mod_cast hden
  let guess : ℤ := (num.log2 : ℤ) - den.log2
  have hbelow : (2 : ℚ) ^ (guess - 1) < num / den := by
    rw [lt_div_iff₀ hdpos]
    calc (2 : ℚ) ^ (guess - 1) * den < 2 ^ (guess - 1) * 2 ^ ((den.log2 : ℤ) + 1) := by gcongr
      _ = 2 ^ (num.log2 : ℤ) := by rw [← zpow_add₀ (by norm_num)]; congr 1; omega
      _ ≤ num := hnlow
  have habove : (num / den : ℚ) < 2 ^ (guess + 1) := by
    rw [div_lt_iff₀ hdpos]
    calc (num : ℚ) < 2 ^ ((num.log2 : ℤ) + 1) := hnhigh
      _ = 2 ^ (guess + 1) * 2 ^ (den.log2 : ℤ) := by
        rw [← zpow_add₀ (by norm_num)]; congr 1; omega
      _ ≤ 2 ^ (guess + 1) * den := by gcongr
  have hquotient := timesTwoPow_quotient num den (-guess)
  have hscaled : (0 : ℚ) < (timesTwoPow num den (-guess)).2 := by
    exact_mod_cast timesTwoPow_den_pos num hden (-guess)
  have hguess : (timesTwoPow num den (-guess)).1 < (timesTwoPow num den (-guess)).2 ↔
      (num / den : ℚ) < 2 ^ guess := by
    rw [← Nat.cast_lt (α := ℚ), ← div_lt_one hscaled, hquotient, zpow_neg, ← div_eq_mul_inv,
      div_lt_one (by positivity)]
  unfold floorLogTwo
  simp only
  split_ifs with hless
  · exact ⟨hbelow.le, by simpa using hguess.mp hless⟩
  · exact ⟨not_lt.mp (mt hguess.mpr hless), habove⟩

/-- The exponent of the units that a quotient is rounded to. -/
def unitExponent (num den : ℕ) : ℤ := max (floorLogTwo num den - 52) (-1074)

/-- A quotient in its units, as numerator and denominator. -/
def inUnits (num den : ℕ) : ℕ × ℕ := timesTwoPow num den (-unitExponent num den)

/-- The whole number of units nearest to a quotient. -/
def units (num den : ℕ) : ℕ := roundHalfEven (inUnits num den).1 (inUnits num den).2

/-- The bits of a rounded quotient: binades above the least one, then units. -/
theorem ofRatio_eq {num den : ℕ} (hnum : 0 < num) (negative : Bool) :
    ofRatio negative num den = ofMagnitude negative
      (min ((unitExponent num den + 1074).toNat * exponentWeight + units num den)
        infinityMagnitude) := by
  rw [ofRatio, if_neg (by omega)]
  rfl

/-- Rounding keeps the sign, also of what is rounded to zero. -/
theorem negative_ofRatio (negative : Bool) (num den : ℕ) :
    (ofRatio negative num den).negative = negative := by
  rcases Nat.eq_zero_or_pos num with rfl | hnum
  · exact negative_ofMagnitude negative (by rw [signWeight_eq]; decide)
  · rw [ofRatio_eq hnum]
    refine negative_ofMagnitude negative ?_
    rw [infinityMagnitude_eq, signWeight_eq]
    omega

theorem roundHalfEven_bounds (num den : ℕ) :
    num / den ≤ roundHalfEven num den ∧ roundHalfEven num den ≤ num / den + 1 := by
  unfold roundHalfEven
  simp only
  split_ifs <;> omega

section Units

variable {num den : ℕ}

theorem inUnits_den_pos (num : ℕ) (hden : 0 < den) : 0 < (inUnits num den).2 :=
  timesTwoPow_den_pos num hden _

theorem inUnits_quotient (num den : ℕ) :
    ((inUnits num den).1 : ℚ) / (inUnits num den).2 =
      num / den * (2 : ℚ) ^ (-unitExponent num den) :=
  timesTwoPow_quotient num den _

/-- A quotient has no more units than two binades hold. -/
theorem units_le (hnum : 0 < num) (hden : 0 < den) : units num den ≤ 2 * exponentWeight := by
  have hpos : (0 : ℚ) < (inUnits num den).2 := by exact_mod_cast inUnits_den_pos num hden
  have hlt : ((inUnits num den).1 : ℚ) / (inUnits num den).2 < 2 * exponentWeight := by
    rw [inUnits_quotient, exponentWeight_eq]
    calc (num / den : ℚ) * 2 ^ (-unitExponent num den)
        < 2 ^ (floorLogTwo num den + 1) * 2 ^ (-unitExponent num den) := by
          gcongr
          exact (floorLogTwo_spec hnum hden).2
      _ = 2 ^ (floorLogTwo num den + 1 - unitExponent num den) := by
          rw [← zpow_add₀ (by norm_num), sub_eq_add_neg]
      _ ≤ 2 ^ (53 : ℤ) := zpow_le_zpow_right₀ (by norm_num) (by unfold unitExponent; omega)
      _ = 2 * (4503599627370496 : ℕ) := by norm_num
  rw [div_lt_iff₀ hpos] at hlt
  have hnat : (inUnits num den).1 < 2 * exponentWeight * (inUnits num den).2 := by
    exact_mod_cast hlt
  have hdiv := (Nat.div_lt_iff_lt_mul (inUnits_den_pos num hden)).mpr hnat
  have := (roundHalfEven_bounds (inUnits num den).1 (inUnits num den).2).2
  unfold units
  omega

/-- Above the least exponent a quotient fills its binade. -/
theorem exponentWeight_le_inUnits (hnum : 0 < num) (hden : 0 < den)
    (hexp : -1074 < unitExponent num den) :
    (exponentWeight : ℚ) ≤ num / den * (2 : ℚ) ^ (-unitExponent num den) := by
  have hunit : unitExponent num den = floorLogTwo num den - 52 := by
    unfold unitExponent at *
    omega
  rw [hunit, exponentWeight_eq]
  calc ((4503599627370496 : ℕ) : ℚ)
      = 2 ^ floorLogTwo num den * 2 ^ (-(floorLogTwo num den - 52)) := by
        rw [← zpow_add₀ (by norm_num), neg_sub, add_sub_cancel]
        norm_num
    _ ≤ num / den * 2 ^ (-(floorLogTwo num den - 52)) := by
        gcongr
        exact (floorLogTwo_spec hnum hden).1

theorem exponentWeight_le_units (hnum : 0 < num) (hden : 0 < den)
    (hexp : -1074 < unitExponent num den) : exponentWeight ≤ units num den := by
  have hpos : (0 : ℚ) < (inUnits num den).2 := by exact_mod_cast inUnits_den_pos num hden
  have hle := exponentWeight_le_inUnits hnum hden hexp
  rw [← inUnits_quotient, le_div_iff₀ hpos] at hle
  have hnat : exponentWeight * (inUnits num den).2 ≤ (inUnits num den).1 := by exact_mod_cast hle
  have hdiv := (Nat.le_div_iff_mul_le (inUnits_den_pos num hden)).mpr hnat
  exact hdiv.trans (roundHalfEven_bounds _ _).1

/-- The bits of a rounded quotient that is finite. -/
theorem magnitude_ofRatio (hnum : 0 < num) {negative : Bool}
    (hfinite : (ofRatio negative num den).isFinite = true) :
    (ofRatio negative num den).magnitude =
      (unitExponent num den + 1074).toNat * exponentWeight + units num den := by
  have hlt : min ((unitExponent num den + 1074).toNat * exponentWeight + units num den)
      infinityMagnitude < signWeight := by
    rw [infinityMagnitude_eq, signWeight_eq]
    omega
  have hmag := magnitude_ofMagnitude negative hlt
  rw [← ofRatio_eq hnum] at hmag
  have hsmall : (ofRatio negative num den).magnitude < infinityMagnitude := by
    simpa [isFinite] using hfinite
  exact hmag.trans (min_eq_left (by omega))

/-- The absolute value of a rounded quotient, if it is finite. -/
theorem absValue_ofRatio (hnum : 0 < num) (hden : 0 < den) {negative : Bool}
    (hfinite : (ofRatio negative num den).isFinite = true) :
    (ofRatio negative num den).absValue = units num den * (2 : ℚ) ^ unitExponent num den := by
  have hexp : -1074 ≤ unitExponent num den := le_max_right _ _
  have hfull : (unitExponent num den + 1074).toNat = 0 ∨ exponentWeight ≤ units num den := by
    rcases hexp.eq_or_lt with heq | hgt
    · left
      omega
    · exact .inr (exponentWeight_le_units hnum hden hgt)
  have hmag := magnitude_ofRatio hnum hfinite
  rw [absValue_of_magnitude hmag (units_le hnum hden) hfull]
  congr 2
  omega

/-- An even number of units gives an even significand. -/
theorem significand_even_ofRatio (hnum : 0 < num) {negative : Bool}
    (hfinite : (ofRatio negative num den).isFinite = true) (heven : units num den % 2 = 0) :
    (ofRatio negative num den).significand % 2 = 0 :=
  significand_even_of_magnitude (magnitude_ofRatio hnum hfinite) heven

/-- The distance of a multiple of the unit from a quotient, in parts of the unit. -/
theorem grid_distance (num : ℕ) (hden : 0 < den) (j : ℤ) :
    |(j : ℚ) * 2 ^ unitExponent num den - num / den| =
      (|j * (inUnits num den).2 - ((inUnits num den).1 : ℤ)| : ℤ) *
        ((2 : ℚ) ^ unitExponent num den / (inUnits num den).2) := by
  have hpos : (0 : ℚ) < (inUnits num den).2 := by exact_mod_cast inUnits_den_pos num hden
  have hquotient : (num / den : ℚ) =
      (inUnits num den).1 / (inUnits num den).2 * 2 ^ unitExponent num den := by
    rw [inUnits_quotient, zpow_neg]
    field_simp
  have hscale : (0 : ℚ) ≤ 2 ^ unitExponent num den / (inUnits num den).2 := by positivity
  rw [hquotient]
  push_cast
  rw [← abs_of_nonneg hscale, ← abs_mul]
  congr 1
  field_simp

/-- The number of a rounded quotient, if it is finite. -/
theorem value_ofRatio (hnum : 0 < num) (hden : 0 < den) {negative : Bool}
    (hfinite : (ofRatio negative num den).isFinite = true) :
    (ofRatio negative num den).value =
      if negative then -(units num den * (2 : ℚ) ^ unitExponent num den)
      else units num den * (2 : ℚ) ^ unitExponent num den := by
  rw [value, negative_ofRatio, absValue_ofRatio hnum hden hfinite]

end Units

end TelemetryGate.Binary64
