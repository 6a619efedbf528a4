import TelemetryGate.Proofs.Binary64.Interval
import Mathlib.Data.Nat.Cast.Order.Field
import Mathlib.Data.Nat.Digits.Defs

/-!
# Shortest decimals

The search for the shortest decimal of a double ends on a grid with seventeen digits at the latest,
since the steps of that grid are less than half a unit of the last place. What it finds lies in the
interval of the double.
-/

namespace TelemetryGate.Binary64

/-- The number that a decimal stands for. -/
def Decimal.value (d : Decimal) : ℚ := d.digits * (10 : ℚ) ^ d.exponent

/-! ## Places -/

theorem lt_pow_digitCount (n : ℕ) : n < 10 ^ digitCount n :=
  (Nat.length_toDigits_le_iff (by decide) Nat.length_toDigits_pos).mp le_rfl

theorem pow_digitCount_le {n : ℕ} (hn : 0 < n) : 10 ^ (digitCount n - 1) ≤ n := by
  rcases Nat.eq_zero_or_pos (digitCount n - 1) with hone | hmore
  · rw [hone]
    exact hn
  · have hlonger : ¬ digitCount n ≤ digitCount n - 1 := by omega
    exact not_lt.mp (mt (Nat.length_toDigits_le_iff (by decide) hmore).mpr hlonger)

/-- A positive quotient is at least the power of ten that `floorLogTen` finds. -/
theorem pow_floorLogTen_le {num den : ℕ} (hnum : 0 < num) (hden : 0 < den) :
    (10 : ℚ) ^ floorLogTen num den ≤ num / den := by
  have hnumQ : (0 : ℚ) < num := by exact_mod_cast hnum
  have hdenQ : (0 : ℚ) < den := by exact_mod_cast hden
  by_cases hle : den ≤ num
  · have hcount : 0 < digitCount (num / den) := Nat.length_toDigits_pos
    have hlog : floorLogTen num den = ((digitCount (num / den) - 1 : ℕ) : ℤ) := by
      rw [floorLogTen, if_pos hle]
      omega
    rw [hlog, zpow_natCast]
    calc (10 : ℚ) ^ (digitCount (num / den) - 1) ≤ (num / den : ℕ) := by
          exact_mod_cast pow_digitCount_le (Nat.div_pos hle hden)
      _ ≤ num / den := Nat.cast_div_le
  · rw [floorLogTen, if_neg hle, zpow_neg, zpow_natCast]
    generalize hless : (den + num - 1) / num - 1 = less
    -- the quotient of denominator and numerator, rounded up, is one more than `less`
    have hceil : den ≤ num * (less + 1) := by
      have hdiv := Nat.div_add_mod (den + num - 1) num
      have hmod := Nat.mod_lt (den + num - 1) hnum
      have hpos : 1 ≤ (den + num - 1) / num := (Nat.one_le_div_iff hnum).mpr (by omega)
      rw [← hless, Nat.sub_add_cancel hpos]
      omega
    have hpow : den ≤ num * 10 ^ digitCount less :=
      hceil.trans (Nat.mul_le_mul_left num (lt_pow_digitCount less))
    rw [inv_le_iff_one_le_mul₀ (by positivity), div_mul_eq_mul_div, one_le_div hdenQ]
    exact_mod_cast hpow

/-! ## The search -/

namespace RoundingInterval

variable {i : RoundingInterval} {tie : TieRule} {p : ℤ}

theorem contains_of_lt {r : ℚ} (hlow : i.low * (2 : ℚ) ^ i.scale < r)
    (hhigh : r < i.high * (2 : ℚ) ^ i.scale) : i.Contains r := by
  unfold Contains
  split
  · exact ⟨hlow.le, hhigh.le⟩
  · exact ⟨hlow, hhigh⟩

/-- The multiple of a power of ten next to the number from below, as a number of steps. -/
def below (i : RoundingInterval) (p : ℤ) : ℕ :=
  i.value * (tenPow (-p).toNat * twoPow i.scale.toNat) / (tenPow p.toNat * twoPow (-i.scale).toNat)

/-- Of the two multiples of a power of ten next to the number one is found that lies in the interval,
if there is one. -/
theorem nearest?_cases (i : RoundingInterval) (tie : TieRule) (p : ℤ) :
    (i.nearest? tie p = none ∧ i.holds (i.below p) p = false ∧ i.holds (i.below p + 1) p = false) ∨
      ∃ n, i.nearest? tie p = some n ∧ i.holds n p = true := by
  unfold nearest?
  dsimp only
  rw [← below]
  cases hbelow : i.holds (i.below p) p <;> cases habove : i.holds (i.below p + 1) p
  case false.false => exact .inl ⟨rfl, rfl, rfl⟩
  case false.true => exact .inr ⟨_, rfl, habove⟩
  case true.false => exact .inr ⟨_, rfl, hbelow⟩
  case true.true =>
    refine .inr ?_
    dsimp only
    split_ifs with hless hmore heven
    · exact ⟨_, rfl, hbelow⟩
    · exact ⟨_, rfl, habove⟩
    · cases tie with
      | toEven => exact ⟨_, rfl, hbelow⟩
      | up => exact ⟨_, rfl, habove⟩
    · cases tie <;> exact ⟨_, rfl, habove⟩

/-- What is found on a grid lies in the interval. -/
theorem contains_of_nearest? {n : ℕ} (h : i.nearest? tie p = some n) :
    i.Contains (n * (10 : ℚ) ^ p) := by
  rw [← holds_iff]
  obtain ⟨hnone, -⟩ | ⟨found, hfound, hholds⟩ := i.nearest?_cases tie p
  · rw [hnone] at h
    cases h
  · rw [hfound] at h
    exact Option.some.inj h ▸ hholds

/-- The number lies between two multiples of a power of ten. -/
theorem below_spec (i : RoundingInterval) (p : ℤ) :
    i.below p * (10 : ℚ) ^ p ≤ i.value * 2 ^ i.scale ∧
      i.value * (2 : ℚ) ^ i.scale < (i.below p + 1) * 10 ^ p := by
  have hnumber : i.value * (2 : ℚ) ^ i.scale =
      (i.value * (10 ^ (-p).toNat * 2 ^ i.scale.toNat) : ℕ) /
        (10 ^ p.toNat * 2 ^ (-i.scale).toNat : ℕ) * 10 ^ p := by
    push_cast
    rw [zpow_eq_div (by norm_num) p, zpow_eq_div (by norm_num) i.scale]
    field_simp
  have hgrid : 0 < 10 ^ p.toNat * 2 ^ (-i.scale).toNat := by positivity
  rw [hnumber, below, tenPow_eq, tenPow_eq, twoPow_eq, twoPow_eq]
  constructor
  · gcongr
    exact Nat.cast_div_le
  · gcongr
    rw [div_lt_iff₀ (by exact_mod_cast hgrid)]
    exact_mod_cast Nat.lt_mul_of_div_lt (Nat.lt_succ_self _) hgrid

/-- Something is found on a grid whose steps are less than the part of the interval above the
number. -/
theorem exists_nearest? (hlow : i.low < i.value)
    (hstep : (10 : ℚ) ^ p < (i.high - i.value) * 2 ^ i.scale) : ∃ n, i.nearest? tie p = some n := by
  obtain ⟨hle, hlt⟩ := i.below_spec p
  have hlow' : (i.low : ℚ) * 2 ^ i.scale < i.value * 2 ^ i.scale := by gcongr
  have habove : i.holds (i.below p + 1) p = true := by
    rw [holds_iff]
    push_cast
    exact contains_of_lt (by linarith) (by linarith)
  obtain ⟨-, -, hmissed⟩ | ⟨n, hfound, -⟩ := i.nearest?_cases tie p
  · rw [habove] at hmissed
    cases hmissed
  · exact ⟨n, hfound⟩

/-- The search ends in the interval if there is a hit within its fuel. -/
theorem contains_search {fuel k : ℕ} (hk : k < fuel) (hhit : ∃ n, i.nearest? tie (p - k) = some n) :
    i.Contains (i.search tie fuel p).value := by
  induction fuel generalizing p k with
  | zero => omega
  | succ fuel ih =>
    rw [search]
    cases hfound : i.nearest? tie p with
    | some n => exact contains_of_nearest? hfound
    | none =>
      cases k with
      | zero =>
        rw [Nat.cast_zero, sub_zero, hfound] at hhit
        exact absurd hhit (by simp)
      | succ k =>
        refine ih (k := k) (by omega) ?_
        rw [Nat.cast_succ] at hhit
        rwa [show p - 1 - (k : ℤ) = p - (k + 1) by ring]

end RoundingInterval

/-- Zeros at the end do not count. -/
theorem Decimal.value_strip (fuel : ℕ) (d : Decimal) : (d.strip fuel).value = d.value := by
  induction fuel generalizing d with
  | zero => rfl
  | succ fuel ih =>
    rw [strip]
    split
    · rename_i hzero
      have hdigits : (d.digits : ℚ) = (d.digits / 10 : ℕ) * 10 := by
        exact_mod_cast (Nat.div_mul_cancel (Nat.dvd_of_mod_eq_zero hzero.2)).symm
      rw [ih, value, value, hdigits, zpow_add_one₀ (by norm_num)]
      ring
    · rfl

/-- The shortest decimal of a double other than zero lies in its interval. -/
theorem contains_shortest {x : Binary64} (hpos : 0 < x.magnitude) (tie : TieRule) :
    x.interval.Contains (x.shortest tie).value := by
  have hsignificand := significand_pos hpos
  have hvalue : x.interval.value = 4 * x.significand := rfl
  have hhigh : x.interval.high = 4 * x.significand + 2 := rfl
  have hlow : x.interval.low < x.interval.value := by
    rw [hvalue]
    simp only [interval]
    split <;> omega
  unfold shortest
  rw [if_neg hpos.ne']
  dsimp only
  rw [Decimal.value_strip, twoPow_eq, twoPow_eq]
  generalize htop : floorLogTen _ _ = top
  refine RoundingInterval.contains_search (k := 17) (by decide)
    (RoundingInterval.exists_nearest? hlow ?_)
  have hfloor : (10 : ℚ) ^ top ≤ 4 * x.significand * 2 ^ x.interval.scale := by
    have hnum : 0 < x.interval.value * 2 ^ x.interval.scale.toNat := by
      rw [hvalue]
      positivity
    have hle := pow_floorLogTen_le hnum (Nat.two_pow_pos (-x.interval.scale).toNat)
    rw [htop, hvalue] at hle
    rw [zpow_eq_div two_ne_zero]
    push_cast at hle
    rwa [mul_div_assoc] at hle
  have hless : (x.significand : ℚ) < 2 ^ 53 := by
    have := significand_lt x
    rw [exponentWeight_eq] at this
    exact_mod_cast this
  have hscale : (0 : ℚ) < 2 ^ x.interval.scale := by positivity
  rw [hvalue, hhigh]
  push_cast
  calc (10 : ℚ) ^ (top - 17) = 10 ^ top / 10 ^ 17 := by
        rw [zpow_sub₀ (by norm_num)]
        norm_cast
    _ ≤ 4 * x.significand * 2 ^ x.interval.scale / 10 ^ 17 := by gcongr
    _ ≤ 4 * 2 ^ 53 * 2 ^ x.interval.scale / 10 ^ 17 := by gcongr
    _ < (4 * x.significand + 2 - 4 * x.significand) * 2 ^ x.interval.scale := by
        rw [add_sub_cancel_left]
        linarith

/-- The shortest decimal of a double other than zero has a digit other than zero. -/
theorem digits_shortest_pos {x : Binary64} (hpos : 0 < x.magnitude) (tie : TieRule) :
    0 < (x.shortest tie).digits := by
  have hlow : 0 < x.interval.low := by
    have hsignificand := significand_pos hpos
    simp only [interval]
    split <;> omega
  have hvalue : (0 : ℚ) < (x.shortest tie).value :=
    lt_of_lt_of_le (by positivity) (contains_shortest hpos tie).le.1
  exact_mod_cast pos_of_mul_pos_left hvalue (by positivity)

end TelemetryGate.Binary64
