import TelemetryGate.Binary64.Basic

/-!
# Shortest decimals

The decimal with the fewest digits that reads back as a given double, and the nearest of those. The
reals that round to a double form an interval around it, whose ends belong to it if the significand
is even. On each decimal grid only the two neighbours of the number have to be tried.
-/

namespace TelemetryGate.Binary64

/-- Which of two equally near decimals is taken. -/
inductive TieRule where
  /-- The one whose last digit is even. -/
  | toEven
  /-- The greater one. -/
  | up
  deriving DecidableEq, Repr

/-- The decimal number `digits * 10 ^ exponent`. -/
structure Decimal where
  /-- The digits as one whole number. -/
  digits : Nat
  /-- The power of ten of the last digit. -/
  exponent : Int
  deriving DecidableEq, Repr

/-- How many decimal digits a number has. -/
def digitCount (n : Nat) : Nat := (Nat.toDigits 10 n).length

/-- The same decimal without zeros at its end. `fuel` bounds the number of zeros. -/
def Decimal.strip : Nat → Decimal → Decimal
  | 0, d => d
  | fuel + 1, d =>
    if d.digits ≠ 0 ∧ d.digits % 10 = 0 then strip fuel ⟨d.digits / 10, d.exponent + 1⟩ else d

/-- The greatest `k` with `10 ^ k ≤ num / den`, for positive `num` and `den`. -/
def floorLogTen (num den : Nat) : Int :=
  if den ≤ num then (digitCount (num / den) : Int) - 1
  else -(digitCount ((den + num - 1) / num - 1) : Int)

/-- The reals that round to a double, in quarters of the unit of its last place. -/
structure RoundingInterval where
  /-- The lower end. -/
  low : Nat
  /-- The double itself. -/
  value : Nat
  /-- The upper end. -/
  high : Nat
  /-- Both ends belong to the interval. -/
  closed : Bool
  /-- The power of two of one quarter. -/
  scale : Int

/-- The interval of a positive finite double. Below a power of two the neighbours are nearer. -/
def interval (x : Binary64) : RoundingInterval :=
  let m := x.significand
  let narrow := m = exponentWeight ∧ 1 < x.magnitude / exponentWeight
  { low := if narrow then 4 * m - 1 else 4 * m - 2
    value := 4 * m
    high := 4 * m + 2
    closed := m % 2 == 0
    scale := x.exponent - 2 }

/-- The decimal `n * 10 ^ p` lies in the interval. -/
def RoundingInterval.holds (i : RoundingInterval) (n : Nat) (p : Int) : Bool :=
  let here := n * tenPow p.toNat * twoPow (-i.scale).toNat
  let unit := tenPow (-p).toNat * twoPow i.scale.toNat
  if i.closed then i.low * unit ≤ here && here ≤ i.high * unit
  else i.low * unit < here && here < i.high * unit

/-- The neighbours of the number on the grid of the multiples of `10 ^ p`, if one of them lies in
the interval the nearer of those that do. -/
def RoundingInterval.nearest? (i : RoundingInterval) (tie : TieRule) (p : Int) : Option Nat :=
  let grid := tenPow p.toNat * twoPow (-i.scale).toNat
  let value := i.value * (tenPow (-p).toNat * twoPow i.scale.toNat)
  let n := value / grid
  let rest := value % grid
  match i.holds n p, i.holds (n + 1) p with
  | true, false => some n
  | false, true => some (n + 1)
  | false, false => none
  | true, true =>
    if 2 * rest < grid then some n
    else if grid < 2 * rest then some (n + 1)
    else match tie with
      | .toEven => if n % 2 = 0 then some n else some (n + 1)
      | .up => some (n + 1)

/-- The first grid with a hit, from the coarse `p` down. Seventeen digits always suffice, so the
default is not reached from `shortest`. -/
def RoundingInterval.search (i : RoundingInterval) (tie : TieRule) : Nat → Int → Decimal
  | 0, p => ⟨0, p⟩
  | fuel + 1, p =>
    match i.nearest? tie p with
    | some n => ⟨n, p⟩
    | none => i.search tie fuel (p - 1)

/-- The shortest decimal of the absolute value of a finite double, without zeros at its end. -/
def shortest (tie : TieRule) (x : Binary64) : Decimal :=
  if x.magnitude = 0 then ⟨0, 0⟩
  else
    let i := x.interval
    let top := floorLogTen (i.value * twoPow i.scale.toNat) (twoPow (-i.scale).toNat)
    (i.search tie 18 top).strip 18

end TelemetryGate.Binary64
