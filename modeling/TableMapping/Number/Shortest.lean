import TableMapping.Number.Binary64

/-!
# Shortest decimal digits

A double is written with the fewest decimal digits that read back as the same double, and of the
decimals with that many digits the nearest one.  The decimals that read back fill an interval
around the number, half a unit to either side, ends included when the significand is even; the
search takes the coarsest decimal grid that has a point in the interval.

## Main definitions

* `Decimal` : digits and the power of ten that they count.
* `Binary64.shortest` : the shortest decimal of a finite number other than zero.
-/

namespace TableMapping

/-- The number `digits * 10 ^ (grid - Decimal.bias)`. -/
structure Decimal where
  digits : Nat
  grid : Nat

/-- Grids are counted from `10 ^ -324`, which is finer than any two neighbouring doubles. -/
def Decimal.bias : Nat := 324

/-- What happens to a number halfway between two points of the grid. -/
inductive Tie
  | toEven
  | up
deriving DecidableEq

namespace Binary64

/-- The decimals that read back as one number: from `low / scale` to `high / scale`, where the
number itself is `mid / scale`. -/
structure RoundingInterval where
  low : Nat
  mid : Nat
  high : Nat
  scale : Nat
  closed : Bool

/-- The rounding interval of a finite number other than zero, in quarters of its unit.  Below a
power of two the numbers lie twice as close. -/
def roundingInterval (x : Binary64) : RoundingInterval :=
  let quarter := twoPow (x.unitIndex - 1074)
  let m := x.significand
  let below := if x.fraction = 0 ∧ 1 < x.exponentField then 1 else 2
  { low := (4 * m - below) * quarter
    mid := 4 * m * quarter
    high := (4 * m + 2) * quarter
    scale := 4 * x.denominator
    closed := m % 2 = 0 }

/-- Whether `point / scale` lies in the interval. -/
def RoundingInterval.holds (i : RoundingInterval) (point : Nat) : Bool :=
  if i.closed then i.low ≤ point && point ≤ i.high else i.low < point && point < i.high

/-- The multiple of `step / scale` in the interval that is nearest to its middle. -/
def RoundingInterval.nearest? (tie : Tie) (i : RoundingInterval) (step : Nat) : Option Nat :=
  let d := i.mid / step
  let below := i.mid - d * step
  let above := (d + 1) * step - i.mid
  if i.holds (d * step) && d != 0 then
    if i.holds ((d + 1) * step) then
      if below < above then some d
      else if above < below then some (d + 1)
      else match tie with
        | .up => some (d + 1)
        | .toEven => some (d + d % 2)
    else some d
  else if i.holds ((d + 1) * step) then some (d + 1)
  else none

/-- The coarsest grid, from `grid` down, with a point in the interval. -/
def RoundingInterval.coarsest (tie : Tie) (i : RoundingInterval) : (grid : Nat) → Decimal
  | 0 => ⟨(i.nearest? tie i.scale).getD 0, 0⟩
  | grid + 1 =>
    match i.nearest? tie (i.scale * tenPow (grid + 1)) with
    | some d => ⟨d, grid + 1⟩
    | none => RoundingInterval.coarsest tie i grid

/-- The shortest decimal that reads back as a finite number other than zero. -/
def shortest (tie : Tie) (x : Binary64) : Decimal :=
  let i := x.roundingInterval
  let widen := tenPow Decimal.bias
  let i := { i with low := i.low * widen, mid := i.mid * widen, high := i.high * widen }
  i.coarsest tie (Nat.toDigits 10 (i.high / i.scale)).length

end Binary64

end TableMapping
