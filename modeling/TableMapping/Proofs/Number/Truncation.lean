import Mathlib.Data.Rat.Floor
import Mathlib.Tactic.NormNum
import Mathlib.Tactic.Positivity
import Mathlib.Tactic.Ring
import TableMapping.Number.Binary64

/-!
# Values of doubles and their integer parts

A finite double stands for its significand times a power of two.  Its integer part is the integer
that is next to its value on the way to zero, and from `2 ^ 53` on the value has no fraction.

## Main definitions

* `truncate` : a number without its fraction.
* `Binary64.value` : the number that a finite double stands for.

## Main results

* `Binary64.isZero_iff` : the doubles that stand for zero.
* `Binary64.truncated_eq` : the integer part of a finite double.
* `Binary64.truncate_value_eq_iff` : beyond the significands only an integer has a given integer part.
* `Binary64.value_eq_of_truncated` : the value of a double with such an integer part.
-/

namespace TableMapping

/-- The integer next to a number on the way to zero. -/
def truncate (q : ℚ) : ℤ := if q < 0 then ⌈q⌉ else ⌊q⌋

theorem truncate_neg (q : ℚ) : truncate (-q) = -truncate q := by
  rcases lt_trichotomy q 0 with hq | rfl | hq
  · have hneg : ¬ -q < 0 := not_lt.mpr (neg_nonneg.mpr hq.le)
    rw [truncate, truncate, if_neg hneg, if_pos hq, Int.floor_neg]
  · rfl
  · have hneg : -q < 0 := neg_neg_of_pos hq
    rw [truncate, truncate, if_pos hneg, if_neg (not_lt.mpr hq.le), Int.ceil_neg]

theorem truncate_div (m n : ℕ) : truncate ((m : ℚ) / n) = (m / n : ℕ) := by
  have hnonneg : ¬ (m : ℚ) / n < 0 := not_lt.mpr (by positivity)
  rw [truncate, if_neg hnonneg, Rat.floor_natCast_div_natCast, Int.natCast_ediv]

@[simp]
theorem truncate_intCast (n : ℤ) : truncate (n : ℚ) = n := by
  rw [truncate, Int.ceil_intCast, Int.floor_intCast, ite_self]

namespace Binary64

variable {x : Binary64}

/-! ### Values -/

/-- The number that a finite double stands for. -/
def value (x : Binary64) : ℚ :=
  (if x.isNegative then -1 else 1) * x.significand * 2 ^ ((x.unitIndex : ℤ) - 1074)

theorem significand_lt (x : Binary64) : x.significand < 2 ^ 53 := by
  have hfraction : x.fraction < twoPow 52 := Nat.mod_lt _ (by decide)
  have htwice : twoPow 52 + twoPow 52 = 2 ^ 53 := by decide
  rw [significand]
  split <;> omega

theorem cast_twoPow (k : ℕ) : (twoPow k : ℚ) = 2 ^ k := Nat.cast_pow 2 k

/-- The power of two that the significand counts is a quotient of powers of two. -/
theorem zpow_unitIndex (x : Binary64) :
    (2 : ℚ) ^ ((x.unitIndex : ℤ) - 1074) =
      (twoPow (x.unitIndex - 1074) : ℕ) / (x.denominator : ℕ) := by
  have hexponent : (x.unitIndex : ℤ) - 1074 =
      ((x.unitIndex - 1074 : ℕ) : ℤ) - ((1074 - x.unitIndex : ℕ) : ℤ) := by omega
  rw [hexponent, zpow_sub₀ two_ne_zero, zpow_natCast, zpow_natCast, denominator, cast_twoPow,
    cast_twoPow]

theorem value_eq (x : Binary64) :
    x.value = (if x.isNegative then -1 else 1) * ((x.numerator : ℚ) / x.denominator) := by
  rw [value, zpow_unitIndex, numerator, Nat.cast_mul]
  ring

/-! ### Zeros -/

theorem significand_eq_zero_iff (x : Binary64) :
    x.significand = 0 ↔ x.exponentField = 0 ∧ x.fraction = 0 := by
  have hlead : 0 < twoPow 52 := by decide
  rw [significand]
  split <;> omega

/-- The zeros are the doubles that stand for zero. -/
theorem isZero_iff {x : Binary64} : x.isZero = true ↔ x.value = 0 := by
  have hsign : (if x.isNegative then -1 else 1 : ℚ) ≠ 0 := by split <;> norm_num
  have hunit : (2 : ℚ) ^ ((x.unitIndex : ℤ) - 1074) ≠ 0 := zpow_ne_zero _ two_ne_zero
  rw [isZero, Bool.and_eq_true, beq_iff_eq, beq_iff_eq, ← significand_eq_zero_iff, value,
    mul_eq_zero_iff_right hunit, mul_eq_zero_iff_left hsign, Nat.cast_eq_zero]

/-! ### Integer parts -/

theorem truncate_value (x : Binary64) :
    truncate x.value = if x.isNegative then -((x.numerator / x.denominator : ℕ) : ℤ)
      else (x.numerator / x.denominator : ℕ) := by
  rw [value_eq]
  cases x.isNegative with
  | true => rw [if_pos rfl, if_pos rfl, neg_one_mul, truncate_neg, truncate_div]
  | false => rw [if_neg Bool.false_ne_true, if_neg Bool.false_ne_true, one_mul, truncate_div]

/-- The integer part of a finite double. -/
theorem truncated_eq (h : x.isFinite = true) : x.truncated = some (truncate x.value) := by
  rw [truncated, if_pos h, truncate_value]

/-- A double from `2 ^ 53` on counts whole units, because its significand is below. -/
theorem denominator_eq_one (h : 2 ^ 53 ≤ x.numerator / x.denominator) : x.denominator = 1 := by
  by_contra hden
  have hunit : x.unitIndex - 1074 = 0 := by
    by_contra hunit
    refine hden ?_
    rw [denominator, Nat.sub_eq_zero_of_le (by omega)]
    rfl
  have hle : x.numerator / x.denominator ≤ x.significand := by
    rw [numerator, hunit]
    exact (Nat.div_le_self _ _).trans (Nat.mul_one _).le
  exact absurd (h.trans hle) (not_le.mpr x.significand_lt)

/-- Beyond the significands a double with a given integer part is that integer. -/
theorem truncate_value_eq_iff {n : ℤ} (hn : 2 ^ 53 ≤ n.natAbs) :
    truncate x.value = n ↔ x.value = n := by
  refine ⟨fun h => ?_, fun h => by rw [h, truncate_intCast]⟩
  rw [truncate_value] at h
  have hquotient : n.natAbs = x.numerator / x.denominator := by
    rw [← h]
    split
    case isTrue => rw [Int.natAbs_neg, Int.natAbs_natCast]
    case isFalse => rw [Int.natAbs_natCast]
  have hden : x.denominator = 1 := denominator_eq_one (hquotient ▸ hn)
  rw [← h, value_eq, hden, Nat.div_one, Nat.cast_one, div_one]
  split
  case isTrue => rw [neg_one_mul, Int.cast_neg, Int.cast_natCast]
  case isFalse => rw [one_mul, Int.cast_natCast]

/-- The value of a double whose integer part lies beyond the significands. -/
theorem value_eq_of_truncated {n : ℤ} (h : x.truncated = some n) (hn : 2 ^ 53 ≤ n.natAbs) :
    x.value = n := by
  have hfinite : x.isFinite = true := by
    by_contra hinfinite
    rw [truncated, if_neg hinfinite] at h
    cases h
  rw [truncated_eq hfinite, Option.some.injEq] at h
  exact (truncate_value_eq_iff hn).mp h

end Binary64

end TableMapping
