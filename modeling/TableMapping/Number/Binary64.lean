import TableMapping.Number.Power

/-!
# Double-precision numbers

A double-precision number is held by the 64 bits of its interchange format: a sign, an exponent
field of eleven bits and a fraction of fifty-two.  The value of a finite number is an integer, its
significand, times a power of two.  All arithmetic here is exact arithmetic on that value followed
by one rounding, to the nearest double and from a tie to the even one.

## Main definitions

* `Binary64` : the type, with `significand` and the value as a quotient, `numerator` and
  `denominator`.
* `Binary64.ofQuotient` : the double nearest to a quotient of natural numbers.
* `Binary64.mul`, `Binary64.div` : rounded products and quotients.
* `Binary64.truncated` : the integer part of a finite number.
* `Binary64.sameNumber` : equality as numbers, where the two zeros agree and a NaN is unequal to
  everything.
-/

namespace TableMapping

/-- A double-precision number, by the bits of its interchange format. -/
structure Binary64 where
  bits : UInt64
deriving DecidableEq, Inhabited

namespace Binary64

/-! ### The parts of a number -/

/-- The sign bit is set; so it is for the negative zero and for some NaNs. -/
def isNegative (x : Binary64) : Bool := twoPow 63 ≤ x.bits.toNat

/-- The eleven bits of the exponent field. -/
def exponentField (x : Binary64) : Nat := x.bits.toNat / twoPow 52 % twoPow 11

/-- The fifty-two bits of the fraction. -/
def fraction (x : Binary64) : Nat := x.bits.toNat % twoPow 52

/-- Neither an infinity nor a NaN. -/
def isFinite (x : Binary64) : Bool := x.exponentField != 2047

/-- Not a number. -/
def isNaN (x : Binary64) : Bool := x.exponentField == 2047 && x.fraction != 0

/-- One of the two zeros. -/
def isZero (x : Binary64) : Bool := x.exponentField == 0 && x.fraction == 0

/-- The fraction with its leading bit, which is absent from the smallest numbers. -/
def significand (x : Binary64) : Nat :=
  if x.exponentField = 0 then x.fraction else twoPow 52 + x.fraction

/-- The power of two that the significand counts, raised by 1074. -/
def unitIndex (x : Binary64) : Nat := x.exponentField - 1

/-- The numerator of the magnitude of a finite number. -/
def numerator (x : Binary64) : Nat := x.significand * twoPow (x.unitIndex - 1074)

/-- The denominator of the magnitude of a finite number, a power of two. -/
def denominator (x : Binary64) : Nat := twoPow (1074 - x.unitIndex)

/-! ### Rounding -/

/-- The integer nearest to a quotient, the even one of two that are equally near. -/
def roundHalfEven (num den : Nat) : Nat :=
  let q := num / den
  let r := num % den
  if 2 * r < den then q else if den < 2 * r then q + 1 else q + q % 2

/-- The positive infinity without its sign, as bits. -/
def infinityBits : Nat := 2047 * twoPow 52

/-- Puts the sign on the bits of a magnitude. -/
def withSign (negative : Bool) (magnitude : Nat) : Binary64 :=
  ⟨UInt64.ofNat (if negative then twoPow 63 + magnitude else magnitude)⟩

/-- A zero of either sign. -/
def zeroOf (negative : Bool) : Binary64 := withSign negative 0

/-- An infinity of either sign. -/
def infinity (negative : Bool) : Binary64 := withSign negative infinityBits

/-- The canonical NaN. -/
def nan : Binary64 := withSign false (infinityBits + twoPow 51)

/-- The number nearest to `num / den` with the given sign, an infinity beyond the largest one.
The unit is the least power of two, from `2 ^ -1074` on, that leaves fewer than 54 bits to count,
and the count may round up into the next exponent. -/
def ofQuotient (negative : Bool) (num den : Nat) : Binary64 :=
  let scaled := num * twoPow 1074
  let unit := Nat.log2 (scaled / den) - 52
  withSign negative (min (unit * twoPow 52 + roundHalfEven scaled (den * twoPow unit)) infinityBits)

/-- The number nearest to an integer. -/
def ofInt (n : Int) : Binary64 := ofQuotient (n < 0) n.natAbs 1

/-! ### Arithmetic -/

/-- The rounded product. -/
def mul (x y : Binary64) : Binary64 :=
  let negative := x.isNegative != y.isNegative
  if x.isNaN || y.isNaN then nan
  else if x.isFinite && y.isFinite then
    ofQuotient negative (x.numerator * y.numerator) (x.denominator * y.denominator)
  else if x.isZero || y.isZero then nan
  else infinity negative

/-- The rounded quotient. -/
def div (x y : Binary64) : Binary64 :=
  let negative := x.isNegative != y.isNegative
  if x.isNaN || y.isNaN || (!x.isFinite && !y.isFinite) || (x.isZero && y.isZero) then nan
  else if !x.isFinite || y.isZero then infinity negative
  else if !y.isFinite then zeroOf negative
  else ofQuotient negative (x.numerator * y.denominator) (x.denominator * y.numerator)

/-- The integer nearest to a number, away from zero when two are equally near. -/
def roundHalfAway (x : Binary64) : Binary64 :=
  if x.isFinite then
    ofQuotient x.isNegative ((2 * x.numerator + x.denominator) / (2 * x.denominator)) 1
  else x

/-- The value of a finite number with its fractional part dropped. -/
def truncated (x : Binary64) : Option Int :=
  if x.isFinite then
    let magnitude := x.numerator / x.denominator
    some (if x.isNegative then -(magnitude : Int) else magnitude)
  else none

/-- Equality as numbers. -/
def sameNumber (x y : Binary64) : Bool :=
  !x.isNaN && !y.isNaN && (x == y || (x.isZero && y.isZero))

end Binary64

end TableMapping
