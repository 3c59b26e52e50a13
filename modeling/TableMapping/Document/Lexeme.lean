import TableMapping.Document

/-!
# Numbers as they are written

A numeral without point and exponent that fits 64 bits is an integer, and everything else is a
double; so is the negative zero.  A double is computed from as many leading digits as fit 64 bits,
by one multiplication with or division by a power of ten for every 308 decades, each of them
rounded.  The result can therefore differ from the nearest double in its last bits.  A number
beyond the largest double is out of range.

## Main definitions

* `Lexeme` : the parts of a numeral.
* `Lexeme.value?` : the number that it denotes, unless it is out of range.
-/

namespace TableMapping

/-- The parts of a numeral: its sign, the digits before the point, those after it, and the exponent
with its sign. -/
structure Lexeme where
  negative : Bool
  whole : List Char
  part : Option (List Char)
  exponent : Option (Bool × List Char)

namespace Lexeme

/-- Appends digits to a significand for as long as it fits 64 bits; the rest is left over. -/
def absorb (significand : Nat) : List Char → Nat × List Char
  | [] => (significand, [])
  | c :: cs =>
    let next := significand * 10 + (c.toNat - 48)
    if FitsUInt64 next then absorb next cs else (significand, c :: cs)

/-- A power of ten as a double. -/
def powerOfTen (n : Nat) : Binary64 := Binary64.ofQuotient false (tenPow n) 1

/-- Division by a power of ten, 308 decades at a time. -/
def divideByPower (x : Binary64) (n : Nat) : Binary64 :=
  if n ≤ 308 then x.div (powerOfTen n)
  else if x.isZero then x
  else divideByPower (x.div (powerOfTen 308)) (n - 308)
termination_by n

/-- A significand scaled by a power of ten; there is no result beyond the largest double. -/
def scale? (significand : Nat) (exponent : Int) : Option Binary64 :=
  let x := Binary64.ofQuotient false significand 1
  if exponent < 0 then some (divideByPower x exponent.natAbs)
  else if 308 < exponent then if x.isZero then some x else none
  else
    let y := x.mul (powerOfTen exponent.natAbs)
    if y.isFinite then some y else none

/-- A positive double under a sign. -/
def withSign? (negative : Bool) (x : Binary64) : Option Number :=
  let y := if negative then x.mul (Binary64.ofInt (-1)) else x
  if h : y.isFinite = true then some (.float y h) else none

/-- The greatest exponent that is computed with. -/
def greatestExponent : Nat := 2147483647

/-- The number that a numeral denotes, unless it is out of range. -/
def value? (l : Lexeme) : Option Number :=
  let (whole, dropped) := absorb 0 l.whole
  let (significand, ignored) := absorb whole (l.part.getD [])
  let start : Int := dropped.length - ((l.part.getD []).length - ignored.length : Nat)
  match l.part, l.exponent, dropped with
  | none, none, [] =>
    match WideInt.ofInt? (if l.negative then -(whole : Int) else whole) with
    | some n =>
      if l.negative && whole == 0 then withSign? true (Binary64.zeroOf false)
      else some (.integer n)
    | none => withSign? true (Binary64.ofQuotient false whole 1)
  | _, none, _ => (scale? significand start).bind (withSign? l.negative)
  | _, some (down, digits), _ =>
    let exponent := Nat.ofDigitChars 10 digits 0
    if greatestExponent < exponent then
      if significand != 0 && !down then none
      else withSign? l.negative (Binary64.zeroOf false)
    else
      (scale? significand (if down then start - exponent else start + exponent)).bind
        (withSign? l.negative)

end Lexeme

end TableMapping
