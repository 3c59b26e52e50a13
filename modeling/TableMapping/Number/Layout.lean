import TableMapping.Number.Shortest

/-!
# Written forms of numbers

Integers are written in decimal.  Doubles have three written forms: the plain form, which is
positional whatever the magnitude and drops the point of an integer; the document form, which
keeps one decimal and turns to an exponent for very large and very small numbers; and the form
with a fixed number of decimals, which rounds the exact value and goes to the even neighbour from
a tie.

## Main definitions

* `natText`, `intText` : the decimal digits of an integer.
* `Binary64.plainText` : the plain form.
* `Binary64.documentText` : the form of a number in a document.
* `Binary64.fixedText` : the form with a fixed number of decimals.
-/

namespace TableMapping

/-- The decimal digits of a natural number. -/
def natText (n : Nat) : List Char := Nat.toDigits 10 n

/-- The decimal digits of an integer after a minus sign if it is negative. -/
def intText (n : Int) : List Char :=
  if n < 0 then '-' :: natText n.natAbs else natText n.natAbs

namespace Decimal

/-- The digits before and after the decimal point; no digit stands for none. -/
def parts (d : Decimal) : List Char × List Char :=
  let digits := natText d.digits
  if bias ≤ d.grid then (digits ++ List.replicate (d.grid - bias) '0', [])
  else
    let places := bias - d.grid
    if places < digits.length then
      (digits.take (digits.length - places), digits.drop (digits.length - places))
    else ([], List.replicate (places - digits.length) '0' ++ digits)

/-- Positional notation, with `whole` for the decimals of an integer. -/
def positional (whole : List Char) (d : Decimal) : List Char :=
  let (before, after) := d.parts
  (if before.isEmpty then ['0'] else before) ++ (if after.isEmpty then whole else '.' :: after)

/-- The power of ten of the first digit. -/
def magnitude (d : Decimal) : Int :=
  ((natText d.digits).length : Int) - 1 + d.grid - bias

/-- One digit, the others after a point, and the power of ten with its sign. -/
def exponential (d : Decimal) : List Char :=
  let power := d.magnitude
  let mantissa := match natText d.digits with
    | first :: second :: rest => first :: '.' :: second :: rest
    | digits => digits
  mantissa ++ ['e', if power < 0 then '-' else '+'] ++ natText power.natAbs

end Decimal

namespace Binary64

/-- A minus sign in front of a magnitude. -/
def signed (negative : Bool) (magnitude : List Char) : List Char :=
  if negative then '-' :: magnitude else magnitude

/-- The written form of the numbers that have no digits. -/
def specialText (x : Binary64) : List Char :=
  if x.isNaN then "NaN".toList else signed x.isNegative "inf".toList

/-- Positional notation with the fewest digits: `3`, `-0`, `0.1`, and `NaN` or `inf`. -/
def plainText (x : Binary64) : List Char :=
  if !x.isFinite then x.specialText
  else if x.isZero then signed x.isNegative ['0']
  else signed x.isNegative ((x.shortest .up).positional [])

/-- The form of a finite number in a document: the fewest digits, positional with at least one
decimal from `1e-5` up to `1e16`, and with an exponent beyond. -/
def documentText (x : Binary64) : List Char :=
  if x.isZero then signed x.isNegative ['0', '.', '0']
  else
    let d := x.shortest .toEven
    signed x.isNegative
      (if -5 ≤ d.magnitude && d.magnitude < 16 then d.positional ['.', '0'] else d.exponential)

/-- The exact value rounded to a number of decimals. -/
def fixedText (places : Nat) (x : Binary64) : List Char :=
  if !x.isFinite then x.specialText
  else
    let digits := natText (roundHalfEven (x.numerator * tenPow places) x.denominator)
    let digits := List.replicate (places + 1 - digits.length) '0' ++ digits
    let before := digits.take (digits.length - places)
    let after := digits.drop (digits.length - places)
    signed x.isNegative (before ++ if after.isEmpty then [] else '.' :: after)

end Binary64

end TableMapping
