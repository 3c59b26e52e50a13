import TableMapping.Number.Binary64
import TableMapping.Number.Width

/-!
# Reading numerals

Integers are an optional sign and ASCII digits.  Decimals may also have a point with digits on at
least one side of it, and an exponent; they denote the nearest double.

## Main definitions

* `readNat?`, `readInt?` : integers of any size.
* `readInt64?`, `readUInt64?`, `readUInt32?` : integers of a fixed width.
* `readDecimal?` : decimals.
-/

namespace TableMapping

/-- The value of a text of one or more ASCII digits. -/
def readDigits? (s : List Char) : Option Nat :=
  if s.isEmpty || !s.all Char.isDigit then none else some (Nat.ofDigitChars 10 s 0)

/-- Digits after an optional plus sign. -/
def readNat? : List Char → Option Nat
  | '+' :: s => readDigits? s
  | s => readDigits? s

/-- Digits after an optional sign. -/
def readInt? : List Char → Option Int
  | '-' :: s => (readDigits? s).map fun n => -(n : Int)
  | s => (readNat? s).map Int.ofNat

/-- A signed integer of 64 bits. -/
def readInt64? (s : List Char) : Option Int64 :=
  (readInt? s).bind int64?

/-- An unsigned integer of 64 bits. -/
def readUInt64? (s : List Char) : Option UInt64 :=
  (readNat? s).bind fun n => uint64? n

/-- An unsigned integer of 32 bits. -/
def readUInt32? (s : List Char) : Option UInt32 :=
  (readNat? s).bind fun n => uint32? n

/-- The double nearest to `digits * 10 ^ exponent`.  Exponents far beyond the range of doubles are
settled by the number of digits. -/
def Binary64.ofDecimal (negative : Bool) (digits : Nat) (exponent : Int) : Binary64 :=
  let magnitude := ((Nat.toDigits 10 digits).length : Int) + exponent
  if digits = 0 || magnitude < -400 then zeroOf negative
  else if 400 < magnitude then infinity negative
  else if exponent < 0 then ofQuotient negative digits (tenPow exponent.natAbs)
  else ofQuotient negative (digits * tenPow exponent.natAbs) 1

/-- The power of ten after an exponent mark; without a mark it is zero. -/
def readExponent? : List Char → Option Int
  | [] => some 0
  | e :: s => if e = 'e' ∨ e = 'E' then readInt? s else none

/-- A decimal without its sign. -/
def readMagnitude? (negative : Bool) (s : List Char) : Option Binary64 :=
  let whole := s.takeWhile Char.isDigit
  let (part, rest) := match s.dropWhile Char.isDigit with
    | '.' :: rest => (rest.takeWhile Char.isDigit, rest.dropWhile Char.isDigit)
    | rest => ([], rest)
  if whole.isEmpty && part.isEmpty then none
  else (readExponent? rest).map fun exponent =>
    Binary64.ofDecimal negative (Nat.ofDigitChars 10 (whole ++ part) 0) (exponent - part.length)

/-- A decimal numeral as the nearest double. -/
def readDecimal? : List Char → Option Binary64
  | '-' :: s => readMagnitude? true s
  | '+' :: s => readMagnitude? false s
  | s => readMagnitude? false s

end TableMapping
