import TableMapping.Document
import TableMapping.Number.Layout
import TableMapping.Number.Numeral
import TableMapping.Text.Blank

/-!
# Quantities

A quantity is a number as the application and the database exchange it: a signed or an unsigned
integer of 64 bits, or a double.

## Main definitions

* `Quantity` : the quantities.
* `Quantity.parse?` : the quantity of a text; an integer that fits is never taken for a double.
* `Quantity.ofNumber` : the quantity of a document's number.
* `Quantity.isZero` : whether it is zero.
-/

namespace TableMapping

/-- A number as it is exchanged with the database. -/
inductive Quantity
  | int (n : Int64)
  | uint (n : UInt64)
  | float (x : Binary64)
deriving DecidableEq

namespace Quantity

/-- The quantity of a text without blanks around it: a signed integer if it fits, else an unsigned
one, else a finite double. -/
def parseTrimmed? (s : List Char) : Option Quantity :=
  match readInt64? s with
  | some n => some (.int n)
  | none => match readUInt64? s with
    | some n => some (.uint n)
    | none => match readDecimal? s with
      | some x => if x.isFinite then some (.float x) else none
      | none => none

/-- The quantity of a text, if it is a numeral between blanks. -/
def parse? (s : List Char) : Option Quantity := parseTrimmed? (Text.trim s)

/-- The quantity of a document's number: signed if it fits. -/
def ofNumber : Number → Quantity
  | .integer n => match n.toInt64? with
    | some i => .int i
    | none => .uint n.toUInt64
  | .float x _ => .float x

/-- Whether a quantity is zero. -/
def isZero : Quantity → Bool
  | .int n => n == 0
  | .uint n => n == 0
  | .float x => x.isZero

end Quantity

end TableMapping
