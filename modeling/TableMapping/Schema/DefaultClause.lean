import TableMapping.Column
import TableMapping.Schema.Timestamp
import TableMapping.Text.Search

/-!
# Defaults and comments

What the server reports for the default of a column that was created as it is declared, and when two
reported defaults count as the same.  A floating-point default is written with as many decimals as
its column has, and there is a limit to them.

## Main definitions

* `DefaultValue.literal` : a default as bare text.
* `TooManyDecimals` : why a default cannot be written.
* `Column.defaultClause` : the default that the server reports for a column.
* `sameDefault` : equality of defaults up to one layer of quotes.
* `storedComment?` : a comment as the server stores it.
-/

namespace TableMapping

/-- A floating-point default cannot be written, because its column has too many decimals. -/
structure TooManyDecimals where
  decimals : Nat
deriving DecidableEq

/-- The wording of the error. -/
def TooManyDecimals.message (e : TooManyDecimals) : String :=
  "a default cannot be written with " ++ String.ofList (natText e.decimals) ++ " decimals"

namespace DefaultValue

/-- The items of a list default with commas between them. -/
def joinItems (items : List String) : List Char :=
  Text.joinWith [','] (items.map String.toList)

/-- A default as bare text. -/
def literal : DefaultValue → List Char
  | null => []
  | bool b => if b then "true".toList else "false".toList
  | integer n => intText n.toInt
  | float x => x.plainText
  | text s => s.toList
  | list items => joinItems items
  | computed sql => sql.toList

/-- An integer with decimals that are all zero. -/
def integerClause (scale : Option UInt32) (n : Int64) : List Char :=
  match scale with
  | some places =>
    if 0 < places then intText n.toInt ++ '.' :: List.replicate places.toNat '0'
    else intText n.toInt
  | none => intText n.toInt

/-- The most decimals that a floating-point default is written with: the count has sixteen bits. -/
def decimalLimit : Nat := 65535

/-- A floating-point number with the decimals of its column.  The limit holds for every number, also
for one that has no decimals to write, such as an infinite one. -/
def floatClause (scale : Option UInt32) (x : Binary64) : Except TooManyDecimals (List Char) :=
  let decimals := (scale.getD 0).toNat
  if decimals ≤ decimalLimit then .ok (x.fixedText decimals) else .error ⟨decimals⟩

end DefaultValue

/-- A text between single quotes. -/
def singleQuoted (s : List Char) : List Char := '\x27' :: (s ++ ['\x27'])

/-- The default that the server reports for a column, unless it reports none. -/
def Column.defaultClause (flavor : Flavor) (c : Column) :
    Except TooManyDecimals (Option (List Char)) :=
  match c.default with
  | none | some .null => .ok none
  | some d =>
    if c.columnType.isEnum then .ok (some (singleQuoted d.literal))
    else match d with
      | .null => .ok none
      | .text s => .ok (some (singleQuoted s.toList))
      | .list items =>
        let joined := DefaultValue.joinItems items
        .ok (some (if c.columnType = .dialect .set then singleQuoted joined else joined))
      | .integer n => .ok (some (DefaultValue.integerClause c.scale n))
      | .float x => (DefaultValue.floatClause c.scale x).map some
      | .bool b => .ok (some (if b then ['1'] else ['0']))
      | .computed sql => .ok (some (Timestamp.canonical flavor sql.toList))

/-- A text without one single quote in front and one at the end. -/
def stripQuotes (s : List Char) : List Char :=
  let s := match s with
    | '\x27' :: rest => rest
    | _ => s
  if s.getLast? = some '\x27' then s.dropLast else s

/-- Whether two defaults are the same, when one layer of quotes is taken off each. -/
def sameDefault (desired live : Option (List Char)) : Bool :=
  match desired, live with
  | some d, some l => stripQuotes d == stripQuotes l
  | none, none => true
  | _, _ => false

/-- A comment as the server stores it: without null characters, and none at all if it is empty. -/
def storedComment? (comment : Option String) : Option (List Char) :=
  match comment with
  | none => none
  | some s => if s.toList.isEmpty then none else some (s.toList.filter (·.toNat != 0))

end TableMapping
