import TableMapping.Flavor
import TableMapping.LiveColumn
import TableMapping.Introspection.Catalog
import TableMapping.Introspection.MemberList
import TableMapping.Number.Layout
import TableMapping.Number.Numeral
import TableMapping.Schema.Sizes
import TableMapping.Schema.Timestamp
import TableMapping.Text.Blank
import TableMapping.Text.Case
import TableMapping.Text.Search
import TableMapping.Text.Utf8

/-!
# Live columns from catalog rows

A catalog row is turned into a live column in the form in which declared columns are compared.

## Main definitions

* `CatalogError` : why a row cannot be turned into a live column.
* `liveDefault?` : a default as it is compared.
* `ColumnRow.updateClause` : what the row says about updates.
* `ColumnRow.toLive` : the live column of a row.
-/

namespace TableMapping

open Text (toLower toUpper trim contains splitFirst)

/-- Why a catalog row cannot be turned into a live column. -/
inductive CatalogError
  /-- The member list in the type of a column cannot be read. -/
  | malformedType (column columnType : String)
  /-- What happens on updates stands nowhere in the text, because the place, counted in bytes of the
  text in lower case, lies beyond the text or inside a character of it. -/
  | misplacedUpdate
deriving DecidableEq

/-- The wording of the errors that have one. -/
def CatalogError.message? : CatalogError → Option String
  | malformedType column columnType =>
    some ("Malformed column type for '" ++ column ++ "': " ++ columnType)
  | misplacedUpdate => none

/-- A default as it is compared.  A current timestamp is brought to upper case.  One flavor
reports an absent default as `NULL` and literals in quotes, and the other one literals without
quotes. -/
def liveDefault? (flavor : Flavor) (reported : Option String) : Option String :=
  match reported with
  | none => none
  | some s =>
    if flavor = .mariadb ∧ s = "NULL" then none
    else if Timestamp.isReported s.toList then some (String.ofList (toUpper s.toList))
    else match flavor with
      | .mariadb => some s
      | .mysql => some ("'" ++ s ++ "'")

namespace ColumnRow

/-! ### Attributes -/

/-- The words before what happens on updates. -/
def updateMark : List Char := "on update ".toList

/-- What happens on updates: the text behind the first mark in any letter case, in upper case.  The
place of the mark is counted in bytes of the text in lower case. -/
def updateClause (extra : List Char) : Except CatalogError (Option (List Char)) :=
  match splitFirst updateMark (toLower extra) with
  | none => .ok none
  | some (before, _) =>
    match Text.dropBytes? (Text.utf8Size before + Text.utf8Size updateMark) extra with
    | some rest => .ok (some (toUpper (trim rest)))
    | none => .error .misplacedUpdate

/-- How a computed column is stored. -/
def storageOf (extra : List Char) : String :=
  if contains "VIRTUAL".toList (toUpper extra) then "VIRTUAL" else "STORED"

/-! ### Sizes -/

/-- The types with a length. -/
def lengthTypes : List String :=
  ["char", "nchar", "national char", "varchar", "nvarchar", "national varchar", "binary",
    "varbinary"]

/-- The types whose length is reported even if it is the implied one. -/
def keptLengthTypes : List String := ["varchar", "nvarchar", "national varchar", "varbinary"]

/-- The types with a display width. -/
def widthTypes : List String :=
  ["bit", "tinyint", "smallint", "mediumint", "int", "integer", "bigint"]

/-- The types with a precision and a scale. -/
def precisionTypes : List String := ["decimal", "double", "float"]

/-- The types with a precision of their fraction of a second. -/
def temporalTypes : List String := ["datetime", "time", "timestamp"]

/-- The types with a domain. -/
def memberTypes : List String := ["enum", "set"]

/-- The types whose implied width shrinks when they lose their sign. -/
def signedTypes : List String := ["tinyint", "smallint", "mediumint", "int", "integer"]

/-- A reported number that fits 32 bits. -/
def size? (n : Option Int) : Option UInt32 :=
  n.bind uint32?

/-- The number in the first parentheses of a type. -/
def parenthesizedNumber? (columnType : List Char) : Option UInt32 :=
  match columnType.dropWhile (· != '(') with
  | [] => none
  | _ :: rest =>
    if rest.contains ')' then readUInt32? (trim (rest.takeWhile (· != ')'))) else none

/-- The width that a type has without being told. -/
def impliedWidth? (typeName : String) (unsigned : Bool) : Option UInt32 :=
  ((ImpliedSizes.of? typeName).bind (·.width)).map fun width =>
    if unsigned && signedTypes.contains typeName then width - 1 else width

/-- The display width of a type, unless it is the implied one. -/
def width? (typeName : String) (unsigned : Bool) (columnType : List Char) : Option UInt32 :=
  if widthTypes.contains typeName then
    (parenthesizedNumber? columnType).filter fun w => some w != impliedWidth? typeName unsigned
  else none

/-- The length of a type, empty if it has none or the implied one goes without saying. -/
def lengthText (typeName : String) (reported : Option Int) : String :=
  if lengthTypes.contains typeName then
    match size? reported with
    | none => ""
    | some n =>
      if (ImpliedSizes.of? typeName).bind (·.length) = some n && !keptLengthTypes.contains typeName
      then "" else String.ofList (natText n.toNat)
  else ""

/-! ### The live column -/

/-- The text of an optional part that is not empty. -/
def nonempty? (s : Option String) : Option String := s.filter fun s => !s.isEmpty

/-- The live column of a row, given the columns that stand alone in a unique index. -/
def toLive (unique : List String) (flavor : Flavor) (r : ColumnRow) :
    Except CatalogError LiveColumn := do
  let typeName := String.ofList (toLower r.dataType.toList)
  let rawType := toLower r.columnType.toList
  let zerofill := contains "zerofill".toList rawType
  let unsigned := zerofill || contains "unsigned".toList rawType
  let onUpdate ← updateClause r.extra.toList
  let members ←
    if memberTypes.contains typeName then
      match MemberList.ofType r.columnType.toList with
      | some members => pure (some (members.map String.ofList))
      | none => throw (.malformedType r.columnName r.columnType)
    else pure none
  let expression := nonempty? r.generationExpression
  return {
    name := r.columnName
    columnType := typeName
    length := lengthText typeName r.characterMaximumLength
    width := width? typeName unsigned rawType
    precision :=
      if temporalTypes.contains typeName then size? r.datetimePrecision
      else if precisionTypes.contains typeName then size? r.numericPrecision else none
    scale := if precisionTypes.contains typeName then size? r.numericScale else none
    isNullable := r.isNullable == "YES"
    isPrimary := r.columnKey == "PRI"
    isUnique := unique.contains r.columnName
    isGenerated := contains "auto_increment".toList r.extra.toList
    default := liveDefault? flavor r.columnDefault
    members := members
    comment := nonempty? r.columnComment
    onUpdate := onUpdate.map String.ofList
    zerofill := zerofill
    unsigned := unsigned
    expression := expression
    storage := expression.map fun _ => storageOf r.extra.toList }

end ColumnRow

end TableMapping
