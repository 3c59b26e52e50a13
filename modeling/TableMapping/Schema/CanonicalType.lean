import TableMapping.Column
import TableMapping.Flavor

/-!
# Canonical types

The type, the length and the width that the server reports for a column that was created as it is
declared.

## Main definitions

* `ColumnType.canonical` : the type under which the server knows a declared type.
* `Column.typeName`, `Column.lengthText`, `Column.displayWidth` : what is reported for a column.
* `Column.fullType` : the type of a column with its sizes.
-/

namespace TableMapping

/-- The type that the server reports for a declared type. -/
def ColumnType.canonical (flavor : Flavor) : ColumnType → ColumnType
  | .application .number | .dialect .integer => .dialect .int
  | .application .string | .dialect .uuid | .dialect .nvarchar | .dialect .nationalVarchar =>
    .dialect .varchar
  | .application .date => .dialect .datetime
  | .application .buffer => .dialect .blob
  | .application .boolean | .dialect .bool | .dialect .boolean => .dialect .tinyint
  | .dialect .json => match flavor with
    | .mysql => .dialect .json
    | .mariadb => .dialect .longtext
  | .dialect .simpleArray | .dialect .simpleJson => .dialect .text
  | .dialect .simpleEnum => .dialect .enum
  | .dialect .doublePrecision | .dialect .real => .dialect .double
  | .dialect .dec | .dialect .numeric | .dialect .fixed => .dialect .decimal
  | .dialect .nchar | .dialect .nationalChar => .dialect .char
  | .dialect t => .dialect t
  | .other name => .other name

/-- A number of 32 bits in decimal. -/
def sizeText (n : UInt32) : String := String.ofList (natText n.toNat)

namespace Column

/-- The name of the type that the server reports for a column. -/
def typeName (flavor : Flavor) (c : Column) : String := (c.columnType.canonical flavor).spelling

/-- The length of a unique identifier in text. -/
def uuidLength : String := "36"

/-- The length of texts and bytes of variable length, unless another one is declared. -/
def variableLength : String := "255"

/-- The length that the server reports for a column, empty if the type has none. -/
def lengthText (c : Column) : String :=
  match c.length with
  | some n => sizeText n
  | none =>
    if c.isPrimary && c.strategy == some .uuid then uuidLength
    else match c.columnType with
      | .dialect .uuid => uuidLength
      | .application .string | .dialect .varchar | .dialect .nvarchar | .dialect .nationalVarchar
      | .dialect .varbinary => variableLength
      | _ => ""

/-- The display width that the server reports for a column; truth values have a width of one. -/
def displayWidth (c : Column) : Option UInt32 :=
  match c.width with
  | some n => some n
  | none => if c.columnType.isBoolean then some 1 else none

/-- The sizes of a column as they stand in its type. -/
def sizes? (c : Column) : Option String :=
  match c.length, c.displayWidth, c.precision, c.scale with
  | some length, _, _, _ => some (sizeText length)
  | none, some width, _, _ => some (sizeText width)
  | none, none, some precision, some scale => some (sizeText precision ++ "," ++ sizeText scale)
  | none, none, some precision, none => some (sizeText precision)
  | none, none, none, _ => none

/-- The type of a column with its sizes, as in `decimal(10,2)`. -/
def fullType (flavor : Flavor) (c : Column) : String :=
  let sized := match c.sizes? with
    | some sizes => c.typeName flavor ++ "(" ++ sizes ++ ")"
    | none => c.typeName flavor
  if c.isArray then sized ++ " array" else sized

end Column

end TableMapping
