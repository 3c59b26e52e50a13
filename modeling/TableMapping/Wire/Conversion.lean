import TableMapping.BitField
import TableMapping.Column
import TableMapping.Text.Case
import TableMapping.Wire.Temporal

/-!
# Conversion between application and database

Every value of a row is converted on its way to the database and back.  On the way there the
transformers of the column come first, in order, and then the conversion of its type; on the way
back the conversion of the type comes first, and then the transformers in the opposite order.  The
null is not converted, but the transformers see it.

## Main definitions

* `Value.truth` : whether a value counts as true.
* `Value.toWholeNumber` : a number without its fraction.
* `Conversion` : the conversions that types ask for, with `ColumnType.conversion`.
* `Column.persist`, `Column.hydrate` : the whole way there, and the whole way back.
-/

namespace TableMapping

namespace Value

/-! ### Conversions of values -/

/-- Whether a value counts as true.  A text that denotes a number counts like it, and another one
counts as true unless it is empty or says `false`. -/
def truth : Value → Bool
  | .null => false
  | .bool b => b
  | .int n => n != 0
  | .uint n => n != 0
  | .float x => !x.isZero && !x.isNaN
  | .bytes bs => bs.any (· != 0)
  | .text s =>
    match Quantity.parse? s.toList with
    | some q => !q.isZero
    | none => !(s.toList.isEmpty || Text.asciiLower s.toList == "false".toList)
  | _ => true

/-- The integer part of a double, as the nearest signed integer of 64 bits, for doubles from
`-2 ^ 63` to `2 ^ 63`. -/
def wholePart? (x : Binary64) : Option Int64 :=
  x.truncated.bind fun n => if n = 9223372036854775808 then some Int64.maxValue else int64? n

/-- A value that denotes a number as that number, without the fraction of a double that an integer
can stand for. -/
def toWholeNumber (v : Value) : Value :=
  match v.quantity? with
  | some (.float x) => match wholePart? x with
    | some n => .int n
    | none => .float x
  | some q => q.toValue
  | none => v

/-- A value that denotes a number as that number. -/
def toNumber (v : Value) : Value :=
  match v.quantity? with
  | some q => q.toValue
  | none => v

/-- The text of a document, or bytes that hold one, as the document. -/
def parseDocument (v : Value) : Value :=
  let parsed := match v with
    | .text s => (Document.read s.toList).toOption
    | .bytes bs => (Text.decodeStrict bs).bind fun s => (Document.read s).toOption
    | _ => none
  match parsed with
  | some d => .document d
  | none => v

/-- A text as the list of its parts between commas; an empty text is the empty list. -/
def splitList : Value → Value
  | .text s =>
    if s.toList.isEmpty then .array []
    else .array ((Text.splitOn ',' s.toList).map ofChars)
  | v => v

/-- The integer that a stored member might stand for. -/
def memberNumber? : Value → Option Int64
  | .int n => some n
  | .uint n => int64? n.toNat
  | .text s => readInt64? (Text.trim s.toList)
  | _ => none

/-- A stored member as the integer member of the domain that it stands for. -/
def toMember (members : Option (List EnumMember)) (v : Value) : Value :=
  match members, memberNumber? v with
  | some ms, some n => if ms.contains (.int n) then .int n else v
  | _, _ => v

/-- A stored bit field as a number. -/
def toBitField : Value → Value
  | .int n => .int n
  | .uint n => .uint n
  | v => .uint (BitField.decode v)

end Value

/-! ### Conversions of types -/

/-- How the values of a column are converted. -/
inductive Conversion
  | truth
  | instant
  | date
  | time
  | document
  | list
  | member
  | number
  | bits
  | none
deriving DecidableEq

/-- The conversion that a type asks for. -/
def ColumnType.conversion : ColumnType → Conversion
  | .application .boolean | .dialect .bool | .dialect .boolean => .truth
  | .application .date | .dialect .datetime | .dialect .timestamp => .instant
  | .dialect .date => .date
  | .dialect .time => .time
  | .dialect .json | .dialect .simpleJson => .document
  | .dialect .simpleArray | .dialect .set => .list
  | .dialect .enum | .dialect .simpleEnum => .member
  | .application .number => .number
  | .dialect .bit => .bits
  | _ => .none

/-- Converts a value that is not null on its way to the database. -/
def Conversion.toWire : Conversion → Value → Value
  | .truth, v => .int (if v.truth then 1 else 0)
  | .instant, v => v.toInstant
  | .date, v => v.toDateText
  | .time, v => v.toTimeText
  | .document, v => .text v.toDocument.compact
  | .list, v | .member, v => .ofChars v.stringify
  | .number, v => v.toWholeNumber
  | .bits, v | .none, v => v

/-- Converts a value that is not null on its way back, for a column with a domain or without. -/
def Conversion.fromWire (members : Option (List EnumMember)) : Conversion → Value → Value
  | .truth, v => .bool v.truth
  | .instant, v => v.fromWireInstant
  | .date, v => v.toDateText
  | .time, v => v.toTimeText
  | .document, v => v.parseDocument
  | .list, v => v.splitList
  | .member, v => v.toMember members
  | .number, v => v.toNumber
  | .bits, v => v.toBitField
  | .none, v => v

/-! ### The whole way -/

namespace Column

/-- A value as it is stored in a column. -/
def persist (c : Column) (v : Value) : Value :=
  let v := c.transformers.foldl (fun v t => t.toDatabase v) v
  if v.isNull then v else c.columnType.conversion.toWire v

/-- A stored value as the application sees it. -/
def hydrate (c : Column) (v : Value) : Value :=
  let v := if v.isNull then v else c.columnType.conversion.fromWire c.members v
  c.transformers.foldr (fun t v => t.fromDatabase v) v

end Column

end TableMapping
