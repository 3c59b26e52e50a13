import TableMapping.Quantity
import TableMapping.Calendar.Printer
import TableMapping.Document.Printer
import TableMapping.Document.Decoder
import TableMapping.Text.Utf8

/-!
# Values

One type of values serves both sides of the mapping: what the application works with, and what the
database client sends and receives.  Which kinds occur where depends on the type of the column.

## Main definitions

* `Value` : the values.
* `Value.stringify` : a value as text.
* `Value.quantity?` : a value as a number, if it denotes one.
* `Value.toDocument`, `Value.ofDocument` : values as documents, and documents as values.
* `Value.sameAs` : equality of values, which never confuses two kinds.
-/

namespace TableMapping

/-- A value of the application or of the database. -/
inductive Value
  | null
  | bool (b : Bool)
  | int (n : Int64)
  | uint (n : UInt64)
  | float (x : Binary64)
  | text (s : String)
  | bytes (bs : List UInt8)
  | date (d : Date)
  | time (t : Clock)
  | instant (i : Instant)
  | document (d : Document)
  | array (items : List Value)

/-- A quantity as a value. -/
def Quantity.toValue : Quantity → Value
  | .int n => .int n
  | .uint n => .uint n
  | .float x => .float x

namespace Value

instance : Inhabited Value := ⟨.null⟩

/-- The value is the null. -/
def isNull : Value → Bool
  | .null => true
  | _ => false

/-- The text of a value that is one. -/
def asText? : Value → Option String
  | .text s => some s
  | _ => none

/-- A text as a value. -/
def ofChars (s : List Char) : Value := .text (String.ofList s)

/-! ### Values as text -/

mutual

/-- A value as text.  The null is empty, a list is its items with commas between them, and a text
inside a document stands without quotes. -/
def stringify : Value → List Char
  | .null => []
  | .bool b => if b then ['t', 'r', 'u', 'e'] else ['f', 'a', 'l', 's', 'e']
  | .int n => intText n.toInt
  | .uint n => natText n.toNat
  | .float x => x.plainText
  | .text s => s.toList
  | .bytes bs => Text.decodeLenient bs
  | .date d => d.text
  | .time t => t.text
  | .instant i => i.text
  | .document (.text s) => s.toList
  | .document d => d.render
  | .array items => Text.joinWith [','] (stringifyItems items)

/-- The texts of the items of a list. -/
def stringifyItems : List Value → List (List Char)
  | [] => []
  | v :: rest => v.stringify :: stringifyItems rest

end

/-! ### Values as numbers -/

/-- The number that a value denotes.  A truth value counts as one or zero. -/
def quantity? : Value → Option Quantity
  | .int n => some (.int n)
  | .uint n => some (.uint n)
  | .float x => if x.isFinite then some (.float x) else none
  | .bool b => some (.int (if b then 1 else 0))
  | .text s => Quantity.parse? s.toList
  | .document (.number n) => some (.ofNumber n)
  | _ => none

/-! ### Values as documents -/

mutual

/-- A value as a document.  Dates and times are texts, bytes are lists of numbers, and what is no
finite number is a null. -/
def toDocument : Value → Document
  | .null => .null
  | .bool b => .bool b
  | .int n => .number (.integer (.ofInt64 n))
  | .uint n => .number (.integer (.ofUInt64 n))
  | .float x => if h : x.isFinite = true then .number (.float x h) else .null
  | .text s => .text s
  | .bytes bs => .list (bs.map fun b => .number (.integer (.ofUInt64 b.toUInt64)))
  | .date d => .text (String.ofList d.text)
  | .time t => .text (String.ofList t.text)
  | .instant i => .text (String.ofList i.text)
  | .document d => d
  | .array items => .list (toDocuments items)

/-- The documents of the items of a list. -/
def toDocuments : List Value → List Document
  | [] => []
  | v :: rest => v.toDocument :: toDocuments rest

end

mutual

/-- A document as a value: lists become lists of values, and objects stay documents. -/
def ofDocument : Document → Value
  | .null => .null
  | .bool b => .bool b
  | .number n => (Quantity.ofNumber n).toValue
  | .text s => .text s
  | .list items => .array (ofDocuments items)
  | .object fields => .document (.object fields)

/-- The values of the items of a list. -/
def ofDocuments : List Document → List Value
  | [] => []
  | d :: rest => ofDocument d :: ofDocuments rest

end

/-- Reads a value from the text of a document. -/
def read (s : List Char) : Except ReadError Value := (Document.read s).map ofDocument

/-! ### Equality -/

mutual

/-- Equality of values.  Doubles are compared as numbers, so a NaN is unequal to itself. -/
def sameAs : Value → Value → Bool
  | .null, .null => true
  | .bool a, .bool b => a == b
  | .int m, .int n => m == n
  | .uint m, .uint n => m == n
  | .float x, .float y => x.sameNumber y
  | .text s, .text t => s == t
  | .bytes a, .bytes b => a == b
  | .date a, .date b => a == b
  | .time a, .time b => a == b
  | .instant a, .instant b => a == b
  | .document a, .document b => a.sameAs b
  | .array xs, .array ys => sameItems xs ys
  | _, _ => false

/-- Equality item by item. -/
def sameItems : List Value → List Value → Bool
  | [], [] => true
  | x :: xs, y :: ys => x.sameAs y && sameItems xs ys
  | _, _ => false

end

end Value

end TableMapping
