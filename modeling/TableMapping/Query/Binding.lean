import TableMapping.Query.Template
import TableMapping.Number.Numeral
import TableMapping.Text.Search
import TableMapping.Value

/-!
# Binding parameters

The database client knows markers in place of values and takes the values in the order of the
markers.  Binding rewrites a template for it.  A placeholder becomes a marker, or a marker for
each item of a list, or the text of an expression; a placeholder without a parameter is no
placeholder and stays as it is.

## Main definitions

* `Parameter` : what a name stands for.
* `Notice` : what is worth telling about a placeholder.
* `Bound` : what a piece of a template turns into.
* `NativeKey.precedes` : the order of the values that come before those of the placeholders.
* `bind` : the rewritten statement and its values.
-/

namespace TableMapping

/-- What a name in a template stands for: a value, or the text of an expression. -/
inductive Parameter
  | value (v : Value)
  /-- The text of an expression.  It is made by a producer that is called at each placeholder, and that is
  taken to give the same text at every call. -/
  | sql (text : String)

/-- What is worth telling about a placeholder. -/
inductive Notice
  /-- There is no parameter for it. -/
  | unbound (p : Placeholder)
  /-- It asks for the items of something that is no list. -/
  | spreadOfScalar (name : List Char)

/-- What a piece of a template turns into: text, values for the markers in it, and notices. -/
structure Bound where
  text : List Char
  values : List Value
  notices : List Notice

namespace Bound

/-- The marker for a value. -/
def marker : List Char := ['?']

/-- Text without markers. -/
def literal (s : List Char) : Bound := ⟨s, [], []⟩

/-- A marker for one value. -/
def single (v : Value) : Bound := ⟨marker, [v], []⟩

/-- A marker for each item of a list. -/
def spread (items : List Value) : Bound :=
  ⟨Text.joinWith [',', ' '] (items.map fun _ => marker), items, []⟩

/-- What a placeholder turns into, given what its name stands for. -/
def ofPlaceholder (p : Placeholder) : Option Parameter → Bound
  | none => { literal p.text with notices := [.unbound p] }
  | some (.sql text) => literal text.toList
  | some (.value v) =>
    match p.spread, v with
    | true, .array items => spread items
    | true, v => { single v with notices := [.spreadOfScalar p.name] }
    | false, v => single v

/-- What a piece turns into. -/
def ofPiece (parameters : List (String × Parameter)) : Piece → Bound
  | .char c => literal [c]
  | .placeholder p => ofPlaceholder p (parameters.lookup (String.ofList p.name))

end Bound

namespace NativeKey

/-- The order of keys: those that are numbers come first, by their numbers, and keys of one number
and keys that are none are ordered as texts. -/
def precedes (a b : String) : Bool :=
  match readUInt64? a.toList, readUInt64? b.toList with
  | some m, some n => m < n || (m == n && a < b)
  | some _, none => true
  | none, some _ => false
  | none, none => a < b

/-- Values in the order of their keys. -/
def sort (native : List (String × Value)) : List (String × Value) :=
  native.mergeSort fun a b => !precedes b.1 a.1

end NativeKey

/-- A statement for the database client: its text, and the values of its markers after those that
come before. -/
structure Statement where
  sql : List Char
  values : List Value

/-- What the pieces of a template turn into. -/
def bindPieces (template : List Char) (parameters : List (String × Parameter)) : List Bound :=
  if parameters.isEmpty then [.literal template]
  else (Template.pieces template).map (Bound.ofPiece parameters)

/-- A template with its placeholders rewritten.  The native values come first, in the order of their
keys. -/
def bind (template : List Char) (parameters : List (String × Parameter))
    (native : List (String × Value)) : Statement :=
  let bound := bindPieces template parameters
  { sql := bound.flatMap (·.text)
    values := (NativeKey.sort native).map (·.2) ++ bound.flatMap (·.values) }

/-- What is worth telling about the placeholders of a template. -/
def bindNotices (template : List Char) (parameters : List (String × Parameter)) : List Notice :=
  (bindPieces template parameters).flatMap (·.notices)

namespace Parameter

/-- The parameter of a document: an object with the text of an expression in the field `sql` stands
for the expression, and everything else for its value. -/
def ofDocument (d : Document) : Parameter :=
  match d with
  | .object fields =>
    match fields.lookup "sql" with
    | some (.text expression) => .sql expression
    | _ => .value (.ofDocument d)
  | d => .value (.ofDocument d)

/-- The parameters of an object, by their names. -/
def ofFields (fields : List (String × Document)) : List (String × Parameter) :=
  fields.map fun (name, d) => (name, ofDocument d)

/-- Reads the parameters from the text of an object. -/
def readAll (s : List Char) : Except ReadError (List (String × Parameter)) :=
  ((Decoder.map .document).readText s).map ofFields

end Parameter

end TableMapping
