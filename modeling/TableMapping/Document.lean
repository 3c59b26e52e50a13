import TableMapping.Keyed
import TableMapping.Number.Binary64
import TableMapping.Number.Width

/-!
# Documents

A document is a null, a truth value, a number, a text, a list of documents, or an object that binds
names to documents.  A number is an integer that fits 64 bits, signed or unsigned, or else a finite
double.

## Main definitions

* `Number` : the numbers of documents.
* `Document` : the documents.
* `Document.WellFormed` : the names of every object are in ascending order.
* `Document.depth` : how deep lists and objects nest.
* `Document.sameAs` : equality of documents, with numbers compared as numbers.
-/

namespace TableMapping

/-! ### Numbers -/

/-- A number of a document. -/
inductive Number
  | integer (n : WideInt)
  | float (x : Binary64) (finite : x.isFinite = true)
deriving DecidableEq

/-- Equality as numbers; an integer and a double are never equal. -/
def Number.sameAs : Number → Number → Bool
  | .integer m, .integer n => m == n
  | .float x _, .float y _ => x.sameNumber y
  | _, _ => false

/-! ### Documents -/

/-- A document. -/
inductive Document
  | null
  | bool (b : Bool)
  | number (n : Number)
  | text (s : String)
  | list (items : List Document)
  | object (fields : List (String × Document))

namespace Document

instance : Inhabited Document := ⟨.null⟩

/-- The document of an integer. -/
def ofUInt32 (n : UInt32) : Document := .number (.integer (.ofUInt64 n.toUInt64))

/-- The document of an optional part, null when it is absent. -/
def ofOption {α : Type} (f : α → Document) : Option α → Document
  | none => .null
  | some a => f a

mutual

/-- The number of lists and objects on the longest way into a document. -/
def depth : Document → Nat
  | .list items => depthItems items + 1
  | .object fields => depthFields fields + 1
  | _ => 0

/-- The greatest depth among items. -/
def depthItems : List Document → Nat
  | [] => 0
  | d :: rest => max d.depth (depthItems rest)

/-- The greatest depth among the fields of an object. -/
def depthFields : List (String × Document) → Nat
  | [] => 0
  | (_, d) :: rest => max d.depth (depthFields rest)

end

mutual

/-- The names of every object in the document are in ascending order. -/
def WellFormed : Document → Prop
  | .list items => WellFormedItems items
  | .object fields => Keyed.Ascending fields ∧ WellFormedFields fields
  | _ => True

/-- The same of each item. -/
def WellFormedItems : List Document → Prop
  | [] => True
  | d :: rest => d.WellFormed ∧ WellFormedItems rest

/-- The same of each field. -/
def WellFormedFields : List (String × Document) → Prop
  | [] => True
  | (_, d) :: rest => d.WellFormed ∧ WellFormedFields rest

end

mutual

/-- Equality of documents, with numbers compared as numbers. -/
def sameAs : Document → Document → Bool
  | .null, .null => true
  | .bool a, .bool b => a == b
  | .number m, .number n => m.sameAs n
  | .text s, .text t => s == t
  | .list xs, .list ys => sameItems xs ys
  | .object xs, .object ys => sameFields xs ys
  | _, _ => false

/-- Equality item by item. -/
def sameItems : List Document → List Document → Bool
  | [], [] => true
  | x :: xs, y :: ys => x.sameAs y && sameItems xs ys
  | _, _ => false

/-- Equality field by field. -/
def sameFields : List (String × Document) → List (String × Document) → Bool
  | [], [] => true
  | (k, x) :: xs, (l, y) :: ys => k == l && x.sameAs y && sameFields xs ys
  | _, _ => false

end

end Document

end TableMapping
