import TableMapping.Document
import TableMapping.Document.Quoted
import TableMapping.Number.Layout
import TableMapping.Text.Search

/-!
# Printing documents

The compact text of a document: no blanks, the fields of an object in the order they are held.

## Main definitions

* `Document.render` : the text of a document.
* `Document.compact` : the same as a string.
-/

namespace TableMapping

/-- The text of a number. -/
def Number.render : Number → List Char
  | .integer n => intText n.val
  | .float x _ => x.documentText

namespace Document

mutual

/-- The compact text of a document. -/
def render : Document → List Char
  | .null => ['n', 'u', 'l', 'l']
  | .bool true => ['t', 'r', 'u', 'e']
  | .bool false => ['f', 'a', 'l', 's', 'e']
  | .number n => n.render
  | .text s => Quoted.quote s.toList
  | .list items => '[' :: (Text.joinWith [','] (renderItems items) ++ [']'])
  | .object fields => '\x7b' :: (Text.joinWith [','] (renderFields fields) ++ ['\x7d'])

/-- The texts of the items of a list. -/
def renderItems : List Document → List (List Char)
  | [] => []
  | d :: rest => d.render :: renderItems rest

/-- The texts of the fields of an object, each a name and a document. -/
def renderFields : List (String × Document) → List (List Char)
  | [] => []
  | (name, d) :: rest => (Quoted.quote name.toList ++ ':' :: d.render) :: renderFields rest

end

/-- The compact text of a document as a string. -/
def compact (d : Document) : String := String.ofList d.render

end Document

end TableMapping
