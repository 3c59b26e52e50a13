/-!
# Statement templates

A template is the text of a statement with named placeholders: a colon and a name of ASCII letters,
digits, underscores and points.  Three points before the name ask for the items of a list.  The name
is as long as it can be.

## Main definitions

* `Placeholder` : a placeholder, with `Placeholder.text` as it is written.
* `Piece` : a character of a template or a placeholder.
* `Template.pieces` : the pieces of a template, from left to right.
-/

namespace TableMapping

/-- A placeholder for one value, or for the items of a list. -/
structure Placeholder where
  spread : Bool
  name : List Char
deriving DecidableEq

namespace Placeholder

/-- The characters of names. -/
def isNameChar (c : Char) : Bool := c.isAlphanum || c == '_' || c == '.'

/-- The mark of a placeholder for the items of a list. -/
def spreadMark : List Char := ['.', '.', '.']

/-- The placeholder of the name characters after a colon, if there are any. -/
def ofRun : List Char → Option Placeholder
  | [] => none
  | '.' :: '.' :: '.' :: c :: rest => some ⟨true, c :: rest⟩
  | c :: rest => some ⟨false, c :: rest⟩

/-- A placeholder as it is written. -/
def text (p : Placeholder) : List Char :=
  ':' :: (if p.spread then spreadMark ++ p.name else p.name)

end Placeholder

/-- A piece of a template. -/
inductive Piece
  | char (c : Char)
  | placeholder (p : Placeholder)
deriving DecidableEq

/-- A piece as it is written. -/
def Piece.text : Piece → List Char
  | char c => [c]
  | placeholder p => p.text

namespace Template

/-- The piece of a colon and the name characters after it. -/
def ofRun (run : List Char) : Piece :=
  match Placeholder.ofRun run with
  | some p => .placeholder p
  | none => .char ':'

/-- A pass over a template: the pieces so far, latest first, and the name characters since an open
colon, latest first. -/
structure Scan where
  found : List Piece
  run : Option (List Char)

namespace Scan

/-- The pieces so far with the open colon closed. -/
def closed (s : Scan) : List Piece :=
  match s.run with
  | none => s.found
  | some run => ofRun run.reverse :: s.found

/-- One character of the template. -/
def step (s : Scan) (c : Char) : Scan :=
  match s.run with
  | some run =>
    if Placeholder.isNameChar c then ⟨s.found, some (c :: run)⟩
    else if c = ':' then ⟨s.closed, some []⟩
    else ⟨.char c :: s.closed, none⟩
  | none => if c = ':' then ⟨s.found, some []⟩ else ⟨.char c :: s.found, none⟩

end Scan

/-- The pieces of a template. -/
def pieces (template : List Char) : List Piece :=
  (template.foldl Scan.step ⟨[], none⟩).closed.reverse

end Template

end TableMapping
