/-!
# Searching and splitting

Where a pattern first occurs in a text, and the pieces between separators.

## Main definitions

* `startsWith?` : what follows a pattern at the start of a text.
* `splitFirst` : the text before and after the first occurrence of a pattern.
* `contains` : whether a pattern occurs.
* `splitOn` : the pieces between the occurrences of a separator, one more than there are.
* `afterLast` : what follows the last character of a class.
-/

namespace TableMapping.Text

/-- What follows `pattern` in a text that starts with it. -/
def startsWith? : (pattern s : List Char) → Option (List Char)
  | [], s => some s
  | _ :: _, [] => none
  | p :: ps, c :: cs => if p = c then startsWith? ps cs else none

/-- The text before and after the first occurrence of `pattern`. -/
def splitFirst (pattern : List Char) : List Char → Option (List Char × List Char)
  | [] => (startsWith? pattern []).map fun rest => ([], rest)
  | c :: cs =>
    match startsWith? pattern (c :: cs) with
    | some rest => some ([], rest)
    | none => (splitFirst pattern cs).map fun (before, after) => (c :: before, after)

/-- Whether `pattern` occurs in a text. -/
def contains (pattern s : List Char) : Bool := (splitFirst pattern s).isSome

/-- The pieces of a text between the occurrences of `sep`. -/
def splitOn (sep : Char) : List Char → List (List Char)
  | [] => [[]]
  | c :: cs =>
    if c = sep then [] :: splitOn sep cs
    else match splitOn sep cs with
      | [] => [[c]]
      | piece :: pieces => (c :: piece) :: pieces

/-- The pieces joined again, with `sep` between them. -/
def joinWith (sep : List Char) : List (List Char) → List Char
  | [] => []
  | [piece] => piece
  | piece :: pieces => piece ++ sep ++ joinWith sep pieces

/-- What follows the last character with property `p`, if there is one. -/
def afterLast (p : Char → Bool) : List Char → Option (List Char)
  | [] => none
  | c :: cs =>
    match afterLast p cs with
    | some rest => some rest
    | none => if p c then some cs else none

end TableMapping.Text
