import TableMapping.Text.CaseTable

/-!
# Letter case

Full case conversion.  A character may become several (`ß` has the upper case `SS`, and the
dotted capital I the lower case `i` with a dot above), so a converted text can be longer or
shorter than the text itself, in characters and in bytes.  A capital sigma becomes a final sigma at
the end of a word.

## Main definitions

* `asciiLower` : lower case of the ASCII letters alone.
* `lowerChar`, `upperChar` : the case mappings of one character.
* `toLower`, `toUpper` : a whole text in one case.
-/

namespace TableMapping.Text

/-- A text with its ASCII letters in lower case and all else as it was. -/
def asciiLower (s : List Char) : List Char := s.map Char.toLower

/-- The counterpart of a code point in the first run that holds it. -/
def CaseRun.apply (runs : List CaseRun) (n : Nat) : Option Nat :=
  match runs with
  | [] => none
  | r :: rest =>
    if r.first ≤ n && n ≤ r.last && (n - r.first) % r.step == 0 then some (r.target + (n - r.first))
    else CaseRun.apply rest n

/-- The lower case of a character, where it does not depend on the neighbours. -/
def lowerChar (c : Char) : List Char :=
  if c.toNat < 128 then [c.toLower]
  else if c.toNat == 0x130 then ['i', Char.ofNat 0x307]
  else match CaseRun.apply lowerRuns c.toNat with
    | some n => [Char.ofNat n]
    | none => [c]

/-- The upper case of a character. -/
def upperChar (c : Char) : List Char :=
  if c.toNat < 128 then [c.toUpper]
  else match upperExpansions.lookup c.toNat with
    | some ns => ns.map Char.ofNat
    | none => match CaseRun.apply upperRuns c.toNat with
      | some n => [Char.ofNat n]
      | none => [c]

/-- A letter that has case. -/
def isCased (c : Char) : Bool :=
  casedRanges.any fun r => r.1 ≤ c.toNat && c.toNat ≤ r.2

/-- A character that case conditions look past. -/
def isCaseIgnorable (c : Char) : Bool :=
  caseIgnorableRanges.any fun r => r.1 ≤ c.toNat && c.toNat ≤ r.2

/-- The first character that case conditions look at has case. -/
def meetsCased (s : List Char) : Bool :=
  match s.dropWhile isCaseIgnorable with
  | [] => false
  | c :: _ => isCased c

/-- The lower case of a text after the characters `before`, the nearest one first: a capital sigma
after a letter and not before one is final. -/
def toLowerAfter (before : List Char) : List Char → List Char
  | [] => []
  | c :: rest =>
    let here := if c.toNat == 0x3a3 then
        (if meetsCased before && !meetsCased rest then [Char.ofNat 0x3c2] else [Char.ofNat 0x3c3])
      else lowerChar c
    here ++ toLowerAfter (c :: before) rest

/-- A text in lower case. -/
def toLower (s : List Char) : List Char := toLowerAfter [] s

/-- A text in upper case. -/
def toUpper (s : List Char) : List Char := s.flatMap upperChar

end TableMapping.Text
