import TableMapping.Flavor
import TableMapping.Text.Digit
import TableMapping.Text.Word

/-!
# Current timestamps

The expression for the current time has many spellings, in any letter case: with or without
parentheses, and with or without a precision between them.  All are brought to one spelling, which
keeps the precision.

## Main definitions

* `Timestamp.occursAsWord` : whether a keyword stands in a text as a whole word.
* `Timestamp.precision?` : the first number in parentheses.
* `Timestamp.canonical` : the one spelling of a text that names the current time.
* `Timestamp.isReported` : the spellings that the server reports.
-/

namespace TableMapping.Timestamp

/-- The keyword of the one spelling. -/
def keyword : List Char := "CURRENT_TIMESTAMP".toList

/-- The keywords that name the current time. -/
def keywords : List (List Char) :=
  [keyword, "NOW".toList, "LOCALTIMESTAMP".toList, "LOCALTIME".toList]

/-- A character of a text agrees with a capital of a keyword in any letter case; the long s is a
letter case of the s. -/
def agrees (capital c : Char) : Bool := c.toUpper == capital || (capital == 'S' && c.toNat == 0x17f)

/-- What follows a keyword at the start of a text. -/
def afterKeyword? : (capitals s : List Char) → Option (List Char)
  | [], s => some s
  | _ :: _, [] => none
  | k :: ks, c :: cs => if agrees k c then afterKeyword? ks cs else none

/-- Whether a text begins with a character of a word. -/
def startsInWord : List Char → Bool
  | [] => false
  | c :: _ => Text.isWord c

/-- Whether a keyword stands in a text as a whole word, where `inWord` tells if the text follows a
character of a word. -/
def occursAsWord (capitals : List Char) (inWord : Bool) : List Char → Bool
  | [] => false
  | c :: cs =>
    let here := match afterKeyword? capitals (c :: cs) with
      | some rest => !inWord && !startsInWord rest
      | none => false
    here || occursAsWord capitals (Text.isWord c) cs

/-- Whether a text names the current time. -/
def named (s : List Char) : Bool := keywords.any fun k => occursAsWord k false s

/-- The digits between parentheses at the start of a text, with the parentheses. -/
def precisionHere? : List Char → Option (List Char)
  | '(' :: s =>
    let digits := s.takeWhile Text.isDecimalDigit
    match digits, s.dropWhile Text.isDecimalDigit with
    | _ :: _, ')' :: _ => some ('(' :: (digits ++ [')']))
    | _, _ => none
  | _ => none

/-- The first digits between parentheses, with the parentheses. -/
def precision? : List Char → Option (List Char)
  | [] => none
  | c :: cs => match precisionHere? (c :: cs) with
    | some p => some p
    | none => precision? cs

/-- The one spelling of a text that names the current time: the precision is kept, and without one a
flavor may ask for empty parentheses.  Every other text is left as it is. -/
def canonical (flavor : Flavor) (s : List Char) : List Char :=
  if named s then
    match precision? s, flavor with
    | some p, _ => keyword ++ p
    | none, .mariadb => keyword ++ ['(', ')']
    | none, .mysql => keyword
  else s

/-- Whether a text is a spelling that the server reports: the keyword, alone or before parentheses
with digits or nothing between them. -/
def isReported (s : List Char) : Bool :=
  match afterKeyword? keyword s with
  | none => false
  | some [] => true
  | some ('(' :: rest) => rest.dropWhile Text.isDecimalDigit == [')']
  | some _ => false

end TableMapping.Timestamp
