/-!
# Blank characters and trimming

Blank space is the Unicode property White_Space.  Numerals, times and the parts of column
descriptions are read after trimming it from one or both ends.

## Main definitions

* `isBlank` : the blank characters.
* `trimStart`, `trimEnd`, `trim` : a text without the blanks at its start, its end, or both.
-/

namespace TableMapping.Text

/-- The characters with the Unicode property White_Space. -/
def isBlank (c : Char) : Bool :=
  let n := c.toNat
  (9 ≤ n && n ≤ 13) || n == 0x20 || n == 0x85 || n == 0xa0 || n == 0x1680 ||
    (0x2000 ≤ n && n ≤ 0x200a) || n == 0x2028 || n == 0x2029 || n == 0x202f || n == 0x205f ||
    n == 0x3000

/-- A text without the blanks in front. -/
def trimStart (s : List Char) : List Char := s.dropWhile isBlank

/-- A text without the blanks at its end. -/
def trimEnd (s : List Char) : List Char := (trimStart s.reverse).reverse

/-- A text without the blanks at both ends. -/
def trim (s : List Char) : List Char := trimEnd (trimStart s)

end TableMapping.Text
