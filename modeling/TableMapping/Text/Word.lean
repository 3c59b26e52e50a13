import TableMapping.Text.WordTable

/-!
# Word characters

A word ends where a word character meets any other character or an end of the text.  Keywords
are recognised only as whole words.

## Main definitions

* `isWord` : the word characters.
-/

namespace TableMapping.Text

/-- The ASCII letters, the ASCII digits and the underscore. -/
def isAsciiWord (c : Char) : Bool := c.isAlphanum || c == '_'

/-- A letter, mark, decimal digit, connector or joiner. -/
def isWord (c : Char) : Bool :=
  if c.toNat < 128 then isAsciiWord c
  else wordRanges.any fun r => r.1 ≤ c.toNat && c.toNat ≤ r.2

end TableMapping.Text
