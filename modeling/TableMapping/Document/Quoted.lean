/-!
# Quoted text

In a document a text stands between double quotes.  The double quote, the backslash and the control
characters below the blank are escaped, the common ones by a letter and the others by their four
hexadecimal digits.

## Main definitions

* `Quoted.escape` : how one character is written.
* `Quoted.quote` : a text between its quotes.
* `Quoted.unescape?` : the character that a letter after a backslash stands for.
* `Quoted.hexValue?` : the value of four hexadecimal digits.
-/

namespace TableMapping.Quoted

/-- The lower-case hexadecimal digit of a value below sixteen. -/
def hexDigit (n : Nat) : Char := Nat.digitChar n

/-- A character as it is written between quotes. -/
def escape (c : Char) : List Char :=
  if c == '\x22' then ['\\', '\x22']
  else if c == '\\' then ['\\', '\\']
  else if 32 ≤ c.toNat then [c]
  else if c.toNat == 8 then ['\\', 'b']
  else if c.toNat == 9 then ['\\', 't']
  else if c.toNat == 10 then ['\\', 'n']
  else if c.toNat == 12 then ['\\', 'f']
  else if c.toNat == 13 then ['\\', 'r']
  else ['\\', 'u', '0', '0', hexDigit (c.toNat / 16), hexDigit (c.toNat % 16)]

/-- A text between double quotes. -/
def quote (s : List Char) : List Char := '\x22' :: (s.flatMap escape ++ ['\x22'])

/-- What a letter after a backslash stands for. -/
def unescape? (c : Char) : Option Char :=
  if c == '\x22' || c == '\\' || c == '/' then some c
  else if c == 'b' then some (Char.ofNat 8)
  else if c == 't' then some (Char.ofNat 9)
  else if c == 'n' then some (Char.ofNat 10)
  else if c == 'f' then some (Char.ofNat 12)
  else if c == 'r' then some (Char.ofNat 13)
  else none

/-- The value of a hexadecimal digit of either case. -/
def hexDigitValue? (c : Char) : Option Nat :=
  if c.isDigit then some (c.toNat - 48)
  else if 'a' ≤ c ∧ c ≤ 'f' then some (c.toNat - 87)
  else if 'A' ≤ c ∧ c ≤ 'F' then some (c.toNat - 55)
  else none

/-- The value of a run of hexadecimal digits. -/
def hexValue? (s : List Char) : Option Nat :=
  s.foldlM (fun n c => (hexDigitValue? c).map (16 * n + ·)) 0

end TableMapping.Quoted
