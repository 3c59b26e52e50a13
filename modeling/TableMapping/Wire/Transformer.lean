import TableMapping.Column
import TableMapping.Number.Binary64

/-!
# Transformers

Ready-made conversions beyond those of the column types.

## Main definitions

* `Transformer.append` : a text at the end of what is stored.
* `Transformer.default` : values in place of the null.
* `Transformer.nullify` : the null in place of every value.
* `Transformer.count` : the length of a list in place of the list.
* `Transformer.cents` : amounts that are stored in hundredths.
-/

namespace TableMapping.Transformer

/-- A text without one `ending`, if it ends with it. -/
def dropEnding (ending s : List Char) : List Char :=
  if ending.isSuffixOf s then s.take (s.length - ending.length) else s

/-- Stores every value as its text with `ending` after it. -/
def append (ending : String) : Transformer where
  toDatabase v := .ofChars (v.stringify ++ ending.toList)
  fromDatabase v := .ofChars (dropEnding ending.toList v.stringify)

/-- Puts one value in place of the null on the way to the database, and another on the way back. -/
def default (stored seen : Value) : Transformer where
  toDatabase v := if v.isNull then stored else v
  fromDatabase v := if v.isNull then seen else v

/-- Stores nothing and sees nothing. -/
def nullify : Transformer where
  toDatabase _ := .null
  fromDatabase _ := .null

/-- Sees the length of a list. -/
def count : Transformer where
  toDatabase v := v
  fromDatabase
    | .array items => .uint (UInt64.ofNat items.length)
    | v => v

/-- Stores an amount in hundredths, rounded. -/
def cents : Transformer where
  toDatabase
    | .float x => .float (x.mul (Binary64.ofInt 100)).roundHalfAway
    | v => v
  fromDatabase
    | .int n => .float ((Binary64.ofInt n.toInt).div (Binary64.ofInt 100))
    | v => v

end TableMapping.Transformer
