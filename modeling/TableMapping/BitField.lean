import TableMapping.Value

/-!
# Bit fields

A bit field arrives as bytes, or as a text each of whose characters carries one byte in its low
eight bits.  Both are big-endian.  No column is wider than 64 bits, and what is wider decodes to
zero.

## Main definitions

* `BitField.ofBytes`, `BitField.ofChars` : the number of a field in either form.
* `BitField.decode` : the number of a value; what is neither bytes nor text decodes to zero.
-/

namespace TableMapping.BitField

/-- The bytes of the widest bit field. -/
def maxBytes : Nat := 8

/-- The number of a sequence of bytes, the most significant one first. -/
def ofBytes (bs : List UInt8) : UInt64 :=
  if bs.length ≤ maxBytes then bs.foldl (fun n b => n * 256 + b.toUInt64) 0 else 0

/-- The number of a text whose characters carry one byte each. -/
def ofChars (s : List Char) : UInt64 := ofBytes (s.map fun c => UInt8.ofNat (c.toNat % 256))

/-- The number of a bit field. -/
def decode : Value → UInt64
  | .bytes bs => ofBytes bs
  | .text s => ofChars s.toList
  | _ => 0

end TableMapping.BitField
