/-!
# Text from bytes

The UTF-8 form of characters: how many bytes a character takes, and how a sequence of bytes reads
as text.  Strict reading refuses ill-formed sequences.  Lenient reading puts one replacement
character for each maximal ill-formed part, that is the longest start of a well-formed sequence,
or else one byte.

## Main definitions

* `utf8Size` : the bytes that a text takes.
* `dropBytes?` : a text without a number of bytes in front, if a character begins there.
* `decodeStrict`, `decodeLenient` : bytes as text.
-/

namespace TableMapping.Text

/-- The number of bytes of a text. -/
def utf8Size : List Char → Nat
  | [] => 0
  | c :: cs => c.utf8Size + utf8Size cs

/-- The text after the first `n` bytes; there is none when the text is shorter, or when a character
reaches across the boundary. -/
def dropBytes? : Nat → List Char → Option (List Char)
  | 0, s => some s
  | _ + 1, [] => none
  | n + 1, c :: cs => if c.utf8Size ≤ n + 1 then dropBytes? (n + 1 - c.utf8Size) cs else none

/-- How a well-formed sequence goes on after its first byte: its payload, and the bounds of each
further byte in turn. -/
def leadByte? (b : Nat) : Option (Nat × List (Nat × Nat)) :=
  if b < 0x80 then some (b, [])
  else if 0xc2 ≤ b && b ≤ 0xdf then some (b - 0xc0, [(0x80, 0xbf)])
  else if b == 0xe0 then some (0, [(0xa0, 0xbf), (0x80, 0xbf)])
  else if b == 0xed then some (0xd, [(0x80, 0x9f), (0x80, 0xbf)])
  else if 0xe1 ≤ b && b ≤ 0xef then some (b - 0xe0, [(0x80, 0xbf), (0x80, 0xbf)])
  else if b == 0xf0 then some (0, [(0x90, 0xbf), (0x80, 0xbf), (0x80, 0xbf)])
  else if 0xf1 ≤ b && b ≤ 0xf3 then some (b - 0xf0, [(0x80, 0xbf), (0x80, 0xbf), (0x80, 0xbf)])
  else if b == 0xf4 then some (4, [(0x80, 0x8f), (0x80, 0xbf), (0x80, 0xbf)])
  else none

/-- A sequence under way: the payload so far and the bounds of the bytes to come. -/
abbrev Pending := Nat × List (Nat × Nat)

/-- A byte that begins a sequence: what it completes, and what it leaves under way. -/
def beginSequence (b : UInt8) : List (Option Char) × Option Pending :=
  match leadByte? b.toNat with
  | none => ([none], none)
  | some (value, []) => ([some (Char.ofNat value)], none)
  | some (value, bounds) => ([], some (value, bounds))

/-- One byte after a sequence under way.  A byte out of bounds leaves that sequence ill-formed and
begins the next one. -/
def decodeByte (b : UInt8) : Option Pending → List (Option Char) × Option Pending
  | none => beginSequence b
  | some (_, []) => (none :: (beginSequence b).1, (beginSequence b).2)
  | some (value, (lo, hi) :: more) =>
    if lo ≤ b.toNat && b.toNat ≤ hi then
      let value := value * 64 + (b.toNat - 0x80)
      if more.isEmpty then ([some (Char.ofNat value)], none) else ([], some (value, more))
    else (none :: (beginSequence b).1, (beginSequence b).2)

/-- The characters of a sequence of bytes, with `none` for each maximal ill-formed part. -/
def decodeParts (pending : Option Pending) : List UInt8 → List (Option Char)
  | [] => if pending.isSome then [none] else []
  | b :: bs =>
    let (parts, pending) := decodeByte b pending
    parts ++ decodeParts pending bs

/-- Well-formed bytes as text. -/
def decodeStrict (bytes : List UInt8) : Option (List Char) := (decodeParts none bytes).mapM id

/-- Bytes as text, with a replacement character for each maximal ill-formed part. -/
def decodeLenient (bytes : List UInt8) : List Char :=
  (decodeParts none bytes).map fun part => part.getD (Char.ofNat 0xfffd)

end TableMapping.Text
