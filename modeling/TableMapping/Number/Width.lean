/-!
# Integers of fixed width

Integers are exchanged in 32 and 64 bits, with a sign or without one.  An integer is turned into a
word only if it fits, so that nothing ever wraps around.

## Main definitions

* `FitsUInt32`, `FitsInt64`, `FitsUInt64` : the integers of each width.
* `uint32?`, `int64?`, `uint64?` : an integer as a word, if it fits.
* `WideInt` : the integers that fit 64 bits in one of both ways.
-/

namespace TableMapping

/-- The integer fits 32 bits without a sign. -/
abbrev FitsUInt32 (n : Int) : Prop := 0 ≤ n ∧ n < 4294967296

/-- The integer fits 64 bits with a sign. -/
abbrev FitsInt64 (n : Int) : Prop := -9223372036854775808 ≤ n ∧ n < 9223372036854775808

/-- The integer fits 64 bits without a sign. -/
abbrev FitsUInt64 (n : Int) : Prop := 0 ≤ n ∧ n < 18446744073709551616

/-- An integer as a word of 32 bits without a sign, if it fits. -/
def uint32? (n : Int) : Option UInt32 :=
  if FitsUInt32 n then some (UInt32.ofNat n.toNat) else none

/-- An integer as a word of 64 bits with a sign, if it fits. -/
def int64? (n : Int) : Option Int64 := if FitsInt64 n then some (Int64.ofInt n) else none

/-- An integer as a word of 64 bits without a sign, if it fits. -/
def uint64? (n : Int) : Option UInt64 :=
  if FitsUInt64 n then some (UInt64.ofNat n.toNat) else none

/-- An integer that fits 64 bits, with a sign or without one. -/
structure WideInt where
  val : Int
  lower : -9223372036854775808 ≤ val
  upper : val < 18446744073709551616
deriving DecidableEq

namespace WideInt

/-- An integer within the bounds. -/
def ofInt? (n : Int) : Option WideInt :=
  if h : -9223372036854775808 ≤ n ∧ n < 18446744073709551616 then some ⟨n, h.1, h.2⟩ else none

/-- A signed integer of 64 bits. -/
def ofInt64 (n : Int64) : WideInt :=
  ⟨n.toInt, n.le_toInt, Int.lt_trans n.toInt_lt (by decide)⟩

/-- An unsigned integer of 64 bits. -/
def ofUInt64 (n : UInt64) : WideInt :=
  ⟨n.toNat, by omega, by have := n.toNat_lt; omega⟩

/-- The value as a signed integer, if it is small enough. -/
def toInt64? (n : WideInt) : Option Int64 := int64? n.val

/-- The value as a word without a sign; negative values count as zero. -/
def toUInt64 (n : WideInt) : UInt64 := UInt64.ofNat n.val.toNat

end WideInt

end TableMapping
