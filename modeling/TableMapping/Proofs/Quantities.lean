import TableMapping.Proofs.Number.Numerals
import TableMapping.Quantity

/-!
# Quantities of texts and numbers

A text that is a numeral of an integer between blanks is read as that integer and never as a double, as
long as it fits 64 bits with a sign or without one, and no other text is read as that integer.  A double
that is read is a finite one.

## Main definitions

* `Quantity.ofInteger` : an integer as a quantity.
* `Quantity.integer?` : the integer that a quantity is.

## Main results

* `Quantity.parse?_eq_int`, `Quantity.parse?_eq_uint` : the quantity of an integer between blanks.
* `Quantity.parse?_eq_ofInteger_iff` : the texts that are read as an integer.
* `Quantity.ofNumber_integer` : the integers of documents.
* `Quantity.isFinite_of_parse?`, `Quantity.isFinite_of_ofNumber` : the doubles that are read.
-/

namespace TableMapping.Quantity

variable {s numeral : List Char} {n : Int}

/-- A text is read in one of three ways, each only if the ones before it fail. -/
theorem parse?_cases {q : Quantity} (h : parse? s = some q) :
    (∃ m, q = .int m ∧ readInt64? (Text.trim s) = some m) ∨
    (∃ m, q = .uint m ∧ readInt64? (Text.trim s) = none ∧ readUInt64? (Text.trim s) = some m) ∨
      ∃ x, q = .float x ∧ x.isFinite = true := by
  rw [parse?, parseTrimmed?] at h
  split at h
  case h_1 m hm => exact .inl ⟨m, (Option.some.inj h).symm, hm⟩
  case h_2 hsigned =>
    split at h
    case h_1 m hm => exact .inr (.inl ⟨m, (Option.some.inj h).symm, hsigned, hm⟩)
    case h_2 =>
      split at h
      case h_2 => cases h
      case h_1 x _ =>
        rw [Option.ite_none_right_eq_some, Option.some.injEq] at h
        exact .inr (.inr ⟨x, h.2.symm, h.1⟩)

/-- An integer between blanks that fits 64 bits with a sign. -/
theorem parse?_eq_int (hpads : Text.Pads s numeral) (h : DenotesInt numeral n)
    (hn : FitsInt64 n) : parse? s = some (.int (Int64.ofInt n)) := by
  rw [parse?, hpads.trim_eq h.not_isBlank, parseTrimmed?, readInt64?, h.readInt?_eq,
    Option.bind_some, int64?, if_pos hn]

/-- A greater one that fits 64 bits without a sign. -/
theorem parse?_eq_uint (hpads : Text.Pads s numeral) (h : DenotesInt numeral n)
    (hn : 9223372036854775808 ≤ n) (hn' : n < 18446744073709551616) :
    parse? s = some (.uint (UInt64.ofNat n.toNat)) := by
  have hsigned : readInt64? numeral = none := by
    rw [readInt64?, h.readInt?_eq, Option.bind_some, int64?, if_neg (by omega)]
  have hunsigned : readUInt64? numeral = some (UInt64.ofNat n.toNat) := by
    have hfits : FitsUInt64 (n.toNat : Int) := ⟨by omega, by omega⟩
    rw [readUInt64?, h.readNat?_eq (by omega), Option.bind_some, uint64?, if_pos hfits,
      Int.toNat_natCast]
  rw [parse?, hpads.trim_eq h.not_isBlank, parseTrimmed?, hsigned, hunsigned]

/-! ### Integers as quantities -/

/-- The integer that a quantity is, unless it is a double. -/
def integer? : Quantity → Option Int
  | .int n => some n.toInt
  | .uint n => some n.toNat
  | .float _ => none

/-- An integer as a quantity, signed if it fits 64 bits so. -/
def ofInteger (n : WideInt) : Quantity :=
  if n.val < 9223372036854775808 then .int (Int64.ofInt n.val) else .uint (UInt64.ofNat n.val.toNat)

/-- Nothing of the integer is lost. -/
theorem integer?_ofInteger (n : WideInt) : (ofInteger n).integer? = some n.val := by
  have hlower := n.lower
  have hupper := n.upper
  rw [ofInteger]
  split
  case isTrue hsigned => rw [integer?, Int64.toInt_ofInt_of_le hlower hsigned]
  case isFalse hsigned =>
    have hlt : n.val.toNat < 18446744073709551616 := by omega
    rw [integer?, UInt64.toNat_ofNat_of_lt' hlt, Int.toNat_of_nonneg (by omega)]

/-- The integers of documents are signed if they fit 64 bits so. -/
theorem ofNumber_integer (n : WideInt) : ofNumber (.integer n) = ofInteger n := by
  have hlower := n.lower
  rw [ofNumber, WideInt.toInt64?, int64?, ofInteger]
  by_cases hsigned : n.val < 9223372036854775808
  · rw [if_pos ⟨hlower, hsigned⟩, if_pos hsigned]
  · rw [if_neg fun hfits => hsigned hfits.2, if_neg hsigned, WideInt.toUInt64]

theorem ofInteger_ofInt64 (n : Int64) : ofInteger (.ofInt64 n) = .int n := by
  have hsigned : (WideInt.ofInt64 n).val < 9223372036854775808 := n.toInt_lt
  rw [ofInteger, if_pos hsigned, WideInt.ofInt64, Int64.ofInt_toInt]

theorem ofInteger_ofUInt64 {n : UInt64} (h : 9223372036854775808 ≤ n.toNat) :
    ofInteger (.ofUInt64 n) = .uint n := by
  have hunsigned : ¬ (WideInt.ofUInt64 n).val < 9223372036854775808 := by
    change ¬ (n.toNat : Int) < _
    omega
  rw [ofInteger, if_neg hunsigned, WideInt.ofUInt64, Int.toNat_natCast, UInt64.ofNat_toNat]

/-- The texts that are read as a signed integer. -/
theorem parse?_eq_int_iff {n : Int64} : parse? s = some (.int n) ↔ WritesInt s n.toInt := by
  constructor
  · intro h
    obtain ⟨m, hm, hread⟩ | ⟨m, hm, -⟩ | ⟨x, hx, -⟩ := parse?_cases h
    · cases hm
      exact readInt64?_trim_eq_some_iff.mp hread
    · cases hm
    · cases hx
  · rintro ⟨numeral, hpads, h⟩
    rw [parse?_eq_int hpads h ⟨n.le_toInt, n.toInt_lt⟩, Int64.ofInt_toInt]

/-- The texts that are read as an unsigned one: it does not fit with a sign. -/
theorem parse?_eq_uint_iff {n : UInt64} :
    parse? s = some (.uint n) ↔ WritesInt s n.toNat ∧ 9223372036854775808 ≤ n.toNat := by
  constructor
  · intro h
    obtain ⟨m, hm, -⟩ | ⟨m, hm, hsigned, hread⟩ | ⟨x, hx, -⟩ := parse?_cases h
    · cases hm
    · cases hm
      have hdenotes := denotesInt_of_readNat? (readUInt64?_eq_some_iff.mp hread)
      refine ⟨⟨_, Text.pads_trim s, hdenotes⟩, ?_⟩
      by_contra hlt
      have hfits : FitsInt64 n.toNat := ⟨by omega, by omega⟩
      rw [readInt64?, hdenotes.readInt?_eq, Option.bind_some, int64?, if_pos hfits] at hsigned
      cases hsigned
    · cases hx
  · rintro ⟨⟨numeral, hpads, h⟩, hn⟩
    have hlt := n.toNat_lt
    rw [parse?_eq_uint hpads h (by omega) (by omega), Int.toNat_natCast, UInt64.ofNat_toNat]

/-- A text is read as an integer that fits 64 bits if and only if it is a numeral of that integer
between blanks. -/
theorem parse?_eq_ofInteger_iff {n : WideInt} :
    parse? s = some (ofInteger n) ↔ WritesInt s n.val := by
  have hexact := integer?_ofInteger n
  rw [ofInteger] at hexact ⊢
  split
  case isTrue hsigned =>
    rw [if_pos hsigned] at hexact
    rw [parse?_eq_int_iff, Option.some.inj hexact]
  case isFalse hsigned =>
    rw [if_neg hsigned] at hexact
    have hnat := Option.some.inj hexact
    rw [parse?_eq_uint_iff, hnat]
    exact and_iff_left (by omega)

/-! ### Doubles -/

/-- A text never denotes an infinity or a NaN. -/
theorem isFinite_of_parse? {x : Binary64} (h : parse? s = some (.float x)) : x.isFinite = true := by
  obtain ⟨m, hm, -⟩ | ⟨m, hm, -⟩ | ⟨y, hy, hfinite⟩ := parse?_cases h
  · cases hm
  · cases hm
  · cases hy
    exact hfinite

/-- A document's number never denotes one either. -/
theorem isFinite_of_ofNumber {n : Number} {x : Binary64} (h : ofNumber n = .float x) :
    x.isFinite = true := by
  cases n with
  | integer z =>
    rw [ofNumber] at h
    split at h <;> cases h
  | float y hfinite =>
    cases h
    exact hfinite

end TableMapping.Quantity
