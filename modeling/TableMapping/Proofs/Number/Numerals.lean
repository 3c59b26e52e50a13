import TableMapping.Number.Layout
import TableMapping.Number.Numeral
import TableMapping.Proofs.Number.DigitRuns

/-!
# Numerals of integers

A numeral of an integer is a run of ASCII digits, alone or behind a sign.  It has no blank in it, so
trimming leaves it alone, and it is read as its integer.  An integer is written as a numeral of itself,
with a minus sign if it is negative and without zeros in front.

## Main definitions

* `DenotesInt` : the numerals of an integer.
* `WritesInt` : the texts that have one between blanks.

## Main results

* `DenotesInt.readInt?_eq`, `DenotesInt.readNat?_eq` : a numeral is read as its integer.
* `readNat?_eq_some_iff`, `readInt?_eq_some_iff`, `readInt64?_trim_eq_some_iff` : and nothing else is.
* `denotesInt_intText` : the written form of an integer is a numeral of it.
* `readInt64?_intText`, `readUInt32?_natText` : the written form of an integer of fixed width.
* `trim_intText` : trimming leaves it alone.
-/

namespace TableMapping

open Text (isBlank)

/-! ### Reading -/

/-- A numeral of an integer: a run of digits, alone or behind a sign. -/
inductive DenotesInt : List Char → Int → Prop
  | unsigned {digits : List Char} (h : IsRun digits) : DenotesInt digits (runValue digits)
  | plus {digits : List Char} (h : IsRun digits) : DenotesInt ('+' :: digits) (runValue digits)
  | minus {digits : List Char} (h : IsRun digits) :
    DenotesInt ('-' :: digits) (-(runValue digits : Int))

theorem IsRun.readDigits?_eq {digits : List Char} (h : IsRun digits) :
    readDigits? digits = some (runValue digits) := by
  have hne : digits.isEmpty = false := List.isEmpty_eq_false_iff.mpr h.ne_nil
  have hall : digits.all Char.isDigit = true := List.all_eq_true.mpr h.isDigit
  simp only [readDigits?, hne, hall, Bool.not_true, Bool.or_false, Bool.false_eq_true, if_false,
    runValue]

theorem IsRun.readNat?_eq {digits : List Char} (h : IsRun digits) :
    readNat? digits = some (runValue digits) := by
  obtain ⟨c, cs, rfl, hc⟩ := h.exists_cons
  have hplus : c ≠ '+' := by rintro rfl; exact absurd hc (by decide)
  rw [← h.readDigits?_eq]
  simp [readNat?, hplus]

namespace DenotesInt

variable {numeral : List Char} {n : Int}

/-- A numeral is read as its integer. -/
theorem readInt?_eq (h : DenotesInt numeral n) : readInt? numeral = some n := by
  cases h with
  | unsigned h =>
    obtain ⟨c, cs, hcons, hc⟩ := h.exists_cons
    have hminus : c ≠ '-' := by rintro rfl; exact absurd hc (by decide)
    have hread : readInt? numeral = (readNat? numeral).map Int.ofNat := by
      rw [hcons]
      simp [readInt?, hminus]
    rw [hread, h.readNat?_eq]
    rfl
  | plus h =>
    change (readNat? _).map Int.ofNat = _
    rw [readNat?, h.readDigits?_eq]
    rfl
  | minus h =>
    rw [readInt?, h.readDigits?_eq]
    rfl

/-- A numeral of a positive integer is read as that number. -/
theorem readNat?_eq (h : DenotesInt numeral n) (hn : 0 < n) : readNat? numeral = some n.toNat := by
  cases h with
  | unsigned h => rw [h.readNat?_eq, Int.toNat_natCast]
  | plus h => rw [readNat?, h.readDigits?_eq, Int.toNat_natCast]
  | minus h => omega

theorem not_isBlank (h : DenotesInt numeral n) : ∀ c ∈ numeral, isBlank c = false := by
  have hrun : ∀ {digits : List Char}, IsRun digits → ∀ c ∈ digits, isBlank c = false :=
    fun h c hc => Text.isBlank_of_isDigit (h.isDigit c hc)
  cases h with
  | unsigned h => exact hrun h
  | plus h => exact List.forall_mem_cons.mpr ⟨by decide, hrun h⟩
  | minus h => exact List.forall_mem_cons.mpr ⟨by decide, hrun h⟩

end DenotesInt

theorem readDigits?_eq_some_iff {s : List Char} {n : Nat} :
    readDigits? s = some n ↔ IsRun s ∧ runValue s = n := by
  constructor
  · intro h
    rw [readDigits?, Option.ite_none_left_eq_some, Option.some.injEq, Bool.or_eq_true, not_or] at h
    obtain ⟨⟨hne, hall⟩, rfl⟩ := h
    exact ⟨⟨fun hnil => hne (List.isEmpty_iff.mpr hnil), by simpa using hall⟩, rfl⟩
  · rintro ⟨hrun, rfl⟩
    exact hrun.readDigits?_eq

/-- A natural number is read from a run of digits that denotes it, alone or behind a plus sign, and
from nothing else. -/
theorem readNat?_eq_some_iff {s : List Char} {n : Nat} :
    readNat? s = some n ↔
      ∃ digits, (s = digits ∨ s = '+' :: digits) ∧ IsRun digits ∧ runValue digits = n := by
  constructor
  · intro h
    unfold readNat? at h
    split at h
    case h_1 digits => exact ⟨digits, .inr rfl, readDigits?_eq_some_iff.mp h⟩
    case h_2 => exact ⟨s, .inl rfl, readDigits?_eq_some_iff.mp h⟩
  · rintro ⟨digits, rfl | rfl, hrun, rfl⟩
    · exact hrun.readNat?_eq
    · exact hrun.readDigits?_eq

/-- A text that is read as a natural number is a numeral of it. -/
theorem denotesInt_of_readNat? {s : List Char} {n : Nat} (h : readNat? s = some n) :
    DenotesInt s n := by
  obtain ⟨digits, rfl | rfl, hrun, rfl⟩ := readNat?_eq_some_iff.mp h
  · exact .unsigned hrun
  · exact .plus hrun

/-- Numerals are the texts that are read as integers. -/
theorem readInt?_eq_some_iff {s : List Char} {n : Int} : readInt? s = some n ↔ DenotesInt s n := by
  refine ⟨fun h => ?_, DenotesInt.readInt?_eq⟩
  unfold readInt? at h
  split at h
  case h_1 digits =>
    obtain ⟨_, hm, rfl⟩ := Option.map_eq_some_iff.mp h
    obtain ⟨k, hk, hkm⟩ := Option.bind_eq_some_iff.mp hm
    obtain rfl := Option.some.inj hkm
    obtain ⟨hrun, rfl⟩ := readDigits?_eq_some_iff.mp hk
    exact .minus hrun
  case h_2 =>
    obtain ⟨k, hk, rfl⟩ := Option.map_eq_some_iff.mp h
    exact denotesInt_of_readNat? hk

/-! ### Written integers -/

theorem isDigit_of_mem_natText {n : Nat} {c : Char} (h : c ∈ natText n) : c.isDigit = true :=
  Nat.isDigit_of_mem_toDigits (by decide) (by decide) h

theorem natText_ne_nil (n : Nat) : natText n ≠ [] := Nat.toDigits_ne_nil

theorem isRun_natText (n : Nat) : IsRun (natText n) :=
  ⟨natText_ne_nil n, fun _ hc => isDigit_of_mem_natText hc⟩

@[simp]
theorem runValue_natText (n : Nat) : runValue (natText n) = n := Nat.ofDigitChars_ten_toDigits

/-- A written natural number starts with a digit. -/
theorem natText_eq_cons (n : Nat) : ∃ c cs, natText n = c :: cs ∧ c.isDigit = true :=
  (isRun_natText n).exists_cons

theorem readNat?_natText (n : Nat) : readNat? (natText n) = some n := by
  rw [(isRun_natText n).readNat?_eq, runValue_natText]

/-- The written form of an integer is a numeral of it. -/
theorem denotesInt_intText (n : Int) : DenotesInt (intText n) n := by
  rw [intText]
  split
  case isTrue hn =>
    have hneg : n = -(runValue (natText n.natAbs) : Int) := by
      rw [runValue_natText]
      omega
    conv => rhs; rw [hneg]
    exact .minus (isRun_natText _)
  case isFalse hn =>
    have hpos : n = (runValue (natText n.natAbs) : Int) := by
      rw [runValue_natText]
      omega
    conv => rhs; rw [hpos]
    exact .unsigned (isRun_natText _)

theorem intText_natCast (n : Nat) : intText n = natText n := by
  rw [intText, if_neg (by omega), Int.natAbs_natCast]

/-- There are only digits and perhaps a minus sign in a written integer. -/
theorem mem_intText {n : Int} {c : Char} (h : c ∈ intText n) : c = '-' ∨ c.isDigit = true := by
  rw [intText] at h
  split at h
  case isTrue => exact (List.mem_cons.mp h).imp_right isDigit_of_mem_natText
  case isFalse => exact .inr (isDigit_of_mem_natText h)

/-- Different integers are written in different ways. -/
theorem intText_inj {m n : Int} : intText m = intText n ↔ m = n := by
  refine ⟨fun h => ?_, congrArg intText⟩
  have hread := (denotesInt_intText m).readInt?_eq
  rw [h, (denotesInt_intText n).readInt?_eq] at hread
  exact (Option.some.inj hread).symm

theorem trim_intText (n : Int) : Text.trim (intText n) = intText n :=
  Text.trim_eq_self (denotesInt_intText n).not_isBlank

/-! ### Fixed width -/

theorem int64?_toInt (n : Int64) : int64? n.toInt = some n := by
  have hn : FitsInt64 n.toInt := ⟨n.le_toInt, n.toInt_lt⟩
  rw [int64?, if_pos hn, Int64.ofInt_toInt]

theorem int64?_eq_some_iff {m : Int} {n : Int64} : int64? m = some n ↔ n.toInt = m := by
  constructor
  · intro h
    rw [int64?, Option.ite_none_right_eq_some, Option.some.injEq] at h
    obtain ⟨hfits, rfl⟩ := h
    exact Int64.toInt_ofInt_of_le hfits.1 hfits.2
  · rintro rfl
    exact int64?_toInt n

/-- A signed integer of 64 bits is read from its written form. -/
theorem readInt64?_intText (n : Int64) : readInt64? (intText n.toInt) = some n := by
  rw [readInt64?, (denotesInt_intText _).readInt?_eq, Option.bind_some, int64?_toInt]

/-- A text with nothing but a numeral of an integer between blanks. -/
def WritesInt (s : List Char) (n : Int) : Prop := ∃ numeral, Text.Pads s numeral ∧ DenotesInt numeral n

/-- The written form of an integer is a numeral of it without blanks. -/
theorem writesInt_intText (n : Int) : WritesInt (intText n) n :=
  ⟨_, Text.pads_self _, denotesInt_intText n⟩

/-- The texts that are read as a signed integer of 64 bits once their blanks are off. -/
theorem readInt64?_trim_eq_some_iff {s : List Char} {n : Int64} :
    readInt64? (Text.trim s) = some n ↔ WritesInt s n.toInt := by
  rw [readInt64?, Option.bind_eq_some_iff]
  constructor
  · rintro ⟨m, hm, hn⟩
    rw [int64?_eq_some_iff.mp hn]
    exact ⟨_, Text.pads_trim s, readInt?_eq_some_iff.mp hm⟩
  · rintro ⟨numeral, hpads, h⟩
    rw [hpads.trim_eq h.not_isBlank]
    exact ⟨_, h.readInt?_eq, int64?_toInt n⟩

theorem uint64?_eq_some_iff {m : Int} {n : UInt64} : uint64? m = some n ↔ (n.toNat : Int) = m := by
  rw [uint64?, Option.ite_none_right_eq_some, Option.some.injEq]
  constructor
  · rintro ⟨hfits, rfl⟩
    have hlt : m.toNat < 18446744073709551616 := by omega
    rw [UInt64.toNat_ofNat_of_lt' hlt, Int.toNat_of_nonneg hfits.1]
  · rintro rfl
    have hn := n.toNat_lt
    exact ⟨⟨by omega, by omega⟩, by rw [Int.toNat_natCast, UInt64.ofNat_toNat]⟩

/-- An unsigned integer of 64 bits is read where it is read as a natural number. -/
theorem readUInt64?_eq_some_iff {s : List Char} {n : UInt64} :
    readUInt64? s = some n ↔ readNat? s = some n.toNat := by
  rw [readUInt64?, Option.bind_eq_some_iff]
  constructor
  · rintro ⟨k, hk, hn⟩
    rw [hk, ← Int.ofNat.inj (uint64?_eq_some_iff.mp hn)]
  · exact fun h => ⟨_, h, uint64?_eq_some_iff.mpr rfl⟩

theorem uint32?_toNat (n : UInt32) : uint32? (n.toNat : Int) = some n := by
  have hn : FitsUInt32 (n.toNat : Int) := ⟨by omega, by have := n.toNat_lt; omega⟩
  rw [uint32?, if_pos hn, Int.toNat_natCast, UInt32.ofNat_toNat]

/-- An unsigned integer of 32 bits is read from its written form. -/
theorem readUInt32?_natText (n : UInt32) : readUInt32? (natText n.toNat) = some n := by
  rw [readUInt32?, readNat?_natText, Option.bind_some, uint32?_toNat]

end TableMapping
