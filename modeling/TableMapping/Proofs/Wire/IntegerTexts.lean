import TableMapping.Proofs.Number.Spellings
import TableMapping.Proofs.Quantities
import TableMapping.Proofs.Wire.RoundTrip

/-!
# Texts of integers in columns of numbers

A text that spells an integer of 64 bits, with a sign or without one, denotes that integer and nothing
else does: no sign, no zeros in front and no blanks around it turn the integer into a double, which
might be another number.  So a column of the application's numbers stores the integer for the text, and
reads it where the text is stored.

## Main results

* `Quantity.parse?_stringify_int`, `Quantity.parse?_stringify_uint` : integers as text and back.
* `Column.number_spelled` : what a column of numbers makes of the spellings of an integer.
-/

namespace TableMapping

namespace Quantity

/-- A signed integer as text is read as that integer. -/
theorem parse?_stringify_int (m : Int64) : parse? (Value.int m).stringify = some (.int m) :=
  parse?_eq_int_iff.mpr (writesInt_intText m.toInt)

/-- An unsigned one is read as the same integer, signed if it fits so. -/
theorem parse?_stringify_uint (m : UInt64) :
    parse? (Value.uint m).stringify = some (.ofInteger (.ofUInt64 m)) := by
  rw [parse?_eq_ofInteger_iff, Value.stringify, ← intText_natCast]
  exact writesInt_intText m.toNat

end Quantity

namespace Value

variable {v : Value} {n : WideInt}

theorem toNumber_eq_ofInteger (h : v.quantity? = some (.ofInteger n)) :
    v.toNumber = (Quantity.ofInteger n).toValue := by
  rw [toNumber, h]

/-- An integer has no fraction to lose. -/
theorem toWholeNumber_eq_ofInteger (h : v.quantity? = some (.ofInteger n)) :
    v.toWholeNumber = (Quantity.ofInteger n).toValue := by
  rw [toWholeNumber, h, Quantity.ofInteger]
  split_ifs <;> rfl

end Value

namespace Column

/-- **Spelled integers are exact.**  The texts that a column of the application's numbers takes for an
integer of 64 bits, signed or not, are the spellings of that integer: blanks, a sign, zeros, the digits
and blanks.  For each of them the column stores the integer itself and reads it before its transformers
run, and an integer as text is such a spelling. -/
theorem number_spelled {c : Column} (htype : c.columnType = .application .number) :
    (∀ (n : WideInt) (s : String),
      (Quantity.parse? s.toList = some (.ofInteger n) ↔ SpellsInt s.toList n.val) ∧
      (SpellsInt s.toList n.val →
        (∀ v, c.transformed v = .text s → c.persist v = (Quantity.ofInteger n).toValue) ∧
        c.hydrate (.text s) = c.restored (Quantity.ofInteger n).toValue)) ∧
    (∀ n, (Quantity.ofInteger n).integer? = some n.val) ∧
    (∀ m : Int64, Quantity.parse? (Value.int m).stringify = some (.int m)) ∧
    ∀ m : UInt64, Quantity.parse? (Value.uint m).stringify = some (.ofInteger (.ofUInt64 m)) := by
  refine ⟨fun n s => ?_, Quantity.integer?_ofInteger, Quantity.parse?_stringify_int,
    Quantity.parse?_stringify_uint⟩
  have hiff : Quantity.parse? s.toList = some (.ofInteger n) ↔ SpellsInt s.toList n.val := by
    rw [Quantity.parse?_eq_ofInteger_iff, spellsInt_iff_writesInt]
  have hconversion : c.columnType.conversion = .number := by rw [htype]; rfl
  refine ⟨hiff, fun hspells => ⟨fun v hv => ?_, ?_⟩⟩
  · have hnull : (c.transformed v).isNull = false := by rw [hv]; rfl
    rw [persist_eq_toWire_transformed hnull, hconversion, hv]
    exact Value.toWholeNumber_eq_ofInteger (hiff.mpr hspells)
  · rw [hydrate_eq_restored_fromWire rfl, hconversion]
    exact congrArg c.restored (Value.toNumber_eq_ofInteger (hiff.mpr hspells))

/-- The greatest and the least integer of 64 bits behind signs, zeros and blanks. -/
theorem number_spelled_extremes :
    let c := Column.new "n" (.application .number)
    c.persist (.text " +00018446744073709551615\t") = .uint 18446744073709551615 ∧
      c.hydrate (.text "\n-09223372036854775808 ") = .int Int64.minValue := by
  intro c
  have hspelled := (number_spelled rfl (c := c)).1
  have hgreatest : SpellsInt " +00018446744073709551615\t".toList 18446744073709551615 :=
    ⟨['+'], 3, .plus (by decide), [' '], ['\t'], by decide, by decide, by decide⟩
  have hleast : SpellsInt "\n-09223372036854775808 ".toList (-9223372036854775808) :=
    ⟨['-'], 1, .minus (by decide), ['\n'], [' '], by decide, by decide, by decide⟩
  have hpersist := ((hspelled ⟨18446744073709551615, by decide, by decide⟩ _).2 hgreatest).1
    (.text " +00018446744073709551615\t") rfl
  have hhydrate := ((hspelled ⟨-9223372036854775808, by decide, by decide⟩ _).2 hleast).2
  exact ⟨hpersist, hhydrate⟩

end Column

end TableMapping
