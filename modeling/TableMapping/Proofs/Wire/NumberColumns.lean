import TableMapping.Proofs.Number.Numerals
import TableMapping.Proofs.Number.Truncation
import TableMapping.Proofs.Quantities
import TableMapping.Wire.Conversion

/-!
# Columns of whole numbers

What is stored in a column of the application's numbers is an integer if there is one to stand for the
value.  A double loses its fraction, and it stays a double if its integer part does not fit 64 bits with
a sign.  The one double at the upper end of that range, `2 ^ 63`, does not fit any more but is stored as
the greatest integer that does.

## Main results

* `Value.wholePart?_eq` : the integer that stands for a double.
* `Column.persist_truncated` : what is stored for a value that denotes a double.
-/

namespace TableMapping

namespace Value

variable {v : Value} {x : Binary64}

/-- A value never denotes an infinity or a NaN. -/
theorem isFinite_of_quantity? (h : v.quantity? = some (.float x)) : x.isFinite = true := by
  cases v with
  | float y =>
    rw [quantity?, Option.ite_none_right_eq_some, Option.some.injEq, Quantity.float.injEq] at h
    obtain ⟨hfinite, rfl⟩ := h
    exact hfinite
  | text s => exact Quantity.isFinite_of_parse? h
  | document d =>
    cases d with
    | number n => exact Quantity.isFinite_of_ofNumber (Option.some.inj h)
    | _ => cases h
  | _ => cases h

/-- The integer that stands for a finite double: its integer part, if that fits, and the greatest one
for `2 ^ 63`. -/
theorem wholePart?_eq (h : x.isFinite = true) :
    wholePart? x = if x.value = 2 ^ 63 then some Int64.maxValue else int64? (truncate x.value) := by
  have hbound : truncate x.value = 9223372036854775808 ↔ x.value = 2 ^ 63 := by
    rw [Binary64.truncate_value_eq_iff (by decide)]
    norm_num
  rw [wholePart?, Binary64.truncated_eq h, Option.bind_some]
  simp only [hbound]

/-- A double that no integer can stand for stays as it is. -/
theorem toWholeNumber_eq_elim (h : v.quantity? = some (.float x)) :
    v.toWholeNumber = (wholePart? x).elim (.float x) .int := by
  rw [toWholeNumber, h]
  dsimp only
  cases wholePart? x <;> rfl

end Value

namespace Column

variable {c : Column} {v : Value} {x : Binary64}

theorem persist_number (htype : c.columnType = .application .number) (ht : c.transformers = [])
    (v : Value) : c.persist v = v.toWholeNumber := by
  rw [persist, htype, ht]
  cases v <;> rfl

/-- **Whole numbers are truncated exactly.**  A column of the application's numbers stores a value that
denotes a double as an integer if and only if that is the integer part of the double, and as the double
if its integer part does not fit 64 bits with a sign.  Only `2 ^ 63` is stored as an integer that is not
its own integer part. -/
theorem persist_truncated (htype : c.columnType = .application .number) (ht : c.transformers = [])
    (hv : v.quantity? = some (.float x)) :
    (x.value ≠ 2 ^ 63 →
      (∀ n : Int64, c.persist v = .int n ↔ n.toInt = truncate x.value) ∧
      (¬ FitsInt64 (truncate x.value) → c.persist v = .float x)) ∧
    (x.value = 2 ^ 63 → c.persist v = .int Int64.maxValue) := by
  have hwhole := Value.wholePart?_eq (Value.isFinite_of_quantity? hv)
  rw [persist_number htype ht, Value.toWholeNumber_eq_elim hv]
  refine ⟨fun hne => ⟨fun n => ?_, fun hover => ?_⟩, fun heq => ?_⟩
  · rw [if_neg hne] at hwhole
    rw [← int64?_eq_some_iff, ← hwhole]
    cases Value.wholePart? x with
    | some m => rw [Option.elim_some, Value.int.injEq, Option.some.injEq]
    | none => simp
  · rw [hwhole, if_neg hne, int64?, if_neg hover, Option.elim_none]
  · rw [hwhole, if_pos heq, Option.elim_some]

/-- A text just below the least integer denotes that integer and is stored as it, and the second double
above the greatest one is stored as it is. -/
theorem persist_truncated_boundaries :
    let c := Column.new "n" (.application .number)
    let least := Value.text " -9223372036854775808.4"
    let above : Binary64 := ⟨0x43E0000000000001⟩
    least.quantity? = some (.float ⟨0xC3E0000000000000⟩) ∧ c.persist least = .int Int64.minValue ∧
      (Value.float above).quantity? = some (.float above) ∧
      c.persist (.float above) = .float above := by
  intro c least above
  -- reading a decimal fraction takes powers of two that only the kernel evaluates
  have hleast : least.quantity? = some (.float ⟨0xC3E0000000000000⟩) := by decide +kernel
  have habove : (Value.float above).quantity? = some (.float above) := by decide
  have hleastValue := Binary64.value_eq_of_truncated (x := ⟨0xC3E0000000000000⟩)
    (n := -9223372036854775808) (by decide) (by decide)
  have haboveValue := Binary64.value_eq_of_truncated (x := above) (n := 9223372036854777856)
    (by decide) (by decide)
  obtain ⟨hpart, -⟩ := (persist_truncated rfl rfl hleast (c := c)).1 (by rw [hleastValue]; norm_num)
  obtain ⟨-, hover⟩ := (persist_truncated rfl rfl habove (c := c)).1 (by rw [haboveValue]; norm_num)
  rw [hleastValue, truncate_intCast] at hpart
  rw [haboveValue, truncate_intCast] at hover
  exact ⟨hleast, (hpart _).mpr (by decide), habove, hover (by decide)⟩

/-- The double next to the greatest integer is stored as that integer, although its integer part is
another one that does not fit. -/
theorem persist_float_twoPow63 :
    let c := Column.new "n" (.application .number)
    let x : Binary64 := ⟨0x43E0000000000000⟩
    (Value.float x).quantity? = some (.float x) ∧ ¬ FitsInt64 (truncate x.value) ∧
      c.persist (.float x) = .int Int64.maxValue ∧ Int64.maxValue.toInt ≠ truncate x.value := by
  intro c x
  have hx : (Value.float x).quantity? = some (.float x) := by decide
  have hvalue := Binary64.value_eq_of_truncated (x := x) (n := 9223372036854775808)
    (by decide) (by decide)
  have hwhole : Value.wholePart? x = some Int64.maxValue := by decide
  rw [hvalue, truncate_intCast, persist_number rfl rfl, Value.toWholeNumber_eq_elim hx, hwhole]
  exact ⟨hx, by decide, rfl, by decide⟩

end Column

end TableMapping
