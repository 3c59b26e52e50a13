import TableMapping.Proofs.Number.Truncation
import TableMapping.Proofs.Wire.RoundTrip

/-!
# Columns of truth values

A value that denotes a number is stored in a column of truth values as one or zero, and is read as true
or false, by whether the number is zero.  Both zeros of doubles are zero, and a text counts by the
number that it is read as.  Only the number of a document is not looked at: it counts as true even if it
is zero.

## Main definitions

* `Quantity.value` : the number that a quantity is.

## Main results

* `Quantity.isZero_iff` : the quantities that are zero.
* `Value.truth_eq` : the truth of a value that denotes a number.
* `Column.truth_follows_number` : what a column of truth values makes of such a value.
-/

namespace TableMapping

/-! ### Numbers -/

namespace Binary64

theorem isNaN_eq_false {x : Binary64} (h : x.isFinite = true) : x.isNaN = false := by
  have hexponent : x.exponentField ≠ 2047 := bne_iff_ne.mp h
  rw [isNaN, beq_false_of_ne hexponent, Bool.false_and]

end Binary64

namespace Quantity

/-- The number that a quantity is. -/
def value : Quantity → ℚ
  | .int n => n.toInt
  | .uint n => n.toNat
  | .float x => x.value

theorem isZero_iff {q : Quantity} : q.isZero = true ↔ q.value = 0 := by
  cases q with
  | int n => rw [isZero, value, beq_iff_eq, Int.cast_eq_zero, ← Int64.toInt_inj]; rfl
  | uint n => rw [isZero, value, beq_iff_eq, Nat.cast_eq_zero, ← UInt64.toNat_inj]; rfl
  | float x => exact Binary64.isZero_iff

end Quantity

/-! ### Truth -/

namespace Value

variable {v : Value} {q : Quantity}

theorem isNull_of_quantity? (h : v.quantity? = some q) : v.isNull = false := by
  cases v with
  | null => cases h
  | _ => rfl

/-- The value is the number of a document. -/
def IsDocumentNumber (v : Value) : Prop := ∃ n, v = .document (.number n)

theorem truth_eq_not_isZero (h : v.quantity? = some q) (hv : ¬ v.IsDocumentNumber) :
    v.truth = !q.isZero := by
  cases v with
  | int n | uint n =>
    cases h
    rfl
  | bool b =>
    cases h
    cases b <;> rfl
  | float x =>
    rw [quantity?, Option.ite_none_right_eq_some, Option.some.injEq] at h
    obtain ⟨hfinite, rfl⟩ := h
    rw [truth, Binary64.isNaN_eq_false hfinite, Bool.not_false, Bool.and_true, Quantity.isZero]
  | text s =>
    have hparse : Quantity.parse? s.toList = some q := h
    simp only [truth, hparse]
  | document d =>
    cases d with
    | number n => exact absurd ⟨n, rfl⟩ hv
    | _ => cases h
  | _ => cases h

/-- A value that denotes a number counts as true if the number is not zero, or if it is the number of a
document. -/
theorem truth_eq (h : v.quantity? = some q) :
    v.truth = true ↔ q.value ≠ 0 ∨ v.IsDocumentNumber := by
  by_cases hv : v.IsDocumentNumber
  · obtain ⟨n, rfl⟩ := hv
    exact iff_of_true rfl (.inr ⟨n, rfl⟩)
  · rw [truth_eq_not_isZero h hv, Bool.not_eq_true', ← Bool.not_eq_true, Quantity.isZero_iff]
    exact (or_iff_left hv).symm

end Value

/-! ### Columns -/

namespace Column

variable {c : Column} {v : Value} {q : Quantity}

theorem conversion_eq_truth (htype : c.columnType = .application .boolean ∨
    c.columnType = .dialect .bool ∨ c.columnType = .dialect .boolean) :
    c.columnType.conversion = .truth := by
  rcases htype with h | h | h <;> rw [h] <;> rfl

/-- **Truth follows the number.**  A column of truth values without transformers stores a value that
denotes a number as one or zero, and reads it as true or false, by whether the number is zero.  Only the
number of a document is stored as one and read as true even if it is zero. -/
theorem truth_follows_number (htype : c.columnType = .application .boolean ∨
      c.columnType = .dialect .bool ∨ c.columnType = .dialect .boolean)
    (ht : c.transformers = []) (hv : v.quantity? = some q) :
    (¬ (v.IsDocumentNumber ∧ q.value = 0) →
      c.persist v = .int (if q.value = 0 then 0 else 1) ∧
        c.hydrate v = .bool (decide (q.value ≠ 0))) ∧
    (v.IsDocumentNumber ∧ q.value = 0 → c.persist v = .int 1 ∧ c.hydrate v = .bool true) := by
  have hnull := Value.isNull_of_quantity? hv
  have htruth := Value.truth_eq hv
  rw [persist_eq_toWire ht hnull, hydrate_eq_fromWire ht hnull, conversion_eq_truth htype,
    Conversion.toWire, Conversion.fromWire]
  refine ⟨fun h => ?_, fun h => ?_⟩
  · by_cases hzero : q.value = 0
    · have hfalse : v.truth = false := by
        rw [← Bool.not_eq_true, htruth]
        exact not_or.mpr ⟨not_not.mpr hzero, fun hnumber => h ⟨hnumber, hzero⟩⟩
      rw [hfalse, if_pos hzero, decide_eq_false (not_not.mpr hzero)]
      exact ⟨rfl, rfl⟩
    · rw [htruth.mpr (.inl hzero), if_neg hzero, decide_eq_true hzero]
      exact ⟨rfl, rfl⟩
  · rw [htruth.mpr (.inr h.1)]
    exact ⟨rfl, rfl⟩

/-- A text of a negative zero between blanks counts as false and the least double as true. -/
theorem truth_follows_number_zeros :
    let c := Column.new "flag" (.application .boolean)
    let zero := Value.text "\t-00.0 "
    let least := Value.float ⟨1⟩
    zero.quantity? = some (.float ⟨0x8000000000000000⟩) ∧ c.persist zero = .int 0 ∧
      c.hydrate zero = .bool false ∧ c.persist least = .int 1 ∧ c.hydrate least = .bool true := by
  intro c zero least
  have hzero : zero.quantity? = some (.float ⟨0x8000000000000000⟩) := by decide
  have hleast : least.quantity? = some (.float ⟨1⟩) := by decide
  have hvalue : (Quantity.float ⟨0x8000000000000000⟩).value = 0 :=
    Quantity.isZero_iff.mp (by decide)
  have hleastValue : (Quantity.float ⟨1⟩).value ≠ 0 :=
    mt Quantity.isZero_iff.mpr (by decide)
  have htext : ∀ s, ¬ (Value.text s).IsDocumentNumber := by
    rintro s ⟨n, hn⟩
    cases hn
  obtain ⟨hstored, hread⟩ := (truth_follows_number (c := c) (.inl rfl) rfl hzero).1
    fun h => htext _ h.1
  obtain ⟨hleastStored, hleastRead⟩ := (truth_follows_number (c := c) (.inl rfl) rfl hleast).1
    fun h => hleastValue h.2
  rw [if_pos hvalue] at hstored
  rw [decide_eq_false (not_not.mpr hvalue)] at hread
  rw [if_neg hleastValue] at hleastStored
  rw [decide_eq_true hleastValue] at hleastRead
  exact ⟨hzero, hstored, hread, hleastStored, hleastRead⟩

/-- The zero of a document denotes zero and is stored as one and read as true. -/
theorem persist_document_zero :
    let c := Column.new "flag" (.application .boolean)
    let v := Value.document (.number (.integer ⟨0, by decide, by decide⟩))
    v.quantity? = some (.int 0) ∧ (Quantity.int 0).value = 0 ∧ c.persist v = .int 1 ∧
      c.persist v ≠ .int 0 ∧ c.hydrate v = .bool true ∧ c.hydrate v ≠ .bool false := by
  intro c v
  have hvalue : (Quantity.int 0).value = 0 := Quantity.isZero_iff.mp rfl
  have hstored : c.persist v = .int 1 := rfl
  have hread : c.hydrate v = .bool true := rfl
  rw [hstored, hread]
  exact ⟨rfl, hvalue, rfl, by simp, rfl, by simp⟩

end Column

end TableMapping
