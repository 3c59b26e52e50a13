import TableMapping.Proofs.Quantities
import TableMapping.Proofs.Wire.DocumentColumns

/-!
# Values and their documents

Every document is the document of the value that it is read as.  The values that documents are read as,
the plain ones, are the values that are read back from their own documents as they are.  Any other
value, an instant or bytes for instance, is read back as a plain one with the same document, and that
one does not change any more.

## Main definitions

* `Value.IsPlain` : the values that documents are read as.

## Main results

* `Value.isPlain_ofDocument` : documents are read as plain values.
* `Value.ofDocument_toDocument` : a plain value is read back as it is.
* `Value.ofDocument_toDocument_stable` : documents as values, and values as documents.
-/

namespace TableMapping

namespace Value

/-! ### Plain values -/

/-- The values that documents are read as.  An integer is unsigned only if it does not fit 64 bits with a
sign, a double is finite, a list has plain items, and no document but an object stays one. -/
inductive IsPlain : Value → Prop
  | null : IsPlain .null
  | bool (b : Bool) : IsPlain (.bool b)
  | int (n : Int64) : IsPlain (.int n)
  | uint {n : UInt64} (h : 9223372036854775808 ≤ n.toNat) : IsPlain (.uint n)
  | float {x : Binary64} (h : x.isFinite = true) : IsPlain (.float x)
  | text (s : String) : IsPlain (.text s)
  | array {items : List Value} (h : ∀ v ∈ items, v.IsPlain) : IsPlain (.array items)
  | object (fields : List (String × Document)) : IsPlain (.document (.object fields))

theorem isPlain_ofInteger (n : WideInt) : (Quantity.ofInteger n).toValue.IsPlain := by
  have hupper := n.upper
  rw [Quantity.ofInteger]
  split
  case isTrue => exact .int _
  case isFalse hsigned =>
    refine .uint ?_
    rw [UInt64.toNat_ofNat_of_lt' (by change _ < 18446744073709551616; omega)]
    omega

mutual

/-- Documents are read as plain values. -/
theorem isPlain_ofDocument : (d : Document) → (ofDocument d).IsPlain
  | .null => .null
  | .bool b => .bool b
  | .number (.integer n) => by
    rw [ofDocument, Quantity.ofNumber_integer]
    exact isPlain_ofInteger n
  | .number (.float _ h) => .float h
  | .text s => .text s
  | .list items => .array (isPlain_of_mem_ofDocuments items)
  | .object fields => .object fields

theorem isPlain_of_mem_ofDocuments : (ds : List Document) → ∀ v ∈ ofDocuments ds, v.IsPlain
  | [] => fun _ hv => absurd hv List.not_mem_nil
  | d :: rest => List.forall_mem_cons.mpr ⟨isPlain_ofDocument d, isPlain_of_mem_ofDocuments rest⟩

end

/-! ### There and back -/

theorem ofDocuments_toDocuments {items : List Value}
    (h : ∀ v ∈ items, ofDocument v.toDocument = v) : ofDocuments (toDocuments items) = items := by
  induction items with
  | nil => rfl
  | cons v rest ih =>
    obtain ⟨hv, hrest⟩ := List.forall_mem_cons.mp h
    rw [toDocuments, ofDocuments, hv, ih hrest]

/-- A plain value is read back from its document as it is. -/
theorem ofDocument_toDocument {v : Value} (h : v.IsPlain) : ofDocument v.toDocument = v := by
  induction h with
  | null | bool | text | object => rfl
  | int n => rw [toDocument, ofDocument, Quantity.ofNumber_integer, Quantity.ofInteger_ofInt64]; rfl
  | uint hn =>
    rw [toDocument, ofDocument, Quantity.ofNumber_integer, Quantity.ofInteger_ofUInt64 hn]; rfl
  | float hx => rw [toDocument, dif_pos hx]; rfl
  | array _ ih => exact congrArg Value.array (ofDocuments_toDocuments ih)

/-- **Values and documents agree.**  A document is the document of the value that it is read as.  A value
that is read back from its document is plain and has the same document, and a value is read back as it
is if and only if it is plain; so to read it back once more changes nothing. -/
theorem ofDocument_toDocument_stable :
    (∀ d : Document, (ofDocument d).toDocument = d) ∧
    (∀ v : Value, ofDocument v.toDocument = v ↔ v.IsPlain) ∧
    ∀ v : Value, let w := ofDocument v.toDocument
      w.toDocument = v.toDocument ∧ w.IsPlain ∧ ofDocument w.toDocument = w := by
  refine ⟨toDocument_ofDocument, fun v => ⟨fun h => ?_, ofDocument_toDocument⟩, fun v => ?_⟩
  · rw [← h]
    exact isPlain_ofDocument v.toDocument
  · have hplain := isPlain_ofDocument v.toDocument
    exact ⟨toDocument_ofDocument v.toDocument, hplain, ofDocument_toDocument hplain⟩

/-- A small integer comes back with a sign, bytes as a list of integers, and a null for an infinity. -/
example : ofDocument (array [.uint 5, .bytes [255], .float (.infinity true)]).toDocument =
    array [.int 5, .array [.int 255], .null] := rfl

end Value

end TableMapping
