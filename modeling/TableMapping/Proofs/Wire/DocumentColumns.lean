import TableMapping.Proofs.Document.ReadBack
import TableMapping.Wire.Conversion

/-!
# Columns that hold documents

A column of a type for documents stores a value as the text of the value's document and reads that
text as the document again, not as the value: an instant comes back as a text and bytes as a list of
numbers.  The reader goes no deeper than 127 lists and objects while the writer goes to any depth, so
the text of a deeper document is stored and then passes as it is.

## Main results

* `Value.toDocument_ofDocument` : a document as a value is still the same document.
* `Value.parseDocument_compact` : what a stored text is read as.
* `Column.hydrate_persist_document` : what comes back from a column that holds documents.
-/

namespace TableMapping

/-! ### Documents as values -/

namespace WideInt

theorem eq_of_val_eq : {y z : WideInt} → y.val = z.val → y = z
  | ⟨_, _, _⟩, ⟨_, _, _⟩, rfl => rfl

theorem ofInt64_of_toInt64? {z : WideInt} {n : Int64} (h : z.toInt64? = some n) : ofInt64 n = z := by
  rw [toInt64?, int64?, Option.ite_none_right_eq_some] at h
  obtain ⟨hfits, hn⟩ := h
  refine eq_of_val_eq ?_
  change n.toInt = z.val
  rw [← Option.some.inj hn]
  exact Int64.toInt_ofInt_of_le hfits.1 hfits.2

theorem ofUInt64_toUInt64 {z : WideInt} (h : z.toInt64? = none) : ofUInt64 z.toUInt64 = z := by
  have hfits : ¬ FitsInt64 z.val := by
    intro hfits
    rw [toInt64?, int64?, if_pos hfits] at h
    cases h
  have hlower := z.lower
  have hupper := z.upper
  have hlt : z.val.toNat < 2 ^ 64 := by omega
  refine eq_of_val_eq ?_
  change (z.toUInt64.toNat : Int) = z.val
  rw [toUInt64, UInt64.toNat_ofNat_of_lt' hlt]
  omega

end WideInt

namespace Value

theorem toDocument_ofNumber (n : Number) : (Quantity.ofNumber n).toValue.toDocument = .number n := by
  cases n with
  | integer z =>
    rw [Quantity.ofNumber]
    split
    · rename_i n hn
      exact congrArg (Document.number ∘ Number.integer) (WideInt.ofInt64_of_toInt64? hn)
    · rename_i hn
      exact congrArg (Document.number ∘ Number.integer) (WideInt.ofUInt64_toUInt64 hn)
  | float x h => exact dif_pos h

mutual

/-- A document as a value is still the same document. -/
theorem toDocument_ofDocument : (d : Document) → (ofDocument d).toDocument = d
  | .null | .bool _ | .text _ | .object _ => rfl
  | .number n => toDocument_ofNumber n
  | .list items => congrArg Document.list (toDocuments_ofDocuments items)

theorem toDocuments_ofDocuments : (ds : List Document) → toDocuments (ofDocuments ds) = ds
  | [] => rfl
  | d :: rest => by
    rw [ofDocuments, toDocuments, toDocument_ofDocument d, toDocuments_ofDocuments rest]

end

/-- The names of objects are in order in the document of every value that has been read. -/
theorem wellFormed_toDocument_of_read {s : List Char} {v : Value} (h : read s = .ok v) :
    v.toDocument.WellFormed := by
  rw [read] at h
  cases hd : Document.read s with
  | error e =>
    rw [hd] at h
    cases h
  | ok d =>
    rw [hd] at h
    cases h
    rw [toDocument_ofDocument]
    exact Document.wellFormed_of_read hd

/-! ### Stored texts -/

/-- The text of a document without doubles is read as the document, unless it nests too deep. -/
theorem parseDocument_compact {d : Document} (hwell : d.WellFormed) (hfree : d.FloatFree) :
    (text d.compact).parseDocument = if d.depth ≤ 127 then .document d else .text d.compact := by
  have hread : Document.read d.compact.toList =
      if d.depth ≤ 127 then .ok d else .error .malformed := by
    rw [Document.compact, String.toList_ofList]
    exact Document.read_render hwell hfree
  rw [parseDocument]
  simp only [hread]
  split_ifs <;> rfl

/-- A list in a list, and so on for some levels. -/
theorem toDocument_repeat_array (n : Nat) :
    let v := Nat.repeat (fun v => Value.array [v]) n (.bool true)
    v.isNull = false ∧ v.toDocument.WellFormed ∧ v.toDocument.FloatFree ∧ v.toDocument.depth = n := by
  induction n with
  | zero => exact ⟨rfl, trivial, trivial, rfl⟩
  | succ n ih =>
    obtain ⟨-, hwell, hfree, hdepth⟩ := ih
    exact ⟨rfl, ⟨hwell, trivial⟩, ⟨hfree, trivial⟩, congrArg Nat.succ (by
      rw [toDocuments, toDocuments, Document.depthItems, Document.depthItems, hdepth,
        Nat.max_zero])⟩

end Value

/-! ### Columns -/

namespace Column

variable {c : Column} {v : Value}

theorem conversion_eq_document (htype : c.columnType = .dialect .json ∨
    c.columnType = .dialect .simpleJson) : c.columnType.conversion = .document := by
  rcases htype with h | h <;> rw [h] <;> rfl

/-- **A column that holds documents keeps them** up to the depth that the reader goes to.  The names
of every object in the value are in order, as they are in all values that have been read. -/
theorem hydrate_persist_document
    (htype : c.columnType = .dialect .json ∨ c.columnType = .dialect .simpleJson)
    (htransformers : c.transformers = []) (hnull : v.isNull = false)
    (hwell : v.toDocument.WellFormed) (hfree : v.toDocument.FloatFree) :
    c.persist v = .text v.toDocument.compact ∧
      c.hydrate (c.persist v) =
        if v.toDocument.depth ≤ 127 then .document v.toDocument else .text v.toDocument.compact := by
  have hpersist : c.persist v = .text v.toDocument.compact := by
    rw [persist, htransformers, conversion_eq_document htype]
    exact if_neg (by simp [hnull])
  refine ⟨hpersist, ?_⟩
  rw [hpersist, hydrate, htransformers, conversion_eq_document htype]
  exact Value.parseDocument_compact hwell hfree

/-- A value of many kinds comes back as its document, and a list of 128 levels as a text. -/
theorem hydrate_persist_document_kinds :
    let c := Column.new "data" (.dialect .simpleJson)
    let v := Value.array [.text "\u0007\"é\\", .int Int64.minValue, .uint 18446744073709551615,
      .bytes [0, 255], .null, .document (.object [("", .list []), ("a\n", .object [])])]
    let deep := Nat.repeat (fun v => Value.array [v]) 128 (.bool true)
    c.hydrate (c.persist v) = .document v.toDocument ∧
      c.hydrate (c.persist deep) = .text deep.toDocument.compact := by
  intro c v deep
  obtain ⟨hnull, hdeepWell, hdeepFree, hdepth⟩ := Value.toDocument_repeat_array 128
  have hwell : v.toDocument.WellFormed := by
    refine ⟨trivial, trivial, trivial, ⟨trivial, trivial, trivial⟩, trivial, ⟨?_, ?_⟩, trivial⟩
    · refine ⟨?_, fun pair hpair => absurd hpair List.not_mem_nil, trivial⟩
      decide
    · exact ⟨trivial, ⟨trivial, trivial⟩, trivial⟩
  have hfree : v.toDocument.FloatFree :=
    ⟨trivial, trivial, trivial, ⟨trivial, trivial, trivial⟩, trivial, ⟨trivial, trivial, trivial⟩,
      trivial⟩
  have hshallow := hydrate_persist_document (c := c) (.inr rfl) rfl rfl hwell hfree
  have hdeep := hydrate_persist_document (c := c) (.inr rfl) rfl hnull hdeepWell hdeepFree
  rw [if_pos (by decide)] at hshallow
  rw [hdepth, if_neg (by decide)] at hdeep
  exact ⟨hshallow.2, hdeep.2⟩

end Column

end TableMapping
