import Mathlib.Data.Set.List
import TableMapping.Proofs.Wire.RoundTrip

/-!
# Columns of lists

A list is stored as the texts of its items with commas between them, and a stored text is read as the
list of the texts between its commas, the empty text as the empty list.  So what is read is always a list
of texts without commas, and never the list of nothing but an empty text.  Such lists come back as they
were stored, and no other list does.  A text that was read is stored as the same text again.

## Main definitions

* `Value.listItems` : the texts between the commas of a stored text.
* `Column.HoldsLists` : the columns of lists.

## Main results

* `Value.splitList_text` : what a stored text is read as.
* `Column.hydrate_persist_array_iff` : which lists come back, and that every text does.
-/

namespace TableMapping

namespace Value

/-! ### Stored texts as lists -/

/-- The texts between the commas of a stored text.  The empty text has none. -/
def listItems (s : String) : List String :=
  if s.toList = [] then [] else (Text.splitOn ',' s.toList).map String.ofList

/-- A stored text is read as the list of the texts between its commas. -/
theorem splitList_text (s : String) : (text s).splitList = .array ((listItems s).map .text) := by
  rw [splitList, listItems]
  by_cases hs : s.toList = []
  · rw [if_pos hs, if_pos (List.isEmpty_iff.mpr hs), List.map_nil]
  · rw [if_neg hs, if_neg (mt List.isEmpty_iff.mp hs), List.map_map]
    rfl

theorem comma_not_mem_listItems {s item : String} (h : item ∈ listItems s) : ',' ∉ item.toList := by
  rw [listItems] at h
  split at h
  case isTrue => exact absurd h List.not_mem_nil
  case isFalse =>
    obtain ⟨piece, hpiece, rfl⟩ := List.mem_map.mp h
    rw [String.toList_ofList]
    exact Text.not_mem_of_mem_splitOn hpiece

/-- The texts with commas between them are the stored text. -/
theorem joinWith_listItems (s : String) :
    Text.joinWith [','] ((listItems s).map String.toList) = s.toList := by
  rw [listItems]
  split
  case isTrue hs => rw [hs, List.map_nil, Text.joinWith]
  case isFalse =>
    have hpieces : String.toList ∘ String.ofList = id := funext fun _ => String.toList_ofList
    rw [List.map_map, hpieces, List.map_id, Text.joinWith_splitOn]

theorem listItems_ne (s : String) : listItems s ≠ [""] := by
  intro h
  have hjoin := joinWith_listItems s
  rw [h] at hjoin
  have hs : s.toList = [] := hjoin.symm
  rw [listItems, if_pos hs] at h
  cases h

/-- Lists of texts without commas, other than the list of nothing but an empty text. -/
theorem exists_items_iff {xs : List Value} :
    (∃ items : List String, xs = items.map .text ∧ (∀ s ∈ items, ',' ∉ s.toList) ∧ items ≠ [""]) ↔
      (∀ x ∈ xs, ∃ s, x = .text s ∧ ',' ∉ s.toList) ∧ xs ≠ [.text ""] := by
  constructor
  · rintro ⟨items, rfl, hcomma, hne⟩
    refine ⟨List.forall_mem_map.mpr fun s hs => ⟨s, rfl, hcomma s hs⟩, fun h => hne ?_⟩
    exact List.map_injective_iff.mpr (fun _ _ => Value.text.inj) h
  · rintro ⟨htexts, hne⟩
    have hrange : xs ∈ Set.range (List.map Value.text) := by
      rw [Set.range_list_map]
      exact fun x hx => (htexts x hx).imp fun s hs => hs.1.symm
    obtain ⟨items, rfl⟩ := hrange
    refine ⟨items, rfl, fun s hs => ?_, fun h => hne (by rw [h]; rfl)⟩
    obtain ⟨t, ht, hcomma⟩ := htexts (.text s) (List.mem_map_of_mem hs)
    rwa [Value.text.inj ht]

end Value

/-! ### Columns -/

namespace Column

/-- The column has a type of lists. -/
def HoldsLists (c : Column) : Prop :=
  c.columnType = .dialect .simpleArray ∨ c.columnType = .dialect .set

variable {c : Column}

theorem HoldsLists.conversion_eq (h : c.HoldsLists) : c.columnType.conversion = .list := by
  rcases h with h | h <;> rw [h] <;> rfl

/-- A list is stored as the texts of its items with commas between them. -/
theorem HoldsLists.persist_array (h : c.HoldsLists) (ht : c.transformers = []) (xs : List Value) :
    c.persist (.array xs) = .ofChars (Value.array xs).stringify := by
  rw [persist_eq_toWire ht rfl, h.conversion_eq, Conversion.toWire]

theorem HoldsLists.hydrate_text (h : c.HoldsLists) (ht : c.transformers = []) (s : String) :
    c.hydrate (.text s) = .array ((Value.listItems s).map .text) := by
  rw [hydrate_eq_fromWire ht rfl, h.conversion_eq, Conversion.fromWire, Value.splitList_text]

/-- **The lists that a column keeps.**  A list comes back from a column of lists if and only if its
items are texts without commas and it is not the list of nothing but an empty text.  Every text that is
read from the column is stored as the same text again. -/
theorem hydrate_persist_array_iff (htype : c.HoldsLists) (ht : c.transformers = []) :
    (∀ xs, c.hydrate (c.persist (.array xs)) = .array xs ↔
      (∀ x ∈ xs, ∃ s, x = .text s ∧ ',' ∉ s.toList) ∧ xs ≠ [.text ""]) ∧
    ∀ s, c.persist (c.hydrate (.text s)) = .text s := by
  refine ⟨fun xs => ?_, fun s => ?_⟩
  · rw [← Value.exists_items_iff]
    constructor
    · intro h
      rw [htype.persist_array ht, Value.ofChars, htype.hydrate_text ht] at h
      exact ⟨_, (Value.array.inj h).symm, fun s hs => Value.comma_not_mem_listItems hs,
        Value.listItems_ne _⟩
    · rintro ⟨items, rfl, hcomma, hne⟩
      refine hydrate_persist_of_carries ht rfl ?_
      rw [htype.conversion_eq]
      exact Conversion.carries_list c.members hcomma hne
  · rw [htype.hydrate_text ht, htype.persist_array ht, Value.stringify,
      Conversion.stringifyItems_map_text, Value.joinWith_listItems, Value.ofChars,
      String.ofList_toList]

/-- Two empty texts come back, one does not, and neither does a number. -/
theorem hydrate_persist_array_iff_tags :
    let c := Column.new "tags" (.dialect .set)
    c.hydrate (c.persist (.array [.text "", .text ""])) = .array [.text "", .text ""] ∧
      c.hydrate (c.persist (.array [.text ""])) ≠ .array [.text ""] ∧
      c.hydrate (c.persist (.array [.int 1])) ≠ .array [.int 1] ∧
      c.persist (c.hydrate (.text ",a,,")) = .text ",a,," := by
  intro c
  obtain ⟨hlists, htexts⟩ := hydrate_persist_array_iff (c := c) (.inr rfl) rfl
  refine ⟨(hlists _).mpr ⟨?_, by simp⟩, fun h => ((hlists _).mp h).2 rfl, fun h => ?_, htexts ",a,,"⟩
  · intro x hx
    obtain rfl : x = .text "" := by simpa using hx
    exact ⟨"", rfl, List.not_mem_nil⟩
  · obtain ⟨s, hs, -⟩ := ((hlists _).mp h).1 _ List.mem_cons_self
    cases hs

end Column

end TableMapping
