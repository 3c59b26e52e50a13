import TableMapping.Proofs.Number.Numerals
import TableMapping.Proofs.Text.Splitting
import TableMapping.Wire.Conversion

/-!
# Round trips through a column

A value that is stored in a column and read again is the value itself, whatever transformers the
column has, provided that each transformer undoes itself and that what comes out of them is the null
or has the form in which the application holds values of the column's type.  The transformers run in
order on the way there and in the opposite order on the way back, and the null passes the conversion
of the type on both ways.

Columns that hold documents are left out: a document is written as a text and read as a document, so
the form of a value in them is another matter.

## Main definitions

* `Transformer.Lossless` : a transformer that undoes itself.
* `Column.transformed`, `Column.restored` : a value after all transformers of a column, on the way there
  and on the way back.
* `Column.Represents` : the values in the form in which the application holds those of a column.
* `Conversion.Carries` : a value that survives the conversion of a type in both directions.

## Main results

* `Column.carries_of_represents` : the values that a column represents survive its conversion.
* `Column.hydrate_persist` : what is stored is what is read.
-/

namespace TableMapping

/-! ### Transformers -/

/-- What a transformer makes of a stored value is the value before it was stored. -/
def Transformer.Lossless (t : Transformer) : Prop := ∀ v, t.fromDatabase (t.toDatabase v) = v

/-- A value after all transformers of a column, in order. -/
def Column.transformed (c : Column) (v : Value) : Value :=
  c.transformers.foldl (fun v t => t.toDatabase v) v

/-- A value after all transformers of a column on the way back, in the opposite order. -/
def Column.restored (c : Column) (v : Value) : Value :=
  c.transformers.foldr (fun t v => t.fromDatabase v) v

/-- Transformers that undo themselves one by one undo each other when they run in the opposite
order. -/
theorem Transformer.foldr_foldl {ts : List Transformer} (h : ∀ t ∈ ts, t.Lossless) (v : Value) :
    ts.foldr (fun t v => t.fromDatabase v) (ts.foldl (fun v t => t.toDatabase v) v) = v := by
  induction ts generalizing v with
  | nil => rfl
  | cons t ts ih =>
    rw [List.foldl_cons, List.foldr_cons, ih fun u hu => h u (List.mem_cons_of_mem t hu)]
    exact h t List.mem_cons_self v

/-! ### The application's form of a value -/

namespace Column

/-- The integer is one of the members of the column's domain. -/
def Declares (c : Column) (n : Int64) : Prop := ∃ ms, c.members = some ms ∧ .int n ∈ ms

/-- The form in which the application holds the values of a column: truth values, instants, texts of
dates and times, lists of texts without commas, members of a domain, and integers.  A text stands for
itself in a domain unless it reads as an integer of the domain, and a list with nothing but an empty
text would be stored like the empty list.  The values of every other type have no form. -/
def Represents (c : Column) (v : Value) : Prop :=
  match c.columnType with
  | .application .boolean | .dialect .bool | .dialect .boolean => ∃ b, v = .bool b
  | .application .date | .dialect .datetime | .dialect .timestamp => ∃ i, v = .instant i
  | .dialect .date => ∃ s, v = .text s ∧ (readDate? s.toList).isSome
  | .dialect .time => ∃ s, v = .text s
  | .dialect .simpleArray | .dialect .set =>
    ∃ items : List String, v = .array (items.map .text) ∧ (∀ s ∈ items, ',' ∉ s.toList) ∧
      items ≠ [""]
  | .dialect .enum | .dialect .simpleEnum =>
    (∃ n, v = .int n ∧ c.Declares n) ∨
      ∃ s, v = .text s ∧ ∀ n, readInt64? (Text.trim s.toList) = some n → ¬ c.Declares n
  | .application .number | .dialect .bit => (∃ n, v = .int n) ∨ ∃ n, v = .uint n
  | _ => True

end Column

/-! ### Conversions in both directions -/

namespace Conversion

/-- The value is stored as something that is not null and that reads as the value. -/
def Carries (members : Option (List EnumMember)) (k : Conversion) (v : Value) : Prop :=
  (k.toWire v).isNull = false ∧ k.fromWire members (k.toWire v) = v

variable (members : Option (List EnumMember))

theorem carries_truth (b : Bool) : truth.Carries members (.bool b) := by
  cases b <;> exact ⟨rfl, rfl⟩

theorem carries_instant (i : Instant) : instant.Carries members (.instant i) := ⟨rfl, rfl⟩

theorem carries_date {s : String} (h : (readDate? s.toList).isSome) :
    date.Carries members (.text s) := by
  have hs : (Value.text s).toDateText = .text s := by rw [Value.toDateText, if_pos h]
  refine ⟨?_, ?_⟩
  · rw [toWire, hs]
    rfl
  · rw [toWire, fromWire, hs, hs]

theorem carries_time (s : String) : time.Carries members (.text s) := ⟨rfl, rfl⟩

theorem stringifyItems_map_text (items : List String) :
    Value.stringifyItems (items.map .text) = items.map String.toList := by
  induction items with
  | nil => rfl
  | cons s items ih => rw [List.map_cons, Value.stringifyItems, ih, Value.stringify, List.map_cons]

theorem splitList_ofChars_joinWith {items : List String} (hcomma : ∀ s ∈ items, ',' ∉ s.toList)
    (hempty : items ≠ [""]) :
    (Value.ofChars (Text.joinWith [','] (items.map String.toList))).splitList =
      .array (items.map .text) := by
  rw [Value.ofChars, Value.splitList, String.toList_ofList]
  by_cases hnil : items = []
  · rw [hnil]
    rfl
  · have hpieces : items.map String.toList ≠ [] := by simpa using hnil
    have hpieces' : items.map String.toList ≠ [[]] := by
      intro h
      obtain ⟨s, rfl, hs⟩ := List.map_eq_singleton_iff.mp h
      exact hempty (by rw [String.toList_eq_nil_iff.mp hs])
    have hjoin : Text.joinWith [','] (items.map String.toList) ≠ [] :=
      Text.joinWith_ne_nil hpieces hpieces'
    rw [if_neg (by simpa using hjoin), Text.splitOn_joinWith (by simpa using hcomma) hpieces,
      List.map_map]
    congr 1
    exact List.map_congr_left fun s _ => by simp [Value.ofChars]

theorem carries_list {items : List String} (hcomma : ∀ s ∈ items, ',' ∉ s.toList)
    (hempty : items ≠ [""]) : list.Carries members (.array (items.map .text)) := by
  refine ⟨rfl, ?_⟩
  rw [toWire, fromWire, Value.stringify, stringifyItems_map_text,
    splitList_ofChars_joinWith hcomma hempty]

/-- The spelling of an integer is read as that integer. -/
theorem memberNumber?_ofChars_intText (n : Int64) :
    (Value.ofChars (intText n.toInt)).memberNumber? = some n := by
  rw [Value.ofChars, Value.memberNumber?, String.toList_ofList, trim_intText, readInt64?_intText]

theorem carries_member_int {n : Int64} {ms : List EnumMember} (h : .int n ∈ ms) :
    member.Carries (some ms) (.int n) := by
  refine ⟨rfl, ?_⟩
  rw [toWire, fromWire, Value.stringify]
  simp only [Value.toMember, memberNumber?_ofChars_intText]
  exact if_pos (List.contains_iff_mem.mpr h)

theorem carries_member_text {s : String}
    (h : ∀ n ms, readInt64? (Text.trim s.toList) = some n → members = some ms → .int n ∉ ms) :
    member.Carries members (.text s) := by
  refine ⟨rfl, ?_⟩
  rw [toWire, fromWire, Value.stringify, Value.ofChars, String.ofList_toList]
  unfold Value.toMember
  split
  · rename_i ms n hn
    rw [Value.memberNumber?] at hn
    exact if_neg fun hmem => h n ms hn rfl (List.contains_iff_mem.mp hmem)
  · rfl

theorem carries_number_int (n : Int64) : number.Carries members (.int n) := ⟨rfl, rfl⟩

theorem carries_number_uint (n : UInt64) : number.Carries members (.uint n) := ⟨rfl, rfl⟩

theorem carries_bits_int (n : Int64) : bits.Carries members (.int n) := ⟨rfl, rfl⟩

theorem carries_bits_uint (n : UInt64) : bits.Carries members (.uint n) := ⟨rfl, rfl⟩

theorem carries_none {v : Value} (h : v.isNull = false) : none.Carries members v := ⟨h, rfl⟩

end Conversion

/-! ### Columns -/

namespace Column

/-- A value that the transformers do not make the null is stored by the conversion of the type. -/
theorem persist_eq_toWire_transformed {c : Column} {v : Value}
    (hv : (c.transformed v).isNull = false) :
    c.persist v = c.columnType.conversion.toWire (c.transformed v) :=
  if_neg (Bool.eq_false_iff.mp hv)

/-- A stored value that is not the null is read by it before the transformers. -/
theorem hydrate_eq_restored_fromWire {c : Column} {v : Value} (hv : v.isNull = false) :
    c.hydrate v = c.restored (c.columnType.conversion.fromWire c.members v) := by
  rw [hydrate, if_neg (by simp [hv]), restored]

/-- Without transformers a value is stored by the conversion of the type alone. -/
theorem persist_eq_toWire {c : Column} {v : Value} (ht : c.transformers = [])
    (hv : v.isNull = false) : c.persist v = c.columnType.conversion.toWire v := by
  have hself : c.transformed v = v := by rw [transformed, ht, List.foldl_nil]
  rw [persist_eq_toWire_transformed (by rwa [hself]), hself]

/-- Without transformers a stored value is read by it alone. -/
theorem hydrate_eq_fromWire {c : Column} {v : Value} (ht : c.transformers = [])
    (hv : v.isNull = false) :
    c.hydrate v = c.columnType.conversion.fromWire c.members v := by
  rw [hydrate_eq_restored_fromWire hv, restored, ht, List.foldr_nil]

/-- Without transformers a value comes back if it survives the conversion of the type. -/
theorem hydrate_persist_of_carries {c : Column} {v : Value} (ht : c.transformers = [])
    (hv : v.isNull = false) (h : c.columnType.conversion.Carries c.members v) :
    c.hydrate (c.persist v) = v := by
  rw [persist_eq_toWire ht hv, hydrate_eq_fromWire ht h.1, h.2]

/-- A value in the application's form survives the conversion of every type but those of
documents. -/
theorem carries_of_represents {c : Column} {v : Value} (hjson : c.columnType ≠ .dialect .json)
    (hsimple : c.columnType ≠ .dialect .simpleJson) (hv : v.isNull = false)
    (h : c.Represents v) : c.columnType.conversion.Carries c.members v := by
  unfold Represents at h
  split at h
  case h_1 hc | h_2 hc | h_3 hc =>
    obtain ⟨b, rfl⟩ := h
    rw [hc]
    exact Conversion.carries_truth c.members b
  case h_4 hc | h_5 hc | h_6 hc =>
    obtain ⟨i, rfl⟩ := h
    rw [hc]
    exact Conversion.carries_instant c.members i
  case h_7 hc =>
    obtain ⟨s, rfl, hs⟩ := h
    rw [hc]
    exact Conversion.carries_date c.members hs
  case h_8 hc =>
    obtain ⟨s, rfl⟩ := h
    rw [hc]
    exact Conversion.carries_time c.members s
  case h_9 hc | h_10 hc =>
    obtain ⟨items, rfl, hcomma, hempty⟩ := h
    rw [hc]
    exact Conversion.carries_list c.members hcomma hempty
  case h_11 hc | h_12 hc =>
    rw [hc]
    rcases h with ⟨n, rfl, ms, hms, hn⟩ | ⟨s, rfl, hs⟩
    · rw [hms]
      exact Conversion.carries_member_int hn
    · exact Conversion.carries_member_text c.members fun n ms hn hms hmem => hs n hn ⟨ms, hms, hmem⟩
  case h_13 hc =>
    rw [hc]
    rcases h with ⟨n, rfl⟩ | ⟨n, rfl⟩
    · exact Conversion.carries_number_int c.members n
    · exact Conversion.carries_number_uint c.members n
  case h_14 hc =>
    rw [hc]
    rcases h with ⟨n, rfl⟩ | ⟨n, rfl⟩
    · exact Conversion.carries_bits_int c.members n
    · exact Conversion.carries_bits_uint c.members n
  case h_15 =>
    have hnone : c.columnType.conversion = .none := by
      unfold ColumnType.conversion
      split <;> simp_all
    rw [hnone]
    exact Conversion.carries_none c.members hv

/-- **What is stored is what is read.**  If the transformers of a column undo themselves, and a value
is the null or has the form of the column once they have run, then reading what was stored for the
value gives the value. -/
theorem hydrate_persist {c : Column} (hjson : c.columnType ≠ .dialect .json)
    (hsimple : c.columnType ≠ .dialect .simpleJson) (ht : ∀ t ∈ c.transformers, t.Lossless)
    (x : Value) (hx : c.transformed x = .null ∨ c.Represents (c.transformed x)) :
    c.hydrate (c.persist x) = x := by
  have hundo : c.transformers.foldr (fun t v => t.fromDatabase v) (c.transformed x) = x :=
    Transformer.foldr_foldl ht x
  have hpersist : c.persist x = if (c.transformed x).isNull then c.transformed x
      else c.columnType.conversion.toWire (c.transformed x) := rfl
  cases hnull : (c.transformed x).isNull with
  | true =>
    rw [hpersist, if_pos hnull, hydrate]
    simp only [hnull, if_true]
    exact hundo
  | false =>
    have hrep : c.Represents (c.transformed x) := by
      refine hx.resolve_left fun h => ?_
      rw [h] at hnull
      exact absurd hnull (by decide)
    obtain ⟨hwire, hback⟩ := carries_of_represents hjson hsimple hnull hrep
    rw [hpersist, if_neg (by simp [hnull]), hydrate]
    simp only [hwire, Bool.false_eq_true, if_false, hback]
    exact hundo

end Column

/-! ### A column with two transformers -/

/-- Stores lists back to front. -/
def Transformer.reversed : Transformer where
  toDatabase
    | .array items => .array items.reverse
    | v => v
  fromDatabase
    | .array items => .array items.reverse
    | v => v

/-- Stores lists behind one more item. -/
def Transformer.headed (head : Value) : Transformer where
  toDatabase
    | .array items => .array (head :: items)
    | v => v
  fromDatabase
    | .array (_ :: items) => .array items
    | v => v

theorem Transformer.lossless_reversed : reversed.Lossless := by
  intro v
  cases v with
  | array items => exact congrArg Value.array items.reverse_reverse
  | _ => rfl

theorem Transformer.lossless_headed (head : Value) : (headed head).Lossless := by
  intro v
  cases v <;> rfl

/-- A list of tags that is stored back to front behind the version of its notation. -/
def Column.versionedTags : Column :=
  { Column.new "tags" (.dialect .simpleArray) with
    transformers := [.reversed, .headed (.text "v2")] }

namespace Column

theorem hydrate_persist_versionedTags :
    (∀ t ∈ versionedTags.transformers, t.Lossless) ∧
      versionedTags.Represents (versionedTags.transformed (.array [.text "b", .text "", .text "a"])) ∧
      versionedTags.persist (.array [.text "b", .text "", .text "a"]) = .text "v2,a,,b" ∧
      versionedTags.hydrate (versionedTags.persist (.array [.text "b", .text "", .text "a"])) =
        .array [.text "b", .text "", .text "a"] := by
  have ht : ∀ t ∈ versionedTags.transformers, t.Lossless := by
    intro t h
    rcases List.mem_cons.mp h with rfl | h
    · exact Transformer.lossless_reversed
    · rw [List.mem_singleton.mp h]
      exact Transformer.lossless_headed (.text "v2")
  have hrep : versionedTags.Represents
      (versionedTags.transformed (.array [.text "b", .text "", .text "a"])) :=
    ⟨["v2", "a", "", "b"], rfl, by decide, by decide⟩
  exact ⟨ht, hrep, rfl, hydrate_persist (by decide) (by decide) ht _ (Or.inr hrep)⟩

end Column

end TableMapping
