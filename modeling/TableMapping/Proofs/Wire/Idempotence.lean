import TableMapping.Proofs.Calendar.WrittenForms
import TableMapping.Proofs.Wire.DocumentColumns
import TableMapping.Proofs.Wire.ListColumns
import TableMapping.Proofs.Wire.NumberColumns

/-!
# Values that pass a conversion twice

A conversion either leaves a value as it is, because it cannot be read as what the type asks for, or
makes a value of one kind of it, and it leaves the values of that kind alone.  So nothing changes
when a value passes the same conversion twice.  The one exception is the way of documents to the
database: a text is a document too and is written with quotes around it, so that it grows each time.

## Main results

* `Conversion.fromWire_fromWire` : reading what has been read.
* `Conversion.toWire_toWire` : storing what has been stored.
* `Column.conversions_idempotent` : both for a column without transformers.
-/

namespace TableMapping

namespace Value

/-! ### What a conversion makes of a value -/

@[simp]
theorem stringify_ofChars (s : List Char) : (ofChars s).stringify = s := String.toList_ofList

theorem truth_int (b : Bool) : (Value.int (if b then 1 else 0)).truth = b := by cases b <;> rfl

theorem toInstant_cases (v : Value) : v.toInstant = v ∨ ∃ i, v.toInstant = .instant i := by
  unfold toInstant
  split
  case h_1 d => exact .inr ⟨.ofDate d, rfl⟩
  case h_2 =>
    split
    case h_1 i _ => exact .inr ⟨i, rfl⟩
    case h_2 => exact .inl rfl
  case h_3 =>
    split
    case h_1 i _ => exact .inr ⟨i, rfl⟩
    case h_2 => exact .inl rfl
  case h_4 => exact .inl rfl

theorem fromWireInstant_cases (v : Value) :
    v.fromWireInstant = v ∨ ∃ i, v.fromWireInstant = .instant i := by
  unfold fromWireInstant
  split
  case h_1 =>
    dsimp only
    split
    case h_1 i _ => exact .inr ⟨i, rfl⟩
    case h_2 => exact .inl rfl
  case h_2 => exact v.toInstant_cases

theorem toDateText_cases (v : Value) :
    v.toDateText = v ∨ ∃ d : Date, v.toDateText = ofChars d.text := by
  cases v with
  | date d => exact .inr ⟨d, rfl⟩
  | instant i => exact .inr ⟨i.date, rfl⟩
  | text s =>
    rw [toDateText]
    split
    · exact .inl rfl
    · split
      case h_1 i _ => exact .inr ⟨i.date, rfl⟩
      case h_2 => exact .inl rfl
  | _ => exact .inl rfl

theorem toTimeText_cases (v : Value) :
    v.toTimeText = v ∨ ∃ t : Clock, v.toTimeText = ofChars t.text := by
  cases v with
  | time t => exact .inr ⟨t, rfl⟩
  | instant i => exact .inr ⟨i.clock, rfl⟩
  | _ => exact .inl rfl

theorem parseDocument_cases (v : Value) :
    v.parseDocument = v ∨ ∃ d, v.parseDocument = .document d := by
  unfold parseDocument
  dsimp only
  split
  case h_1 d _ => exact .inr ⟨d, rfl⟩
  case h_2 => exact .inl rfl

theorem splitList_cases (v : Value) : v.splitList = v ∨ ∃ items, v.splitList = .array items := by
  cases v with
  | text s => exact .inr ⟨_, splitList_text s⟩
  | _ => exact .inl rfl

theorem toMember_cases (members : Option (List EnumMember)) (v : Value) :
    v.toMember members = v ∨
      ∃ ms n, members = some ms ∧ EnumMember.int n ∈ ms ∧ v.toMember members = .int n := by
  unfold toMember
  split
  case h_1 ms n _ =>
    split
    case isTrue hmem => exact .inr ⟨ms, n, rfl, List.contains_iff_mem.mp hmem, rfl⟩
    case isFalse => exact .inl rfl
  case h_2 => exact .inl rfl

/-- What a value denotes is denoted by its own value. -/
theorem quantity?_toValue {v : Value} {q : Quantity} (h : v.quantity? = some q) :
    q.toValue.quantity? = some q := by
  cases q with
  | float x =>
    rw [Quantity.toValue, quantity?]
    exact if_pos (isFinite_of_quantity? h)
  | _ => rfl

theorem toNumber_cases (v : Value) :
    v.toNumber = v ∨ ∃ q : Quantity, q.toValue.quantity? = some q ∧ v.toNumber = q.toValue := by
  rw [toNumber]
  split
  case h_1 q hq => exact .inr ⟨q, quantity?_toValue hq, rfl⟩
  case h_2 => exact .inl rfl

/-- A double stays one only if no integer can stand for it. -/
theorem toWholeNumber_cases (v : Value) :
    v.toWholeNumber = v ∨ (∃ n, v.toWholeNumber = .int n) ∨ (∃ n, v.toWholeNumber = .uint n) ∨
      ∃ x, (Value.float x).quantity? = some (.float x) ∧ wholePart? x = none ∧
        v.toWholeNumber = .float x := by
  unfold toWholeNumber
  split
  case h_1 x hx =>
    split
    case h_1 n _ => exact .inr (.inl ⟨n, rfl⟩)
    case h_2 hwhole => exact .inr (.inr (.inr ⟨x, quantity?_toValue hx, hwhole, rfl⟩))
  case h_2 q hq _ =>
    cases q with
    | int n => exact .inr (.inl ⟨n, rfl⟩)
    | uint n => exact .inr (.inr (.inl ⟨n, rfl⟩))
    | float x => exact absurd rfl (hq x)
  case h_3 => exact .inl rfl

/-! ### Twice the same conversion -/

theorem toInstant_toInstant (v : Value) : v.toInstant.toInstant = v.toInstant := by
  rcases v.toInstant_cases with h | ⟨i, h⟩
  · rw [h, h]
  · rw [h]
    rfl

theorem fromWireInstant_fromWireInstant (v : Value) :
    v.fromWireInstant.fromWireInstant = v.fromWireInstant := by
  rcases v.fromWireInstant_cases with h | ⟨i, h⟩
  · rw [h, h]
  · rw [h]
    rfl

theorem toDateText_toDateText (v : Value) : v.toDateText.toDateText = v.toDateText := by
  rcases v.toDateText_cases with h | ⟨d, h⟩
  · rw [h, h]
  · have hread : (readDate? (String.ofList d.text).toList).isSome = true := by
      rw [String.toList_ofList, d.readDate?_text]
      rfl
    rw [h, ofChars, toDateText, if_pos hread]

theorem toTimeText_toTimeText (v : Value) : v.toTimeText.toTimeText = v.toTimeText := by
  rcases v.toTimeText_cases with h | ⟨t, h⟩
  · rw [h, h]
  · rw [h]
    rfl

theorem parseDocument_parseDocument (v : Value) :
    v.parseDocument.parseDocument = v.parseDocument := by
  rcases v.parseDocument_cases with h | ⟨d, h⟩
  · rw [h, h]
  · rw [h]
    rfl

theorem splitList_splitList (v : Value) : v.splitList.splitList = v.splitList := by
  rcases v.splitList_cases with h | ⟨items, h⟩
  · rw [h, h]
  · rw [h]
    rfl

theorem toMember_toMember (members : Option (List EnumMember)) (v : Value) :
    (v.toMember members).toMember members = v.toMember members := by
  rcases toMember_cases members v with h | ⟨ms, n, hms, hn, h⟩
  · rw [h, h]
  · rw [h, hms]
    exact if_pos (List.contains_iff_mem.mpr hn)

theorem toNumber_toNumber (v : Value) : v.toNumber.toNumber = v.toNumber := by
  rcases v.toNumber_cases with h | ⟨q, hq, h⟩
  · rw [h, h]
  · rw [h, toNumber, hq]

theorem toWholeNumber_toWholeNumber (v : Value) :
    v.toWholeNumber.toWholeNumber = v.toWholeNumber := by
  rcases v.toWholeNumber_cases with h | ⟨n, h⟩ | ⟨n, h⟩ | ⟨x, hx, hwhole, h⟩
  · rw [h, h]
  · rw [h]
    rfl
  · rw [h]
    rfl
  · rw [h, toWholeNumber_eq_elim hx, hwhole, Option.elim_none]

theorem toBitField_toBitField (v : Value) : v.toBitField.toBitField = v.toBitField := by
  cases v <;> rfl

end Value

/-! ### Conversions of types -/

theorem Quoted.length_lt_length_quote (s : List Char) : s.length < (Quoted.quote s).length := by
  have hescape : ∀ n ∈ s.map fun c => (Quoted.escape c).length, 1 ≤ n := by
    intro n hn
    obtain ⟨c, -, rfl⟩ := List.mem_map.mp hn
    unfold Quoted.escape
    split_ifs <;> simp
  have hsum := List.length_le_sum_of_one_le _ hescape
  rw [List.length_map] at hsum
  rw [Quoted.quote, List.length_cons, List.length_append, List.length_flatMap]
  omega

namespace Conversion

theorem fromWire_fromWire (members : Option (List EnumMember)) (k : Conversion) (v : Value) :
    k.fromWire members (k.fromWire members v) = k.fromWire members v := by
  cases k with
  | truth | none => rfl
  | instant => exact v.fromWireInstant_fromWireInstant
  | date => exact v.toDateText_toDateText
  | time => exact v.toTimeText_toTimeText
  | document => exact v.parseDocument_parseDocument
  | list => exact v.splitList_splitList
  | member => exact Value.toMember_toMember members v
  | number => exact v.toNumber_toNumber
  | bits => exact v.toBitField_toBitField

theorem toWire_toWire {k : Conversion} (hk : k ≠ .document) (v : Value) :
    k.toWire (k.toWire v) = k.toWire v := by
  cases k with
  | truth => rw [toWire, toWire, Value.truth_int]
  | document => exact absurd rfl hk
  | bits | none => rfl
  | instant => exact v.toInstant_toInstant
  | date => exact v.toDateText_toDateText
  | time => exact v.toTimeText_toTimeText
  | list | member => rw [toWire, toWire, Value.stringify_ofChars]
  | number => exact v.toWholeNumber_toWholeNumber

/-- A document that is stored again is a longer text. -/
theorem toWire_toWire_document_ne (v : Value) :
    document.toWire (document.toWire v) ≠ document.toWire v := by
  intro h
  have hquoted : (String.ofList (Quoted.quote v.toDocument.compact.toList)).toList =
      v.toDocument.compact.toList := congrArg String.toList (Value.text.inj h)
  rw [String.toList_ofList] at hquoted
  exact absurd (congrArg List.length hquoted) (Nat.ne_of_gt (Quoted.length_lt_length_quote _))

end Conversion

/-! ### Columns -/

namespace Column

variable {c : Column}

theorem persist_of_isNull {v : Value} (ht : c.transformers = []) (hv : v.isNull = true) :
    c.persist v = v := by
  rw [persist, ht]
  exact if_pos hv

theorem hydrate_of_isNull {v : Value} (ht : c.transformers = []) (hv : v.isNull = true) :
    c.hydrate v = v := by
  rw [hydrate, ht, if_pos hv, List.foldr_nil]

theorem hydrate_hydrate (ht : c.transformers = []) (v : Value) :
    c.hydrate (c.hydrate v) = c.hydrate v := by
  cases hv : v.isNull with
  | true => rw [hydrate_of_isNull ht hv, hydrate_of_isNull ht hv]
  | false =>
    cases hread : (c.hydrate v).isNull with
    | true => exact hydrate_of_isNull ht hread
    | false =>
      rw [hydrate_eq_fromWire ht hread, hydrate_eq_fromWire ht hv, Conversion.fromWire_fromWire]

theorem persist_persist (ht : c.transformers = [])
    (hdocument : c.columnType.conversion ≠ .document) (v : Value) :
    c.persist (c.persist v) = c.persist v := by
  cases hv : v.isNull with
  | true => rw [persist_of_isNull ht hv, persist_of_isNull ht hv]
  | false =>
    cases hstored : (c.persist v).isNull with
    | true => exact persist_of_isNull ht hstored
    | false =>
      rw [persist_eq_toWire ht hstored, persist_eq_toWire ht hv,
        Conversion.toWire_toWire hdocument]

theorem persist_persist_ne {v : Value} (ht : c.transformers = [])
    (hdocument : c.columnType.conversion = .document) (hv : v.isNull = false) :
    c.persist (c.persist v) ≠ c.persist v := by
  have hstored : c.persist v = Conversion.document.toWire v := by
    rw [persist_eq_toWire ht hv, hdocument]
  have hnull : (c.persist v).isNull = false := by
    rw [hstored]
    rfl
  rw [persist_eq_toWire ht hnull, hdocument, hstored]
  exact Conversion.toWire_toWire_document_ne v

/-- Only the two types of documents are stored as such. -/
theorem conversion_eq_document_iff : c.columnType.conversion = .document ↔
    c.columnType = .dialect .json ∨ c.columnType = .dialect .simpleJson := by
  refine ⟨fun h => ?_, conversion_eq_document⟩
  unfold ColumnType.conversion at h
  split at h
  case h_9 hjson => exact .inl hjson
  case h_10 hsimple => exact .inr hsimple
  all_goals cases h

/-- **Conversions are idempotent.**  In a column without transformers, whatever it holds, a value
that has been read is left as it is when it is read once more.  A value that has been stored is left
as it is when it is stored once more if and only if it is the null or the column does not hold
documents. -/
theorem conversions_idempotent (ht : c.transformers = []) (v : Value) :
    c.hydrate (c.hydrate v) = c.hydrate v ∧
      (c.persist (c.persist v) = c.persist v ↔
        v.isNull = true ∨ c.columnType ≠ .dialect .json ∧ c.columnType ≠ .dialect .simpleJson) := by
  rw [← not_or, ← conversion_eq_document_iff]
  refine ⟨hydrate_hydrate ht v, fun h => ?_, fun h => ?_⟩
  · by_contra hnot
    obtain ⟨hv, hdocument⟩ := not_or.mp hnot
    exact persist_persist_ne ht (not_not.mp hdocument) (by simpa using hv) h
  · rcases h with hv | hdocument
    · rw [persist_of_isNull ht hv, persist_of_isNull ht hv]
    · exact persist_persist ht hdocument v

/-- A date before the common era is stored as its text, and a text in a column of documents between
quotes, and between quotes with escapes the second time. -/
theorem conversions_idempotent_date_and_document :
    let day := Column.new "day" (.dialect .date)
    let data := Column.new "data" (.dialect .json)
    let d : Date := ⟨-44, 3, 15, by decide⟩
    (day.persist (.date d) = .text "-0044-03-15" ∧
      day.persist (day.persist (.date d)) = day.persist (.date d) ∧
      day.hydrate (day.hydrate (.date d)) = day.hydrate (.date d)) ∧
    data.persist (.text "a") = .text "\x22a\x22" ∧
      data.persist (data.persist (.text "a")) ≠ data.persist (.text "a") := by
  intro day data d
  have htext : String.ofList d.text = "-0044-03-15" := by decide
  have hday : day.persist (.date d) = .text "-0044-03-15" := congrArg Value.text htext
  obtain ⟨hread, hstored⟩ := conversions_idempotent (c := day) rfl (.date d)
  obtain ⟨-, hdocument⟩ := conversions_idempotent (c := data) rfl (.text "a")
  refine ⟨⟨hday, hstored.mpr (.inr (by decide)), hread⟩, rfl, fun h => ?_⟩
  exact absurd (hdocument.mp h) (by decide)

end Column

end TableMapping
