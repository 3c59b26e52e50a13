import TableMapping.Proofs.Introspection.TypeWords
import TableMapping.Proofs.Schema.Exactness

/-!
# Attribute words

Whether a live column has no sign and whether it is filled with zeros is read from the text of its
type, in which the words for that stand behind the parentheses.  They are looked for in the whole
text, though, so a member of a domain that has such a word in it counts as well; and a column that is
filled with zeros is always read as one without a sign, while a declared one has a sign unless it is
declared without one too.  A definition that says neither drifts in both cases.

## Main definitions

* `NumberAttribute` : the two attributes.
* `IsTypeWord` : the words that stand behind a type.
* `ColumnRow.HasType` : the rows whose type has given members and words.
* `NumberAttribute.StandsIn`, `NumberAttribute.OccursIn` : an attribute among the words, and in a
  member.
* `NumberAttribute.Appears` : one or the other.

## Main results

* `ColumnRow.toLive_attributes` : which attributes a live column has, and which declared columns agree
  with it about them.
* `Schema.drift_toLive_ne_attribute` : a row without such members shows no drift in them if the column
  declares what is concluded, too.
-/

namespace TableMapping

open Text (toLower contains)

/-! ### Attributes and their words -/

/-- An attribute of numbers that is read from the text of a type. -/
inductive NumberAttribute
  | unsigned
  | zerofill
deriving DecidableEq

namespace NumberAttribute

/-- The word for an attribute. -/
def word : NumberAttribute → List Char
  | unsigned => "unsigned".toList
  | zerofill => "zerofill".toList

/-- Both attributes. -/
def all : List NumberAttribute := [unsigned, zerofill]

theorem mem_all (a : NumberAttribute) : a ∈ all := by
  cases a <;> decide

theorem isLower_of_mem_word (a : NumberAttribute) : ∀ x ∈ a.word, x.isLower = true := by
  cases a <;> decide

theorem word_ne_nil (a : NumberAttribute) : a.word ≠ [] := by
  cases a <;> decide

theorem not_isInfix_spelling (a : NumberAttribute) (t : DialectType) :
    ¬ a.word <:+: t.spelling.toList := by
  obtain ⟨-, -, -, hunsigned, hzerofill⟩ := t.spelling_plain
  cases a with
  | unsigned => exact Text.contains_eq_false_iff.mp hunsigned
  | zerofill => exact Text.contains_eq_false_iff.mp hzerofill

/-- One of the words, in some letter case, is that of the attribute. -/
def StandsIn (a : NumberAttribute) (words : List (List Char)) : Prop :=
  ∃ w ∈ words, toLower w = a.word

/-- One of the members has the word of the attribute in it, in some letter case. -/
def OccursIn (a : NumberAttribute) (members : List (List Char)) : Prop :=
  ∃ m ∈ members, a.word <:+: toLower m

/-- The attribute is one of the words or occurs in a member. -/
def Appears (a : NumberAttribute) (members words : List (List Char)) : Prop :=
  a.StandsIn words ∨ a.OccursIn members

end NumberAttribute

/-- A word that can stand behind a type: one for an attribute, or one that has nothing to do with
them. -/
structure IsTypeWord (w : List Char) : Prop where
  closed : ')' ∉ w
  whole : ∀ a : NumberAttribute, a.word <:+: toLower w → toLower w = a.word

theorem isTypeWord_iff {w : List Char} :
    IsTypeWord w ↔ ')' ∉ w ∧ ∀ a ∈ NumberAttribute.all,
      contains a.word (toLower w) = true → toLower w = a.word := by
  simp only [Text.contains_iff]
  exact ⟨fun h => ⟨h.closed, fun a _ => h.whole a⟩, fun h => ⟨h.1, fun a => h.2 a a.mem_all⟩⟩

instance (w : List Char) : Decidable (IsTypeWord w) := decidable_of_iff' _ isTypeWord_iff

/-! ### Rows of a type -/

namespace ColumnRow

/-- The type in the row has the members and the words; its names are in some letter case. -/
structure HasType (t : DialectType) (members words : List (List Char)) (r : ColumnRow) : Prop where
  dataType : t.Names r.dataType.toList
  columnType : ∃ name body, t.Names name ∧ TypeContent t.spelling members body ∧
    r.columnType.toList = name ++ (body ++ typeSuffix words)
  words : ∀ w ∈ words, IsTypeWord w

variable {r : ColumnRow} {t : DialectType} {members words : List (List Char)}

theorem not_mem_typeSuffix (h : ∀ w ∈ words, IsTypeWord w) : ')' ∉ typeSuffix words := by
  rw [typeSuffix, List.mem_flatMap]
  rintro ⟨w, hw, hmem⟩
  rcases List.mem_cons.mp hmem with hblank | hmem
  · exact absurd hblank (by decide)
  · exact (h w hw).closed hmem

namespace HasType

/-- The word for an attribute is found among the words behind the type and in the members. -/
theorem contains_word (h : r.HasType t members words) (a : NumberAttribute) :
    contains a.word (toLower r.columnType.toList) = true ↔ a.Appears members words := by
  obtain ⟨name, body, hname, hbody, hwritten⟩ := h.columnType
  -- A word behind the type that has the word of an attribute in it is that word.
  have hword : (∃ w ∈ words, a.word <:+: toLower w) ↔ a.StandsIn words := by
    refine exists_congr fun w => and_congr_right fun hw => ⟨(h.words w hw).whole a, fun heq => ?_⟩
    exact heq ▸ List.infix_rfl
  rw [Text.contains_iff, hwritten,
    isInfix_toLower_typeText_iff a.isLower_of_mem_word a.word_ne_nil hname hbody,
    or_iff_right (a.not_isInfix_spelling t), hword]
  exact or_comm

/-- The members of a domain are read back. -/
theorem ofType (h : r.HasType t members words) (ht : memberTypes.contains t.spelling = true) :
    MemberList.ofType r.columnType.toList = some members := by
  obtain ⟨name, body, hname, hbody, hwritten⟩ := h.columnType
  cases hbody with
  | sizes hm _ => exact absurd (hm.symm.trans ht) Bool.false_ne_true
  | members _ _ =>
    rw [hwritten]
    exact MemberList.ofType_write hname.not_mem_parenthesis (not_mem_typeSuffix h.words) members

end HasType

/-- A row is turned into a live column if its text about updates and its members can be read. -/
theorem toLive_ok {typeName : String} (htype : toLower r.dataType.toList = typeName.toList)
    {update : Option (List Char)} (hupdate : updateClause r.extra.toList = .ok update)
    (hmembers : memberTypes.contains typeName = true →
      ∃ ms, MemberList.ofType r.columnType.toList = some ms) (unique : List String) (flavor : Flavor) :
    ∃ l, r.toLive unique flavor = .ok l ∧ l.onUpdate = update.map String.ofList ∧
      l.length = lengthText typeName r.characterMaximumLength ∧
      l.width = width? typeName l.unsigned (toLower r.columnType.toList) ∧
      l.zerofill = contains NumberAttribute.zerofill.word (toLower r.columnType.toList) ∧
      l.unsigned =
        (l.zerofill || contains NumberAttribute.unsigned.word (toLower r.columnType.toList)) := by
  simp only [toLive, htype, String.ofList_toList, hupdate]
  by_cases hm : memberTypes.contains typeName = true
  · obtain ⟨ms, hms⟩ := hmembers hm
    simp only [if_pos hm, hms]
    exact ⟨_, rfl, rfl, rfl, rfl, rfl, rfl⟩
  · simp only [if_neg hm]
    exact ⟨_, rfl, rfl, rfl, rfl, rfl, rfl⟩

/-! ### What is read -/

theorem HasType.toLive_ok (h : r.HasType t members words) {update : Option (List Char)}
    (hupdate : updateClause r.extra.toList = .ok update) (unique : List String) (flavor : Flavor) :
    ∃ l, r.toLive unique flavor = .ok l ∧
      (l.zerofill = true ↔ NumberAttribute.zerofill.Appears members words) ∧
      (l.unsigned = true ↔ NumberAttribute.zerofill.Appears members words ∨
        NumberAttribute.unsigned.Appears members words) := by
  obtain ⟨l, hl, -, -, -, hzerofill, hunsigned⟩ :=
    ColumnRow.toLive_ok h.dataType.toLower_eq hupdate (fun ht => ⟨members, h.ofType ht⟩) unique flavor
  have hz : l.zerofill = true ↔ NumberAttribute.zerofill.Appears members words := by
    rw [hzerofill]
    exact h.contains_word .zerofill
  refine ⟨l, hl, hz, ?_⟩
  rw [hunsigned, Bool.or_eq_true, hz]
  exact or_congr_right (h.contains_word .unsigned)

/-- **Where the attributes of a live column come from.**  It is filled with zeros if that is one of the
words behind its type or occurs in a member, and it has no sign if that is so, or if the word for it is
one of the words or occurs in a member.  A declared column agrees with it about the two if it has the
same ones, where nothing is concluded from one of them. -/
theorem toLive_attributes (h : r.HasType t members words) {update : Option (List Char)}
    (hupdate : updateClause r.extra.toList = .ok update) (unique : List String) (flavor : Flavor) :
    ∃ l, r.toLive unique flavor = .ok l ∧
      (l.zerofill = true ↔ NumberAttribute.zerofill.Appears members words) ∧
      (l.unsigned = true ↔ NumberAttribute.zerofill.Appears members words ∨
        NumberAttribute.unsigned.Appears members words) ∧
      ∀ (agree : Nullability) (e : Entity) (c : Column) (clause : Option (List Char)),
        (Schema.differs flavor agree e c l clause .zerofill = false ↔
          (c.zerofill = true ↔ NumberAttribute.zerofill.Appears members words)) ∧
        (Schema.differs flavor agree e c l clause .unsigned = false ↔
          (c.unsigned = true ↔ NumberAttribute.zerofill.Appears members words ∨
            NumberAttribute.unsigned.Appears members words)) := by
  obtain ⟨l, hl, hzerofill, hunsigned⟩ := h.toLive_ok hupdate unique flavor
  refine ⟨l, hl, hzerofill, hunsigned, fun agree e c clause => ⟨?_, ?_⟩⟩
  · rw [Schema.differs, bne_eq_false_iff_eq, Bool.eq_iff_iff, hzerofill]
    exact Iff.comm
  · rw [Schema.differs, bne_eq_false_iff_eq, Bool.eq_iff_iff, hunsigned]
    exact Iff.comm

/-- The type of a price in capitals, which has both attributes. -/
theorem toLive_attributes_price :
    let r : ColumnRow :=
      { columnName := "price", dataType := "decimal", columnType := "DECIMAL(10,2) UNSIGNED zerofill"
        isNullable := "NO", columnDefault := none, columnKey := "", extra := ""
        characterMaximumLength := none, numericPrecision := some 10, numericScale := some 2
        datetimePrecision := none, columnComment := none, generationExpression := none }
    r.HasType .decimal [] ["UNSIGNED".toList, "zerofill".toList] ∧
      ∃ l, r.toLive [] .mysql = .ok l ∧ l.zerofill = true ∧ l.unsigned = true := by
  intro r
  have hrow : r.HasType .decimal [] ["UNSIGNED".toList, "zerofill".toList] := {
    dataType := by decide
    columnType :=
      ⟨"DECIMAL".toList, "(10,2)".toList, by decide, .sizes (by decide) (by decide), by decide⟩
    words := by decide }
  have hupdate : updateClause r.extra.toList = .ok none := rfl
  obtain ⟨l, hl, hzerofill, hunsigned, -⟩ := toLive_attributes hrow hupdate [] .mysql
  have hstands : NumberAttribute.zerofill.Appears [] ["UNSIGNED".toList, "zerofill".toList] :=
    .inl ⟨"zerofill".toList, by decide, by decide⟩
  exact ⟨hrow, l, hl, hzerofill.mpr hstands, hunsigned.mpr (.inl hstands)⟩

end ColumnRow

/-- A row in whose members no word for an attribute occurs shows no drift in the attributes, if the
column declares those that stand behind the type, and no sign beside zeros. -/
theorem Schema.drift_toLive_ne_attribute {r : ColumnRow} {t : DialectType}
    {members words : List (List Char)} (h : r.HasType t members words)
    (hmembers : ∀ a : NumberAttribute, ¬ a.OccursIn members) {update : Option (List Char)}
    (hupdate : ColumnRow.updateClause r.extra.toList = .ok update) {c : Column}
    (hzerofill : c.zerofill = true ↔ NumberAttribute.zerofill.StandsIn words)
    (hunsigned : c.unsigned = true ↔ NumberAttribute.zerofill.StandsIn words ∨
      NumberAttribute.unsigned.StandsIn words)
    (unique : List String) (flavor : Flavor) (agree : Nullability) (e : Entity) :
    ∃ l, r.toLive unique flavor = .ok l ∧
      drift flavor agree e c l ≠ .ok (some .zerofill) ∧
      drift flavor agree e c l ≠ .ok (some .unsigned) := by
  have happears : ∀ a : NumberAttribute, a.Appears members words ↔ a.StandsIn words :=
    fun a => or_iff_left (hmembers a)
  obtain ⟨l, hl, hz, hu⟩ := h.toLive_ok hupdate unique flavor
  rw [happears] at hz
  rw [happears, happears] at hu
  refine ⟨l, hl, drift_ne_some fun clause => ?_, drift_ne_some fun clause => ?_⟩
  · rw [differs, bne_eq_false_iff_eq, Bool.eq_iff_iff, hz, hzerofill]
  · rw [differs, bne_eq_false_iff_eq, Bool.eq_iff_iff, hu, hunsigned]

/-! ### Members that read as attributes, and zeros without a sign -/

/-- A column with nothing but a member drifts for ever if the member is called like an attribute. -/
theorem Schema.drift_toLive_enum_unsigned :
    let c : Column := { Column.new "kind" (.dialect .enum) with members := some [.text "unsigned"] }
    let e : Entity := { Entity.new "t" with columns := [c] }
    let r : ColumnRow :=
      { columnName := "kind", dataType := "enum", columnType := "enum('unsigned')", isNullable := "YES"
        columnDefault := none, columnKey := "", extra := "", characterMaximumLength := none
        numericPrecision := none, numericScale := none, datetimePrecision := none
        columnComment := none, generationExpression := none }
    r.HasType .enum ["unsigned".toList] [] ∧
    ∃ l, r.toLive [] .mysql = .ok l ∧ l.unsigned = true ∧
      drift .mysql .strict e c l = .ok (some .unsigned) := by
  intro c e r
  refine ⟨⟨by decide, ⟨"enum".toList, MemberList.write ["unsigned".toList], by decide,
    .members (by decide) _, by decide⟩, fun w hw => absurd hw List.not_mem_nil⟩, ?_⟩
  unfold c e r
  exact ⟨_, rfl, by decide, by decide⟩

/-- A column that is declared as filled with zeros drifts for ever unless it is declared without a
sign, too. -/
theorem Schema.drift_toLive_zerofill :
    let c : Column := { Column.new "code" (.dialect .int) with zerofill := true }
    let e : Entity := { Entity.new "t" with columns := [c] }
    let r : ColumnRow :=
      { columnName := "code", dataType := "int", columnType := "int(10) unsigned zerofill"
        isNullable := "YES", columnDefault := none, columnKey := "", extra := ""
        characterMaximumLength := none, numericPrecision := some 10, numericScale := some 0
        datetimePrecision := none, columnComment := none, generationExpression := none }
    ∃ l, r.toLive [] .mysql = .ok l ∧ drift .mysql .strict e c l = .ok (some .unsigned) := by
  intro c e r
  unfold c e r
  exact ⟨_, rfl, by decide⟩

end TableMapping
