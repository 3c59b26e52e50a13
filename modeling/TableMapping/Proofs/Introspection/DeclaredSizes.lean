import TableMapping.Proofs.Introspection.AttributeWords
import TableMapping.Proofs.Introspection.FaithfulRows

/-!
# Declared sizes

A width is read back from the text of a type, and a length from its own field of the row, but one that
goes without saying is left out: the width or the length that the type has without being told, unless
it is a length of variable texts or bytes.  What is declared is compared as it is, so a column that
declares just the implied size drifts for ever.  It also drifts if it declares a size that does not
belong to its type, and then the text of the type shows a length rather than a width.

## Main definitions

* `Column.IsSized` : the columns that declare a width or a length of their type.
* `ColumnRow.StatesSizes` : the rows that say just what such a column declares.

## Main results

* `Schema.toLive_sizes_iff` : sizes are read back if and only if the column tells them.
-/

namespace TableMapping

open Text (toLower contains IsAscii)

/-! ### Columns with sizes -/

namespace Column

/-- The column declares a width of a type with widths or a length of a type with lengths. -/
def IsSized (flavor : Flavor) (c : Column) : Prop :=
  ColumnRow.widthTypes.contains (c.typeName flavor) = true ∧ c.width ≠ none ∨
    ColumnRow.lengthTypes.contains (c.typeName flavor) = true ∧ c.length ≠ none

/-- The words behind the type: that it is an array, and that it has no sign. -/
def typeWords (c : Column) : List (List Char) :=
  (if c.isArray then ["array".toList] else []) ++ (if c.unsigned then ["unsigned".toList] else [])

end Column

/-- The row says just what the column declares: its type, the text of the type with the sizes, and
the length. -/
structure ColumnRow.StatesSizes (flavor : Flavor) (c : Column) (r : ColumnRow) : Prop where
  dataType : r.dataType = c.typeName flavor
  columnType : r.columnType = c.fullType flavor ++ if c.unsigned then " unsigned" else ""
  length : r.characterMaximumLength = c.length.map fun n => (n.toNat : Int)

theorem lengthTypes_of_widthTypes {t : String} (h : ColumnRow.widthTypes.contains t = true) :
    ColumnRow.lengthTypes.contains t = false := by
  have hall : ∀ t ∈ ColumnRow.widthTypes, ColumnRow.lengthTypes.contains t = false := by decide
  exact hall t (List.contains_iff_mem.mp h)

namespace Column

variable {flavor : Flavor} {c : Column}

/-- The types with sizes are types of the dialect without a domain. -/
theorem IsSized.typeName_eq (h : c.IsSized flavor) :
    ∃ t : DialectType, c.typeName flavor = t.spelling ∧
      ColumnRow.memberTypes.contains t.spelling = false := by
  have hall : ∀ name ∈ ColumnRow.widthTypes ++ ColumnRow.lengthTypes, ∃ t ∈ DialectType.all,
      name = t.spelling ∧ ColumnRow.memberTypes.contains t.spelling = false := by decide
  have hmem : c.typeName flavor ∈ ColumnRow.widthTypes ++ ColumnRow.lengthTypes := by
    rw [List.mem_append]
    exact h.imp (fun h => List.contains_iff_mem.mp h.1) fun h => List.contains_iff_mem.mp h.1
  obtain ⟨t, -, ht⟩ := hall _ hmem
  exact ⟨t, ht⟩

/-- One number stands in the type: the length, or else the width. -/
theorem IsSized.sizes?_eq (h : c.IsSized flavor) :
    ∃ k, c.sizes? = some (sizeText k) ∧ (c.length = none → c.displayWidth = some k) := by
  cases hlength : c.length with
  | some n => exact ⟨n, by simp only [sizes?, hlength], fun hnone => absurd hnone (Option.some_ne_none n)⟩
  | none =>
    have hwidth : c.width ≠ none := h.elim (fun h => h.2) fun h => absurd hlength h.2
    obtain ⟨w, hw⟩ := Option.ne_none_iff_exists'.mp hwidth
    have hdisplay : c.displayWidth = some w := by simp only [displayWidth, hw]
    exact ⟨w, by simp only [sizes?, hlength, hdisplay], fun _ => hdisplay⟩

/-- The text of the type as a name, a number in parentheses, and words. -/
theorem toList_fullType {k : UInt32} (h : c.sizes? = some (sizeText k)) :
    (c.fullType flavor ++ if c.unsigned then " unsigned" else "").toList =
      (c.typeName flavor).toList ++ (('(' :: (natText k.toNat ++ [')'])) ++ typeSuffix c.typeWords) := by
  have hsized : (c.typeName flavor ++ "(" ++ sizeText k ++ ")").toList =
      (c.typeName flavor).toList ++ '(' :: (natText k.toNat ++ [')']) := by
    rw [sizeText]
    simp
  rw [fullType, h, typeWords]
  dsimp only
  cases c.isArray <;> cases c.unsigned <;> simp [hsized, typeSuffix]

theorem isTypeWord_of_mem_typeWords : ∀ w ∈ c.typeWords, IsTypeWord w := by
  rw [typeWords]
  cases c.isArray <;> cases c.unsigned <;> decide

/-- The words tell whether the column has a sign. -/
theorem appears_typeWords_iff (a : NumberAttribute) :
    a.Appears [] c.typeWords ↔ a = .unsigned ∧ c.unsigned = true := by
  have hmember : ¬ a.OccursIn [] := fun ⟨_, hm, _⟩ => absurd hm List.not_mem_nil
  rw [NumberAttribute.Appears, or_iff_left hmember, NumberAttribute.StandsIn, typeWords]
  cases a <;> cases c.isArray <;> cases c.unsigned <;> decide

theorem typeSuffix_typeWords_plain :
    IsAscii (typeSuffix c.typeWords) ∧
      (typeSuffix c.typeWords).map Char.toLower = typeSuffix c.typeWords := by
  rw [typeWords]
  cases c.isArray <;> cases c.unsigned <;> decide

end Column

/-! ### What is read -/

namespace ColumnRow.StatesSizes

variable {flavor : Flavor} {c : Column} {r : ColumnRow}

/-- The row is one of a type without a domain. -/
theorem hasType (h : r.StatesSizes flavor c) (hsized : c.IsSized flavor) {t : DialectType}
    (ht : c.typeName flavor = t.spelling) (hm : memberTypes.contains t.spelling = false) :
    r.HasType t [] c.typeWords := by
  obtain ⟨k, hk, -⟩ := hsized.sizes?_eq
  refine ⟨?_, ⟨t.spelling.toList, '(' :: (natText k.toNat ++ [')']), t.spelling_plain.2.1,
    .sizes hm isSizeChar_of_mem_width, ?_⟩, Column.isTypeWord_of_mem_typeWords⟩
  · rw [h.dataType, ht]
    exact t.spelling_plain.2.1
  · rw [h.columnType, Column.toList_fullType hk, ht]

/-- The length is read back if and only if it belongs to the type and does not go without saying. -/
theorem lengthText_iff (h : r.StatesSizes flavor c) (hsized : c.IsSized flavor) :
    ColumnRow.lengthText (c.typeName flavor) r.characterMaximumLength = c.lengthText ↔
      ∀ n, c.length? = some n → ColumnRow.lengthTypes.contains (c.typeName flavor) = true ∧
        (ColumnRow.keptLengthTypes.contains (c.typeName flavor) = true ∨
          (ImpliedSizes.of? (c.typeName flavor)).bind (·.length) ≠ some n) := by
  rw [h.length]
  cases hlength : c.length with
  | some n =>
    have hdeclared : c.length? = some n := by simp only [Column.length?, hlength]
    rw [c.lengthText_eq, hdeclared, Option.map_some, Option.map_some, Option.getD_some,
      lengthText_some_iff]
    simp only [Option.some.injEq, forall_eq']
  | none =>
    have hwidth : widthTypes.contains (c.typeName flavor) = true :=
      hsized.elim (fun h => h.1) fun h => absurd hlength h.2
    have hnot := lengthTypes_of_widthTypes hwidth
    rw [lengthText, if_neg (by rw [hnot]; decide), c.lengthText_eq]
    cases hlength' : c.length? with
    | none => exact iff_of_true rfl fun n hn => absurd hn (Option.some_ne_none n).symm
    | some n =>
      refine iff_of_false (sizeText_ne_empty n).symm fun hall => ?_
      exact Bool.false_ne_true (hnot.symm.trans (hall n rfl).1)

/-- So is the width, unless a length stands in its place. -/
theorem width?_iff (h : r.StatesSizes flavor c) (hsized : c.IsSized flavor)
    (hlength : c.length ≠ none → ColumnRow.lengthTypes.contains (c.typeName flavor) = true) :
    ColumnRow.width? (c.typeName flavor) c.unsigned (toLower r.columnType.toList) = c.displayWidth ↔
      ∀ w, c.displayWidth = some w → ColumnRow.widthTypes.contains (c.typeName flavor) = true ∧
        ColumnRow.impliedWidth? (c.typeName flavor) c.unsigned ≠ some w := by
  obtain ⟨t, ht, -⟩ := hsized.typeName_eq
  obtain ⟨k, hk, hdisplay⟩ := hsized.sizes?_eq
  by_cases hwidth : widthTypes.contains (c.typeName flavor) = true
  · -- No type has both sizes, so the number in parentheses is the width and not a length.
    have hnone : c.length = none := by
      by_contra hne
      exact Bool.false_ne_true ((lengthTypes_of_widthTypes hwidth).symm.trans (hlength hne))
    have hparenthesis := t.spelling_plain.2.2.1
    obtain ⟨hascii, hlower⟩ := c.typeSuffix_typeWords_plain
    rw [h.columnType, Column.toList_fullType hk, ht,
      toLower_typeText t isSizeChar_of_mem_width hascii hlower, ← ht, width?, if_pos hwidth, ht,
      parenthesizedNumber?_append hparenthesis, ← ht, hdisplay hnone, Option.filter_some]
    simp only [Option.some.injEq, forall_eq', and_iff_right hwidth]
    by_cases hi : impliedWidth? (c.typeName flavor) c.unsigned = some k
    · simp [hi]
    · simp [hi, Ne.symm hi]
  · rw [width?, if_neg hwidth]
    cases hdeclared : c.displayWidth with
    | none => exact iff_of_true rfl fun w hw => absurd hw (Option.some_ne_none w).symm
    | some w => exact iff_of_false (Option.some_ne_none w).symm fun hall => hwidth (hall w rfl).1

end ColumnRow.StatesSizes

/-! ### Drift -/

/-- **Declared sizes are read back if and only if they tell something.**  A row that says just what a
column with a size declares is turned into a live column.  It has the length and the width that are
compared with it if they belong to the type and do not go without saying, and then there is never
drift in one of them. -/
theorem Schema.toLive_sizes_iff {flavor : Flavor} {c : Column} {r : ColumnRow}
    (h : r.StatesSizes flavor c) (hsized : c.IsSized flavor) {update : Option (List Char)}
    (hupdate : ColumnRow.updateClause r.extra.toList = .ok update) (unique : List String) :
    ∃ l, r.toLive unique flavor = .ok l ∧
      (l.length = c.lengthText ∧ l.width = c.displayWidth ↔ c.TellsSizes flavor) ∧
      (c.TellsSizes flavor → ∀ (agree : Nullability) (e : Entity),
        drift flavor agree e c l ≠ .ok (some .length) ∧
        drift flavor agree e c l ≠ .ok (some .width)) := by
  obtain ⟨t, ht, hm⟩ := hsized.typeName_eq
  have htype := h.hasType hsized ht hm
  obtain ⟨l, hl, -, hlength, hwidth, hzerofill, hunsigned⟩ :=
    ColumnRow.toLive_ok htype.dataType.toLower_eq hupdate (fun hm' => ⟨[], htype.ofType hm'⟩) unique
      flavor
  have hsign : l.unsigned = c.unsigned := by
    rw [hunsigned, hzerofill, Bool.eq_iff_iff, Bool.or_eq_true, htype.contains_word,
      htype.contains_word, Column.appears_typeWords_iff, Column.appears_typeWords_iff]
    simp
  rw [hsign] at hwidth
  rw [← ht] at hlength hwidth
  have hiff : l.length = c.lengthText ∧ l.width = c.displayWidth ↔ c.TellsSizes flavor := by
    rw [hlength, hwidth, h.lengthText_iff hsized]
    have hbelongs : (∀ n, c.length? = some n →
        ColumnRow.lengthTypes.contains (c.typeName flavor) = true ∧
          (ColumnRow.keptLengthTypes.contains (c.typeName flavor) = true ∨
            (ImpliedSizes.of? (c.typeName flavor)).bind (·.length) ≠ some n)) →
        c.length ≠ none → ColumnRow.lengthTypes.contains (c.typeName flavor) = true := by
      intro hall hne
      obtain ⟨n, hn⟩ := Option.ne_none_iff_exists'.mp hne
      exact (hall n (by simp only [Column.length?, hn])).1
    constructor
    · rintro ⟨hall, hread⟩
      exact ⟨hall, (h.width?_iff hsized (hbelongs hall)).mp hread⟩
    · intro htells
      exact ⟨htells.length, (h.width?_iff hsized (hbelongs htells.length)).mpr htells.width⟩
  refine ⟨l, hl, hiff, fun htells agree e => ?_⟩
  obtain ⟨hsame, hsame'⟩ := hiff.mpr htells
  exact ⟨drift_ne_some fun _ => bne_eq_false_iff_eq.mpr hsame,
    drift_ne_some fun _ => bne_eq_false_iff_eq.mpr hsame'⟩

/-- The width that goes without saying with a sign is told without one. -/
theorem Schema.toLive_sizes_tinyint_four :
    let c : Column := { Column.new "age" (.dialect .tinyint) with width := some 4, unsigned := true }
    let r : ColumnRow :=
      { columnName := "age", dataType := "tinyint", columnType := "tinyint(4) unsigned"
        isNullable := "YES", columnDefault := none, columnKey := "", extra := ""
        characterMaximumLength := none, numericPrecision := some 3, numericScale := some 0
        datetimePrecision := none, columnComment := none, generationExpression := none }
    r.StatesSizes .mysql c ∧ c.IsSized .mysql ∧ c.TellsSizes .mysql ∧
      ∃ l, r.toLive [] .mysql = .ok l ∧ l.length = "" ∧ l.width = some 4 := by
  intro c r
  have hrow : r.StatesSizes .mysql c := ⟨by decide, by decide, rfl⟩
  have hsized : c.IsSized .mysql := .inl ⟨by decide, Option.some_ne_none 4⟩
  have htells : c.TellsSizes .mysql := {
    length := fun n hn => absurd hn (Option.some_ne_none n).symm
    width := by
      intro w hw
      obtain rfl := Option.some.inj hw
      decide }
  have hupdate : ColumnRow.updateClause r.extra.toList = .ok none := rfl
  obtain ⟨l, hl, hiff, -⟩ := toLive_sizes_iff hrow hsized hupdate []
  obtain ⟨hlength, hwidth⟩ := hiff.mpr htells
  exact ⟨hrow, hsized, htells, l, hl, hlength, hwidth⟩

/-- A declared length of one is missed in a row that says just that. -/
theorem Schema.drift_toLive_char_one :
    let c : Column := { Column.new "code" (.dialect .char) with length := some 1 }
    let e : Entity := { Entity.new "t" with columns := [c] }
    let r : ColumnRow :=
      { columnName := "code", dataType := "char", columnType := "char(1)", isNullable := "YES"
        columnDefault := none, columnKey := "", extra := "", characterMaximumLength := some 1
        numericPrecision := none, numericScale := none, datetimePrecision := none
        columnComment := none, generationExpression := none }
    r.StatesSizes .mysql c ∧ c.IsSized .mysql ∧
    ∃ l, r.toLive [] .mysql = .ok l ∧ l.length ≠ c.lengthText ∧
      drift .mysql .strict e c l = .ok (some .length) := by
  intro c e r
  refine ⟨⟨by decide, by decide, rfl⟩, .inr ⟨by decide, Option.some_ne_none 1⟩, ?_⟩
  unfold c e r
  exact ⟨_, rfl, by decide, by decide⟩

end TableMapping
