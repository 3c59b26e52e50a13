import TableMapping.Proofs.Introspection.ExtraTexts
import TableMapping.Proofs.Introspection.ReportedDefaults
import TableMapping.Proofs.Introspection.TypeTexts

/-!
# Faithful rows

A catalog row describes a column faithfully if each of its fields says what is declared.  A server
has some freedom in that: a width may be left out or be the implied one, members and parts of a text
may stand in any order, and the current time in any letter case.  There is a faithful row for every
column that has a type with rules and a default that can be written.

## Main definitions

* `Column.length?` : the length of a column as a number.
* `Column.TellsSizes` : the sizes of a column belong to its type and do not go without saying.
* `ColumnRow.Describes` : the rows that describe a column faithfully.
* `Column.catalogRow` : a row that does.

## Main results

* `Column.describes_catalogRow` : every column with a type with rules has a faithful row.
-/

namespace TableMapping

open Text (toLower contains)

/-! ### Sizes -/

/-- The length that a type has unless another one is declared. -/
def ColumnType.length? : ColumnType → Option UInt32
  | .dialect .uuid => some 36
  | .application .string | .dialect .varchar | .dialect .nvarchar | .dialect .nationalVarchar
  | .dialect .varbinary => some 255
  | _ => none

/-- The length of a column, declared or not, if it has any. -/
def Column.length? (c : Column) : Option UInt32 :=
  match c.length with
  | some n => some n
  | none => if c.isPrimary && c.strategy == some .uuid then some 36 else c.columnType.length?

theorem Column.lengthText_eq (c : Column) : c.lengthText = (c.length?.map sizeText).getD "" := by
  have huuid : uuidLength = sizeText 36 := by decide
  have hvariable : variableLength = sizeText 255 := by decide
  cases hlength : c.length with
  | some n => simp only [lengthText, length?, hlength, Option.map_some, Option.getD_some]
  | none =>
    simp only [lengthText, length?, hlength, huuid, hvariable]
    split
    · rfl
    · cases c.columnType with
      | dialect t => cases t <;> rfl
      | application t => cases t <;> rfl
      | other name => rfl

theorem sizeText_ne_empty (n : UInt32) : sizeText n ≠ "" := by
  rw [sizeText, ne_eq, String.ofList_eq_empty_iff]
  exact natText_ne_nil n.toNat

theorem ColumnRow.size?_some (n : UInt32) : ColumnRow.size? (some (n.toNat : Int)) = some n := by
  rw [ColumnRow.size?, Option.bind_some, uint32?_toNat]

/-- A reported length is read back if and only if it belongs to the type and does not go without
saying. -/
theorem ColumnRow.lengthText_some_iff (typeName : String) (n : UInt32) :
    lengthText typeName (some (n.toNat : Int)) = sizeText n ↔
      lengthTypes.contains typeName = true ∧ (keptLengthTypes.contains typeName = true ∨
        (ImpliedSizes.of? typeName).bind (·.length) ≠ some n) := by
  by_cases ht : lengthTypes.contains typeName = true
  · rw [lengthText, if_pos ht, size?_some, and_iff_right ht]
    dsimp only
    split
    case isTrue himplied =>
      simp only [Bool.and_eq_true, Bool.not_eq_true', decide_eq_true_eq] at himplied
      refine iff_of_false (sizeText_ne_empty n).symm ?_
      rintro (hkept | hne)
      · exact Bool.false_ne_true (himplied.2.symm.trans hkept)
      · exact hne himplied.1
    case isFalse himplied =>
      simp only [Bool.and_eq_true, Bool.not_eq_true', decide_eq_true_eq] at himplied
      refine iff_of_true rfl ?_
      by_cases hkept : keptLengthTypes.contains typeName = true
      · exact .inl hkept
      · exact .inr fun hn => himplied ⟨hn, by simpa using hkept⟩
  · rw [lengthText, if_neg ht]
    exact iff_of_false (sizeText_ne_empty n).symm fun h => ht h.1

/-- The length and the width of the column, declared or not, belong to its type and are not left out
as the implied ones. -/
structure Column.TellsSizes (flavor : Flavor) (c : Column) : Prop where
  length : ∀ n, c.length? = some n → ColumnRow.lengthTypes.contains (c.typeName flavor) = true ∧
    (ColumnRow.keptLengthTypes.contains (c.typeName flavor) = true ∨
      (ImpliedSizes.of? (c.typeName flavor)).bind (·.length) ≠ some n)
  width : ∀ w, c.displayWidth = some w → ColumnRow.widthTypes.contains (c.typeName flavor) = true ∧
    ColumnRow.impliedWidth? (c.typeName flavor) c.unsigned ≠ some w

/-! ### Faithful rows -/

/-- A row describes a column faithfully.  Its type is one with rules, its sizes are the declared ones
or those that the type implies, and it reports what else is declared in the ways of the flavor. -/
structure ColumnRow.Describes (flavor : Flavor) (c : Column) (r : ColumnRow) : Prop where
  name : r.columnName = c.databaseName
  dataType : r.dataType = c.typeName flavor
  columnType : ∃ body, c.ReportsType flavor r.columnType.toList body
  length : ColumnRow.lengthTypes.contains (c.typeName flavor) = true → r.characterMaximumLength =
    (c.length?.or ((ImpliedSizes.of? (c.typeName flavor)).bind (·.length))).map
      fun n => (n.toNat : Int)
  precision : ∀ n, c.precision = some n →
    (if ColumnRow.temporalTypes.contains (c.typeName flavor) then r.datetimePrecision
      else r.numericPrecision) = some (n.toNat : Int)
  scale : ∀ n, c.scale = some n → r.numericScale = some (n.toNat : Int)
  nullable : r.isNullable = if c.isNullable then "YES" else "NO"
  primary : r.columnKey = "PRI" ↔ c.isPrimary = true
  extra : ∃ parts, c.ReportsExtra r.extra.toList parts
  comment : (r.columnComment.getD "").toList = (storedComment? c.comment).getD []
  expression : ColumnRow.nonempty? r.generationExpression = ColumnRow.nonempty? c.expression
  default : ∃ clause, c.defaultClause flavor = .ok clause ∧
    ReportsDefault flavor clause r.columnDefault

/-! ### A faithful row for a column -/

namespace Column

/-- The parts of the text about what else is declared. -/
def extraParts (c : Column) : List ExtraPart :=
  (if c.isGenerated && c.strategy == some .increment then [.autoIncrement] else []) ++
    ((c.onUpdate.filter fun declared => Timestamp.named declared.toList).map fun declared =>
      ExtraPart.onUpdate
        (Timestamp.keyword ++ (Timestamp.precision? declared.toList).getD [])).toList ++
    (if (ColumnRow.nonempty? c.expression).isSome then [.generated (c.storage == some "VIRTUAL")]
      else [])

/-- What stands between the name of a type and the words for the attributes. -/
def typeBody (flavor : Flavor) (c : Column) : List Char :=
  if ColumnRow.memberTypes.contains (c.typeName flavor) then MemberList.write c.memberTexts
  else if ColumnRow.widthTypes.contains (c.typeName flavor) then
    match c.displayWidth with
    | some w => '(' :: (natText w.toNat ++ [')'])
    | none => []
  else []

/-- A row that says what is declared, in the plainest way. -/
def catalogRow (flavor : Flavor) (c : Column) : ColumnRow where
  columnName := c.databaseName
  dataType := c.typeName flavor
  columnType := String.ofList ((c.typeName flavor).toList ++
    (c.typeBody flavor ++ attributeText c.unsigned c.zerofill))
  isNullable := if c.isNullable then "YES" else "NO"
  columnDefault := (c.defaultClause flavor).toOption.join.map fun clause =>
    String.ofList (literalText flavor clause)
  columnKey := if c.isPrimary then "PRI" else ""
  extra := String.ofList (Text.joinWith [' '] (c.extraParts.map ExtraPart.text))
  characterMaximumLength :=
    (c.length?.or ((ImpliedSizes.of? (c.typeName flavor)).bind (·.length))).map
      fun n => (n.toNat : Int)
  numericPrecision := c.precision.map fun n => (n.toNat : Int)
  numericScale := c.scale.map fun n => (n.toNat : Int)
  datetimePrecision := c.precision.map fun n => (n.toNat : Int)
  columnComment := (storedComment? c.comment).map String.ofList
  generationExpression := c.expression

end Column

/-- The current time with the declared precision says what is declared about updates. -/
theorem reportsUpdate_keyword_append {declared : String}
    (h : Timestamp.named declared.toList = true) :
    ReportsUpdate declared
      (Timestamp.keyword ++ (Timestamp.precision? declared.toList).getD []) := by
  have hkeyword : Timestamp.keyword.map Char.toUpper = Timestamp.keyword := by decide
  cases hprecision : Timestamp.precision? declared.toList with
  | none => exact ⟨h, [], .inl rfl, by rw [List.map_append, hkeyword]; rfl, hprecision.symm⟩
  | some p =>
    obtain ⟨hsuffix, hself⟩ := Timestamp.isSuffix_of_precision? hprecision
    refine ⟨h, p, hsuffix, ?_, hself.trans hprecision.symm⟩
    rw [Option.getD_some, List.map_append, hkeyword, hsuffix.map_toUpper]

namespace Column

variable {c : Column}

/-- The parts of the text, each with what is declared. -/
theorem mem_extraParts {p : ExtraPart} :
    p ∈ c.extraParts ↔
      (c.isGenerated = true ∧ c.strategy = some .increment) ∧ p = .autoIncrement ∨
      (∃ declared, (c.onUpdate = some declared ∧ Timestamp.named declared.toList = true) ∧
        .onUpdate (Timestamp.keyword ++ (Timestamp.precision? declared.toList).getD []) = p) ∨
      (ColumnRow.nonempty? c.expression).isSome = true ∧
        p = .generated (c.storage == some "VIRTUAL") := by
  rw [extraParts, List.mem_append, List.mem_append, or_assoc]
  refine or_congr ?_ (or_congr ?_ ?_)
  · rw [List.mem_ite_nil_right, Bool.and_eq_true, beq_iff_eq, List.mem_singleton]
  · rw [Option.mem_toList, Option.map_eq_some_iff]
    simp only [Option.filter_eq_some_iff]
  · rw [List.mem_ite_nil_right, List.mem_singleton]

theorem reportsExtra_extraParts :
    c.ReportsExtra (Text.joinWith [' '] (c.extraParts.map ExtraPart.text)) c.extraParts where
  written := rfl
  shown := by
    intro p hp
    rcases mem_extraParts.mp hp with ⟨hcounts, rfl⟩ | ⟨declared, hdeclared, rfl⟩ | ⟨hcomputed, rfl⟩
    · exact hcounts
    · exact ⟨declared, hdeclared.1, reportsUpdate_keyword_append hdeclared.2⟩
    · refine ⟨hcomputed, fun b hb => ?_⟩
      rw [hb]
      cases b <;> decide
  counted := by
    intro hgenerated hstrategy
    exact mem_extraParts.mpr (.inl ⟨⟨hgenerated, hstrategy⟩, rfl⟩)
  updated := by
    intro declared hdeclared hnamed
    exact ⟨_, mem_extraParts.mpr (.inr (.inl ⟨declared, ⟨hdeclared, hnamed⟩, rfl⟩))⟩
  computed := by
    intro hexpression
    exact ⟨_, mem_extraParts.mpr (.inr (.inr ⟨hexpression, rfl⟩))⟩
  once := by
    rw [extraParts, List.filterMap_append, List.filterMap_append]
    have hcounted : ∀ b, (if b = true then [ExtraPart.autoIncrement] else []).filterMap
        ExtraPart.update? = [] := by
      intro b
      cases b <;> rfl
    have hcomputed : ∀ b anew, (if b = true then [ExtraPart.generated anew] else []).filterMap
        ExtraPart.update? = [] := by
      intro b anew
      cases b <;> rfl
    rw [hcounted, hcomputed, List.nil_append, List.append_nil]
    refine (List.length_filterMap_le _ _).trans ?_
    rw [Option.length_toList]
    split <;> decide

end Column

theorem Column.typeBody_typeBody (flavor : Flavor) (c : Column) :
    c.TypeBody flavor (c.typeBody flavor) := by
  rw [typeBody]
  by_cases hm : ColumnRow.memberTypes.contains (c.typeName flavor) = true
  · rw [if_pos hm]
    exact .members hm (List.Perm.refl _)
  · rw [if_neg hm]
    by_cases ht : ColumnRow.widthTypes.contains (c.typeName flavor) = true
    · rw [if_pos ht]
      cases hw : c.displayWidth with
      | none => exact .bare ht hw
      | some w => exact .width ht hw
    · rw [if_neg ht]
      exact .sizes (by simpa using ht) (by simpa using hm) fun x hx => absurd hx List.not_mem_nil

/-- **Every column has a faithful row.**  The type has rules and the default can be written. -/
theorem Column.describes_catalogRow {flavor : Flavor} {c : Column} (hknown : c.columnType.IsKnown)
    {clause : Option (List Char)} (hclause : c.defaultClause flavor = .ok clause) :
    (c.catalogRow flavor).Describes flavor c where
  name := rfl
  dataType := rfl
  columnType := ⟨c.typeBody flavor, hknown, String.toList_ofList, c.typeBody_typeBody flavor⟩
  length := fun _ => rfl
  precision := by
    intro n hn
    simp only [catalogRow, hn, Option.map_some, ite_self]
  scale := by
    intro n hn
    simp only [catalogRow, hn, Option.map_some]
  nullable := rfl
  primary := by
    cases hprimary : c.isPrimary <;> simp [catalogRow, hprimary]
  extra := by
    refine ⟨c.extraParts, ?_⟩
    rw [catalogRow, String.toList_ofList]
    exact reportsExtra_extraParts
  comment := by
    cases hstored : storedComment? c.comment <;> simp [catalogRow, hstored]
  expression := rfl
  default := by
    refine ⟨clause, hclause, ?_⟩
    cases clause with
    | none =>
      rw [catalogRow, hclause]
      exact .absent
    | some k =>
      rw [catalogRow, hclause]
      exact .literal String.toList_ofList

end TableMapping
