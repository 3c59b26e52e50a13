import TableMapping.Proofs.Introspection.TypeTexts
import TableMapping.Proofs.Introspection.UpdatePlaces

/-!
# Spellings of types

A live column has the name of its type in lower case, whatever the catalog writes.  A type with
rules is declared in any letter case, and the server's name for it is in lower case, too.  A type
without rules is kept as it was spelled and compared so: with a capital letter in it no live column
has it, and a column of that type drifts for ever.

## Main definitions

* `ColumnType.HasRules` : the spellings of types with rules.
* `ColumnType.KeepsCapital` : the spellings that are never found in lower case.

## Main results

* `ColumnType.ofSpelling_cases` : which type a spelling is taken for.
* `Column.toLower_typeName_eq_self_iff` : the columns whose type is known by a name in lower case.
* `ColumnRow.exists_toLive_iff` : the rows of which there is a live column.
* `Schema.drift_eq_type_iff` : when drift in the type is reported.
* `Schema.drift_toLive_type` : when a column drifts in its type from a row that names it.
-/

namespace TableMapping

open Text (toLower)

/-! ### Types with and without rules -/

theorem ApplicationType.mem_all (t : ApplicationType) : t ∈ all := by
  cases t <;> decide

namespace ColumnType

/-- The spelling is one of the application's own names or a name of a type of the server's dialect
in some letter case. -/
def HasRules (s : String) : Prop :=
  (∃ t : ApplicationType, t.spelling = s) ∨ ∃ t : DialectType, t.Names s.toList

instance (s : String) : Decidable (HasRules s) :=
  decidable_of_iff
    ((∃ t ∈ ApplicationType.all, t.spelling = s) ∨ ∃ t ∈ DialectType.all, t.Names s.toList)
    (or_congr (exists_congr fun t => and_iff_right t.mem_all)
      (exists_congr fun t => and_iff_right t.mem_all))

/-- The spelling has a capital letter that no rule takes away. -/
def KeepsCapital (s : String) : Prop := ¬ HasRules s ∧ ∃ x ∈ s.toList, x.isUpper = true

instance (s : String) : Decidable (KeepsCapital s) :=
  inferInstanceAs (Decidable (¬ HasRules s ∧ ∃ x ∈ s.toList, x.isUpper = true))

/-- A spelling with rules is taken for a type with rules, and any other one for a type that is
called so. -/
theorem ofSpelling_cases (s : String) :
    HasRules s ∧ (ofSpelling s).IsKnown ∨ ¬ HasRules s ∧ ofSpelling s = .other s := by
  rw [ofSpelling]
  cases happlication : ApplicationType.all.find? (·.spelling == s) with
  | some t => exact .inl ⟨.inl ⟨t, by simpa using List.find?_some happlication⟩, trivial⟩
  | none =>
    dsimp only
    generalize hlower : String.ofList (Text.asciiLower s.toList) = lower
    cases hdialect : DialectType.all.find? (·.spelling == lower) with
    | some t =>
      refine .inl ⟨.inr ⟨t, ?_⟩, trivial⟩
      have hspelling : t.spelling = String.ofList (Text.asciiLower s.toList) := by
        simpa [hlower] using List.find?_some hdialect
      rw [DialectType.Names, hspelling, String.toList_ofList]
      rfl
    | none =>
      refine .inr ⟨?_, rfl⟩
      rintro (⟨t, hspelling⟩ | ⟨t, hname⟩)
      · exact List.find?_eq_none.mp happlication t t.mem_all (beq_iff_eq.mpr hspelling)
      · refine List.find?_eq_none.mp hdialect t t.mem_all (beq_iff_eq.mpr ?_)
        rw [← hlower, Text.asciiLower, hname, String.ofList_toList]

end ColumnType

/-- The name under which the server knows a column is its own lower case, unless the column was
declared with a capital letter that no rule takes away. -/
theorem Column.toLower_typeName_eq_self_iff {s : String} (hs : Text.IsAscii s.toList) {c : Column}
    (hc : c.columnType = .ofSpelling s) (flavor : Flavor) :
    toLower (c.typeName flavor).toList = (c.typeName flavor).toList ↔
      ¬ ColumnType.KeepsCapital s := by
  rcases ColumnType.ofSpelling_cases s with ⟨hrules, hknown⟩ | ⟨hrules, hother⟩
  · obtain ⟨t, ht⟩ := hknown.canonical flavor
    rw [typeName, hc, ht, ColumnType.spelling]
    exact iff_of_true t.toLower_spelling fun hkeeps => hkeeps.1 hrules
  · rw [typeName, hc, hother, ColumnType.canonical, ColumnType.spelling, ColumnType.KeepsCapital,
      and_iff_right hrules, Text.toLower_of_isAscii hs]
    nth_rewrite 2 [← List.map_id s.toList]
    rw [List.map_inj_left]
    simp only [not_exists, not_and, Bool.not_eq_true]
    exact forall₂_congr fun x hx => Text.toLower_eq_self_iff (hs x hx)

/-! ### Live columns -/

namespace ColumnRow

variable {r : ColumnRow} {unique : List String} {flavor : Flavor}

/-- There is a live column of a row if its text about updates and its members can be read. -/
theorem exists_toLive_iff :
    (∃ l, r.toLive unique flavor = .ok l) ↔
      UpdateInPlace r.extra.toList ∧ r.HasReadableMembers := by
  rw [hasReadableMembers_iff]
  by_cases hplace : UpdateInPlace r.extra.toList
  · obtain ⟨update, hupdate⟩ := hplace.updateClause_eq_ok
    rcases readsAs_of_updateClause hupdate unique flavor with
      ⟨hmembers, herror⟩ | ⟨hmembers, l, hl, -⟩
    · refine iff_of_false ?_ fun h => h.2 hmembers
      rintro ⟨l, hl⟩
      exact absurd (hl.symm.trans herror) (by simp)
    · exact iff_of_true ⟨l, hl⟩ ⟨hplace, hmembers⟩
  · refine iff_of_false ?_ fun h => hplace h.1
    rintro ⟨l, hl⟩
    have herror := toLive_error (updateClause_eq_error hplace) unique flavor
    exact absurd (hl.symm.trans herror) (by simp)

/-- A live column has the name of its row, and its type in lower case. -/
theorem toLive_name_type {l : LiveColumn} (h : r.toLive unique flavor = .ok l) :
    l.name = r.columnName ∧ l.columnType = String.ofList (toLower r.dataType.toList) := by
  cases hupdate : updateClause r.extra.toList with
  | error failure =>
    simp only [toLive, hupdate] at h
    cases h
  | ok update =>
    simp only [toLive, hupdate] at h
    split at h
    · split at h <;> cases h
      exact ⟨rfl, rfl⟩
    · cases h
      exact ⟨rfl, rfl⟩

end ColumnRow

/-! ### Drift in the type -/

namespace Schema

variable {flavor : Flavor} {agree : Nullability} {e : Entity} {c : Column} {l : LiveColumn}

/-- Drift in the type is reported if the types differ and the names do not, as long as the default
of the column can be written. -/
theorem drift_eq_type_iff :
    drift flavor agree e c l = .ok (some .type) ↔
      l.columnType ≠ c.typeName flavor ∧ l.name = c.databaseName ∧
        ∃ clause, c.defaultClause flavor = .ok clause := by
  rw [drift]
  cases hclause : c.defaultClause flavor with
  | error failure => simp [Except.map]
  | ok clause =>
    have hlater : ∀ {as : List Attribute} {p : Attribute → Bool},
        ¬ ((!p .type) = true ∧ as.find? p = some .type) := by
      rintro as p ⟨hnot, hfind⟩
      rw [List.find?_some hfind] at hnot
      exact absurd hnot (by decide)
    rw [Except.map, Except.ok.injEq, Attribute.all, List.find?_cons_eq_some,
      List.find?_cons_eq_some, or_iff_left hlater]
    simp [differs, and_comm]

/-- **When a column drifts in its type from a row that names it** as the server knows it, in any
letter case.  There is a live column of the row if the text about updates and the members can be
read, and its type differs if and only if the column was declared with a type without rules that has
a capital letter in it.  Then that is the drift that is reported, if the names are the same and the
default can be written. -/
theorem drift_toLive_type {s : String} (hs : Text.IsAscii s.toList)
    (hc : c.columnType = .ofSpelling s) {r : ColumnRow}
    (hr : toLower r.dataType.toList = toLower (c.typeName flavor).toList) (unique : List String) :
    ((∃ l, r.toLive unique flavor = .ok l) ↔
      ColumnRow.UpdateInPlace r.extra.toList ∧ r.HasReadableMembers) ∧
    ∀ l, r.toLive unique flavor = .ok l → ∀ agree e,
      (∀ clause, differs flavor agree e c l clause .type = true ↔ ColumnType.KeepsCapital s) ∧
      (drift flavor agree e c l = .ok (some .type) ↔
        ColumnType.KeepsCapital s ∧ r.columnName = c.databaseName ∧
          ∃ clause, c.defaultClause flavor = .ok clause) := by
  refine ⟨ColumnRow.exists_toLive_iff, fun l hl agree e => ?_⟩
  obtain ⟨hname, htype⟩ := ColumnRow.toLive_name_type hl
  have hdiffers : l.columnType ≠ c.typeName flavor ↔ ColumnType.KeepsCapital s := by
    rw [← not_iff_not, not_not, ← Column.toLower_typeName_eq_self_iff hs hc flavor, htype, hr,
      ← String.toList_inj, String.toList_ofList]
  refine ⟨fun clause => ?_, ?_⟩
  · rw [differs, bne_iff_ne, hdiffers]
  · rw [drift_eq_type_iff, hdiffers, hname]

/-- A type that is declared with capitals and that the server calls otherwise is no drift from the
server's name in capitals. -/
theorem drift_toLive_type_double :
    let c : Column := Column.new "ratio" (.ofSpelling "Double Precision")
    let r : ColumnRow :=
      { columnName := "ratio", dataType := "DOUBLE", columnType := "double", isNullable := "YES"
        columnDefault := none, columnKey := "", extra := "", characterMaximumLength := none
        numericPrecision := some 22, numericScale := none, datetimePrecision := none
        columnComment := none, generationExpression := none }
    ∃ l, r.toLive [] .mariadb = .ok l ∧
      ∀ agree e, drift .mariadb agree e c l ≠ .ok (some .type) := by
  intro c r
  have hascii : Text.IsAscii "Double Precision".toList := by decide
  have hnames : toLower r.dataType.toList = toLower (c.typeName .mariadb).toList := by decide
  obtain ⟨hlive, hdrift⟩ := drift_toLive_type hascii (c := c) rfl hnames []
  obtain ⟨l, hl⟩ := hlive.mpr ⟨ColumnRow.updateInPlace_of_isAscii (by decide), fun h =>
    absurd h (by decide)⟩
  refine ⟨l, hl, fun agree e htype => ?_⟩
  have hkeeps := ((hdrift l hl agree e).2.mp htype).1
  exact absurd hkeeps (by decide)

/-- A type without rules drifts for ever from its own name if it is declared in capitals. -/
theorem drift_toLive_vector :
    let c : Column := Column.new "embedding" (.ofSpelling "VECTOR")
    let e : Entity := { Entity.new "t" with columns := [c] }
    let r : ColumnRow :=
      { columnName := "embedding", dataType := "vector", columnType := "vector(3)"
        isNullable := "YES", columnDefault := none, columnKey := "", extra := ""
        characterMaximumLength := none, numericPrecision := none, numericScale := none
        datetimePrecision := none, columnComment := none, generationExpression := none }
    toLower r.dataType.toList = toLower (c.typeName .mysql).toList ∧
      ∃ l, r.toLive [] .mysql = .ok l ∧ drift .mysql .strict e c l = .ok (some .type) := by
  intro c e r
  refine ⟨by decide, ?_⟩
  unfold c e r
  exact ⟨_, rfl, by decide⟩

end Schema

end TableMapping
