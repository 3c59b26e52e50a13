import TableMapping.Proofs.Introspection.FaithfulRows
import TableMapping.Proofs.Introspection.Uniqueness
import TableMapping.Proofs.Schema.Comments
import TableMapping.Proofs.Schema.Exactness

/-!
# Convergent definitions

The live column of a faithful row is compared with the declared column attribute by attribute, and
there is no drift if and only if the definition is one that the comparison can tell from a report at
all: the sizes belong to the type and are not those that go without saying, numbers filled with zeros
are declared without a sign, what is computed is declared with the way it is stored, and so on.

## Main definitions

* `Column.Convergent` : the definitions that come back from the catalog as they were declared.

## Main results

* `Schema.drift_toLive_eq_none_iff` : a faithful row shows no drift if and only if the definition is
  convergent.
-/

namespace TableMapping

open Text (toLower contains)

/-- The definition of a column comes back from the catalog as it was declared: its sizes belong to
its type and are not left out as the implied ones, it has no sign if it is filled with zeros, its
expression stands beside the way it is stored, its default is comparable, updates set the current
time if anything, and what is generated has a strategy. -/
structure Column.Convergent (flavor : Flavor) (c : Column) : Prop extends c.TellsSizes flavor where
  unsigned : c.zerofill = true → c.unsigned = true
  computed : c.expression = none ∧ c.storage = none ∨
    ∃ x anew, c.expression = some x ∧ x ≠ "" ∧ c.storage = some (storageText anew)
  precision : c.precision ≠ none → ColumnRow.temporalTypes.contains (c.typeName flavor) = true ∨
    ColumnRow.precisionTypes.contains (c.typeName flavor) = true
  scale : c.scale ≠ none → ColumnRow.precisionTypes.contains (c.typeName flavor) = true
  default : ∀ clause, c.defaultClause flavor = .ok (some clause) → ComparableDefault flavor clause
  updated : ∀ declared, c.onUpdate = some declared → Timestamp.named declared.toList = true
  generated : c.isGenerated = true → c.strategy ≠ none

/-! ### Attribute by attribute -/

namespace ColumnRow.Describes

variable {flavor : Flavor} {c : Column} {r : ColumnRow}

theorem typeName_eq (h : r.Describes flavor c) :
    ∃ t : DialectType, c.typeName flavor = t.spelling := by
  obtain ⟨body, hbody⟩ := h.columnType
  exact hbody.typeName_eq

/-- The type is read in lower case, in which it is written. -/
theorem toLower_dataType (h : r.Describes flavor c) :
    String.ofList (toLower r.dataType.toList) = c.typeName flavor := by
  obtain ⟨t, ht⟩ := h.typeName_eq
  rw [h.dataType, ht, t.toLower_spelling, String.ofList_toList]

end ColumnRow.Describes

/-- The types whose implied length is reported have a length in every declaration. -/
theorem Column.length?_ne_none {flavor : Flavor} {c : Column} (hknown : c.columnType.IsKnown)
    (h : ColumnRow.keptLengthTypes.contains (c.typeName flavor) = true) : c.length? ≠ none := by
  have hall : ∀ d ∈ DialectType.all, ∀ f ∈ Flavor.all, (ColumnType.dialect d).length? = none →
      ColumnRow.keptLengthTypes.contains ((ColumnType.dialect d).canonical f).spelling = false := by
    decide
  have hall' : ∀ a ∈ ApplicationType.all, ∀ f ∈ Flavor.all,
      (ColumnType.application a).length? = none →
      ColumnRow.keptLengthTypes.contains ((ColumnType.application a).canonical f).spelling = false := by
    decide
  have hflavor : flavor ∈ Flavor.all := by cases flavor <;> decide
  intro hnone
  have hnone' : c.columnType.length? = none := by
    rw [length?] at hnone
    split at hnone
    · exact absurd hnone (Option.some_ne_none _)
    · split at hnone
      · exact absurd hnone (Option.some_ne_none _)
      · exact hnone
  rw [typeName] at h
  cases htype : c.columnType with
  | dialect d =>
    rw [htype] at h hnone'
    exact Bool.false_ne_true ((hall d d.mem_all flavor hflavor hnone').symm.trans h)
  | application a =>
    rw [htype] at h hnone'
    have ha : a ∈ ApplicationType.all := by cases a <;> decide
    exact Bool.false_ne_true ((hall' a ha flavor hflavor hnone').symm.trans h)
  | other name =>
    rw [htype] at hknown
    exact hknown.elim

/-- Every type with a length has an implied one. -/
theorem implied_length_isSome {t : String} (h : ColumnRow.lengthTypes.contains t = true) :
    ∃ n, (ImpliedSizes.of? t).bind (·.length) = some n := by
  have hall : ∀ t ∈ ColumnRow.lengthTypes,
      ((ImpliedSizes.of? t).bind (·.length)).isSome = true := by decide
  exact Option.isSome_iff_exists.mp (hall t (List.contains_iff_mem.mp h))

/-- The implied length goes without saying. -/
theorem ColumnRow.lengthText_implied {typeName : String} {n : UInt32}
    (ht : lengthTypes.contains typeName = true) (hkept : keptLengthTypes.contains typeName = false)
    (hn : (ImpliedSizes.of? typeName).bind (·.length) = some n) :
    lengthText typeName (some (n.toNat : Int)) = "" := by
  have himplied : ((ImpliedSizes.of? typeName).bind (·.length) = some n &&
      !keptLengthTypes.contains typeName) = true := by
    rw [hn, hkept]
    simp
  rw [lengthText, if_pos ht, size?_some]
  exact if_pos himplied

namespace ColumnRow.Describes

variable {flavor : Flavor} {c : Column} {r : ColumnRow}

/-- The length is read back if and only if it belongs to the type and does not go without saying. -/
theorem lengthText_iff (h : r.Describes flavor c) :
    ColumnRow.lengthText (c.typeName flavor) r.characterMaximumLength = c.lengthText ↔
      ∀ n, c.length? = some n → ColumnRow.lengthTypes.contains (c.typeName flavor) = true ∧
        (ColumnRow.keptLengthTypes.contains (c.typeName flavor) = true ∨
          (ImpliedSizes.of? (c.typeName flavor)).bind (·.length) ≠ some n) := by
  obtain ⟨body, hbody⟩ := h.columnType
  rw [c.lengthText_eq]
  cases hlength : c.length? with
  | some n =>
    simp only [Option.map_some, Option.getD_some, Option.some.injEq, forall_eq']
    by_cases ht : lengthTypes.contains (c.typeName flavor) = true
    · rw [h.length ht, hlength, Option.some_or, Option.map_some, lengthText_some_iff]
    · rw [lengthText, if_neg ht]
      exact iff_of_false (sizeText_ne_empty n).symm fun hall => ht hall.1
  | none =>
    refine iff_of_true ?_ fun n hn => absurd hn (Option.some_ne_none n).symm
    by_cases ht : lengthTypes.contains (c.typeName flavor) = true
    · obtain ⟨n, hn⟩ := implied_length_isSome ht
      have hkept : keptLengthTypes.contains (c.typeName flavor) = false := by
        by_contra hkept
        exact Column.length?_ne_none hbody.known (by simpa using hkept) hlength
      rw [h.length ht, hlength, hn]
      exact lengthText_implied ht hkept hn
    · rw [lengthText, if_neg ht]
      rfl

/-- The number of digits is read back if it belongs to the type. -/
theorem precision_iff (h : r.Describes flavor c) :
    (c.precision.isSome &&
      (if temporalTypes.contains (c.typeName flavor) then size? r.datetimePrecision
        else if precisionTypes.contains (c.typeName flavor) then size? r.numericPrecision
        else none) != c.precision) = false ↔
      (c.precision ≠ none → temporalTypes.contains (c.typeName flavor) = true ∨
        precisionTypes.contains (c.typeName flavor) = true) := by
  cases hprecision : c.precision with
  | none => simp
  | some n =>
    have hreported := h.precision n hprecision
    rw [Option.isSome_some, Bool.true_and, bne_eq_false_iff_eq]
    split at hreported
    case isTrue ht =>
      rw [if_pos ht, hreported, size?_some]
      exact iff_of_true rfl fun _ => .inl ht
    case isFalse ht =>
      rw [if_neg ht]
      by_cases hp : precisionTypes.contains (c.typeName flavor) = true
      · rw [if_pos hp, hreported, size?_some]
        exact iff_of_true rfl fun _ => .inr hp
      · rw [if_neg hp]
        refine iff_of_false (Option.some_ne_none n).symm fun hall => ?_
        rcases hall (Option.some_ne_none n) with ht' | hp'
        · exact ht ht'
        · exact hp hp'

theorem scale_iff (h : r.Describes flavor c) :
    (c.scale.isSome &&
      (if precisionTypes.contains (c.typeName flavor) then size? r.numericScale else none) !=
        c.scale) = false ↔
      (c.scale ≠ none → precisionTypes.contains (c.typeName flavor) = true) := by
  cases hscale : c.scale with
  | none => simp
  | some n =>
    rw [Option.isSome_some, Bool.true_and, bne_eq_false_iff_eq]
    by_cases hp : precisionTypes.contains (c.typeName flavor) = true
    · rw [if_pos hp, h.scale n hscale, size?_some]
      exact iff_of_true rfl fun _ => hp
    · rw [if_neg hp]
      exact iff_of_false (Option.some_ne_none n).symm fun hall => hp (hall (Option.some_ne_none n))

/-- The comment is read back, if something is left of it without null characters. -/
theorem storedComment?_eq (h : r.Describes flavor c) (hcomment : storedComment? c.comment ≠ some []) :
    storedComment? (nonempty? r.columnComment) = storedComment? c.comment := by
  have hreported := h.comment
  rw [storedComment?_nonempty?]
  cases hstored : storedComment? c.comment with
  | none =>
    rw [hstored] at hreported
    cases hrow : r.columnComment with
    | none => rfl
    | some x =>
      rw [hrow] at hreported
      change x.toList = [] at hreported
      rw [storedComment?, hreported]
      rfl
  | some s =>
    rw [hstored] at hreported
    have hs : s ≠ [] := fun hnil => hcomment (by rw [hstored, hnil])
    cases hrow : r.columnComment with
    | none =>
      rw [hrow] at hreported
      exact absurd hreported.symm hs
    | some x =>
      rw [hrow] at hreported
      change x.toList = s at hreported
      rw [storedComment?, hreported, if_neg (by simpa using hs), storedComment?_filter hstored]

/-- The expression and the way it is stored are read back if they are declared together. -/
theorem computed_iff (h : r.Describes flavor c) :
    (nonempty? r.generationExpression = c.expression ∧
      (nonempty? r.generationExpression).map (fun _ => storageOf r.extra.toList) = c.storage) ↔
      (c.expression = none ∧ c.storage = none ∨
        ∃ x anew, c.expression = some x ∧ x ≠ "" ∧ c.storage = some (storageText anew)) := by
  obtain ⟨parts, hextra⟩ := h.extra
  rw [h.expression]
  cases hexpression : c.expression with
  | none => simp [nonempty?, eq_comm]
  | some x =>
    by_cases hx : x = ""
    · subst hx
      simp [nonempty?, Option.filter_some]
    · have hnonempty : nonempty? (some x) = some x := by simp [nonempty?, Option.filter_some, hx]
      have hstored : ∃ anew, storageOf r.extra.toList = storageText anew := ⟨_, rfl⟩
      rw [hnonempty, and_iff_right rfl, Option.map_some]
      constructor
      · intro hstorage
        obtain ⟨anew, hanew⟩ := hstored
        exact .inr ⟨x, anew, rfl, hx, by rw [← hstorage, hanew]⟩
      · rintro (⟨hnone, -⟩ | ⟨_, anew, -, -, hstorage⟩)
        · exact absurd hnone (Option.some_ne_none x)
        · rw [hstorage, hextra.storageOf hstorage (by rw [hexpression, hnonempty]; rfl)]

/-- The members are read back in some order, and the domains are the same. -/
theorem sameMembers (h : r.Describes flavor c) :
    ∃ members : Option (List String), Schema.sameMembers members c.members = true ∧
      (memberTypes.contains (c.typeName flavor) = true ∧
          (∃ ms, MemberList.ofType r.columnType.toList = some ms ∧
            members = some (ms.map String.ofList)) ∨
        ¬ memberTypes.contains (c.typeName flavor) = true ∧ members = none) := by
  obtain ⟨body, hbody⟩ := h.columnType
  by_cases ht : memberTypes.contains (c.typeName flavor) = true
  · obtain ⟨ms, hms, hperm⟩ := hbody.ofType ht
    refine ⟨some (ms.map String.ofList), ?_, .inl ⟨ht, ms, hms, rfl⟩⟩
    cases hmembers : c.members with
    | none => rfl
    | some ds =>
      have hspellings : (ms.map String.ofList).Perm (ds.map EnumMember.spelling) := by
        have hmap := hperm.map String.ofList
        rw [Column.memberTexts, hmembers, Option.getD_some, List.map_map] at hmap
        refine hmap.trans (List.Perm.of_eq (List.map_congr_left fun m _ => ?_))
        exact String.ofList_toList
      rw [Schema.sameMembers, Bool.and_eq_true, beq_iff_eq, List.all_eq_true]
      refine ⟨by rw [hspellings.length_eq, List.length_map], fun m hm => ?_⟩
      rw [List.contains_iff_mem, hspellings.mem_iff]
      exact List.mem_map_of_mem hm
  · exact ⟨none, rfl, .inr ⟨ht, rfl⟩⟩

/-- Whether the server counts is read back if what is generated has a strategy. -/
theorem isGenerated_iff (h : r.Describes flavor c) :
    (c.strategy != some .uuid && contains "auto_increment".toList r.extra.toList != c.isGenerated)
        = false ↔
      (c.isGenerated = true → c.strategy ≠ none) := by
  obtain ⟨parts, hextra⟩ := h.extra
  have hcontains := hextra.contains_autoIncrement
  have hgenerated : contains "auto_increment".toList r.extra.toList =
      (c.isGenerated && c.strategy == some .increment) := by
    rw [Bool.eq_iff_iff, hcontains, Bool.and_eq_true, beq_iff_eq]
  rw [hgenerated]
  cases c.isGenerated with
  | false => simp
  | true =>
    cases c.strategy with
    | none => simp
    | some s => cases s <;> simp

/-- A faithful row is turned into a live column, attribute by attribute. -/
theorem toLive_eq (h : r.Describes flavor c) (hplain : c.PlainMembers flavor) (unique : List String) :
    ∃ (update : Option (List Char)) (members : Option (List String)),
      (Schema.updateClause? flavor (update.map String.ofList) =
          Schema.updateClause? flavor c.onUpdate ↔
        ∀ declared, c.onUpdate = some declared → Timestamp.named declared.toList = true) ∧
      Schema.sameMembers members c.members = true ∧
      r.toLive unique flavor = .ok {
        name := c.databaseName
        columnType := c.typeName flavor
        length := ColumnRow.lengthText (c.typeName flavor) r.characterMaximumLength
        width := width? (c.typeName flavor) (c.zerofill || c.unsigned) (toLower r.columnType.toList)
        precision :=
          if temporalTypes.contains (c.typeName flavor) then size? r.datetimePrecision
          else if precisionTypes.contains (c.typeName flavor) then size? r.numericPrecision
          else none
        scale := if precisionTypes.contains (c.typeName flavor) then size? r.numericScale else none
        isNullable := c.isNullable
        isPrimary := c.isPrimary
        isUnique := unique.contains c.databaseName
        isGenerated := contains "auto_increment".toList r.extra.toList
        default := liveDefault? flavor r.columnDefault
        members := members
        comment := nonempty? r.columnComment
        onUpdate := update.map String.ofList
        zerofill := c.zerofill
        unsigned := c.zerofill || c.unsigned
        expression := nonempty? r.generationExpression
        storage := (nonempty? r.generationExpression).map fun _ => storageOf r.extra.toList } := by
  obtain ⟨body, hbody⟩ := h.columnType
  obtain ⟨parts, hextra⟩ := h.extra
  obtain ⟨update, hupdate, hsame⟩ := hextra.updateClause flavor
  obtain ⟨members, hsameMembers, hmembers⟩ := h.sameMembers
  refine ⟨update, members, hsame, hsameMembers, ?_⟩
  have hnullable : (r.isNullable == "YES") = c.isNullable := by
    rw [h.nullable]
    cases c.isNullable <;> decide
  have hprimary : (r.columnKey == "PRI") = c.isPrimary := by
    rw [Bool.eq_iff_iff, beq_iff_eq, h.primary]
  simp only [toLive, h.toLower_dataType, hbody.contains_zerofill hplain,
    hbody.contains_unsigned hplain, hupdate, h.name, hnullable, hprimary]
  rcases hmembers with ⟨ht, ms, hms, rfl⟩ | ⟨ht, rfl⟩
  · simp only [if_pos ht, hms]
    rfl
  · simp only [if_neg ht]
    rfl

end ColumnRow.Describes

/-! ### Drift -/

/-- **Faithful rows converge.**  A catalog row that describes a column faithfully is turned into a
live column, and with the indices of the table in the catalog there is no drift if and only if the
definition of the column is convergent; whenever no member has a word for an attribute of numbers in
it and no comment consists of null characters. -/
theorem Schema.drift_toLive_eq_none_iff {flavor : Flavor} {e : Entity} {c : Column} {r : ColumnRow}
    {rows : List IndexRow} (hrow : r.Describes flavor c) (hrows : e.ListedBy rows)
    (hplain : c.PlainMembers flavor) (hcomment : storedComment? c.comment ≠ some [])
    {agree : Nullability} (hagree : ∀ l, c.isNullable = l.isNullable → agree c l = true) :
    ∃ l, r.toLive (IndexRow.uniqueColumns rows) flavor = .ok l ∧
      (drift flavor agree e c l = .ok none ↔ c.Convergent flavor) := by
  obtain ⟨update, members, hupdate, hmembers, hlive⟩ :=
    hrow.toLive_eq hplain (IndexRow.uniqueColumns rows)
  obtain ⟨clause, hclause, hreports⟩ := hrow.default
  obtain ⟨body, hbody⟩ := hrow.columnType
  have hunsigned : (c.zerofill || c.unsigned) = c.unsigned ↔
      (c.zerofill = true → c.unsigned = true) := by
    cases c.zerofill <;> cases c.unsigned <;> decide
  have hdefault := sameDefault_liveDefault?_iff hreports
  refine ⟨_, hlive, ?_⟩
  rw [drift_eq_none_iff hclause]
  constructor
  · intro hall
    have hsign : (c.zerofill || c.unsigned) = c.unsigned :=
      bne_eq_false_iff_eq.mp (hall .unsigned)
    have hwidth := bne_eq_false_iff_eq.mp (hall .width)
    simp only [hsign] at hwidth
    have hcomputed := hrow.computed_iff.mp
      ⟨bne_eq_false_iff_eq.mp (hall .expression), bne_eq_false_iff_eq.mp (hall .storage)⟩
    have hsame := hdefault.mp (by simpa only [differs, Bool.not_eq_eq_eq_not, Bool.not_false] using hall .default)
    exact {
      length := hrow.lengthText_iff.mp (bne_eq_false_iff_eq.mp (hall .length))
      width := hbody.width?.mp hwidth
      unsigned := hunsigned.mp hsign
      computed := hcomputed
      precision := hrow.precision_iff.mp (hall .precision)
      scale := hrow.scale_iff.mp (hall .scale)
      default := fun k hk => hsame k (Except.ok.inj (hclause.symm.trans hk))
      updated := hupdate.mp (bne_eq_false_iff_eq.mp (hall .onUpdate))
      generated := hrow.isGenerated_iff.mp (hall .generated) }
  · intro hconvergent a
    have hsign := hunsigned.mpr hconvergent.unsigned
    have hcomputed := hrow.computed_iff.mpr hconvergent.computed
    cases a with
    | name | type | zerofill | primary => exact bne_self_eq_false _
    | length => exact bne_eq_false_iff_eq.mpr (hrow.lengthText_iff.mpr hconvergent.length)
    | width =>
      rw [differs, bne_eq_false_iff_eq]
      simp only [hsign]
      exact hbody.width?.mpr hconvergent.width
    | unsigned => exact bne_eq_false_iff_eq.mpr hsign
    | expression => exact bne_eq_false_iff_eq.mpr hcomputed.1
    | storage => exact bne_eq_false_iff_eq.mpr hcomputed.2
    | precision => exact hrow.precision_iff.mpr hconvergent.precision
    | scale => exact hrow.scale_iff.mpr hconvergent.scale
    | comment => exact bne_eq_false_iff_eq.mpr (hrow.storedComment?_eq hcomment)
    | default =>
      have hsame := hdefault.mpr fun k hk => hconvergent.default k (hclause.trans (congrArg _ hk))
      exact congrArg not hsame
    | members => exact congrArg not hmembers
    | onUpdate => exact bne_eq_false_iff_eq.mpr (hupdate.mpr hconvergent.updated)
    | nullable => exact congrArg not (hagree _ rfl)
    | unique => exact bne_eq_false_iff_eq.mpr (IndexRow.contains_uniqueColumns hrows c)
    | generated => exact hrow.isGenerated_iff.mpr hconvergent.generated

/-- A point in time that updates set anew, and of which an index makes a key, comes back as it was
declared. -/
theorem Schema.drift_toLive_updatedAt :
    let c : Column :=
      { Column.new "at" (.dialect .datetime) with
        precision := some 3
        default := some (.computed "now(3)")
        onUpdate := some "now(3)" }
    let e : Entity := { Entity.new "log" with columns := [c], indices := [⟨"uq", ["at"], true⟩] }
    let r : ColumnRow :=
      { columnName := "at", dataType := "datetime", columnType := "datetime", isNullable := "YES"
        columnDefault := some "CURRENT_TIMESTAMP(3)", columnKey := ""
        extra := "on update CURRENT_TIMESTAMP(3)", characterMaximumLength := none
        numericPrecision := some 3, numericScale := none, datetimePrecision := some 3
        columnComment := none, generationExpression := none }
    let rows : List IndexRow := [⟨"uq", some "at", false⟩]
    (r.Describes .mysql c ∧ e.ListedBy rows ∧ c.PlainMembers .mysql ∧
      storedComment? c.comment ≠ some [] ∧
      ∀ l : LiveColumn, c.isNullable = l.isNullable → Nullability.strict c l = true) ∧
    ∃ l, r.toLive (IndexRow.uniqueColumns rows) .mysql = .ok l ∧
      drift .mysql .strict e c l = .ok none := by
  intro c e r rows
  have hclause : c.defaultClause .mysql = .ok (some (Timestamp.keyword ++ "(3)".toList)) := by
    unfold c
    rfl
  have hsuffix : Timestamp.IsSuffix "(3)".toList := .inr ⟨['3'], rfl, by decide⟩
  have heq : c.catalogRow .mysql = r := by
    unfold c r
    rfl
  have hrow : r.Describes .mysql c := heq ▸ Column.describes_catalogRow trivial hclause
  have hrows : e.ListedBy rows := ⟨by decide, by decide, [], by decide, List.Perm.refl _⟩
  have hplain : c.PlainMembers .mysql := by
    intro hmembers
    exact absurd hmembers (by decide)
  have hcomment : storedComment? c.comment ≠ some [] := by decide
  have hagree : ∀ l : LiveColumn, c.isNullable = l.isNullable → Nullability.strict c l = true :=
    fun l hl => beq_iff_eq.mpr hl
  have hconvergent : c.Convergent .mysql := {
    length := fun n hn => absurd hn (Option.some_ne_none n).symm
    width := fun w hw => absurd hw (Option.some_ne_none w).symm
    unsigned := by decide
    computed := .inl ⟨rfl, rfl⟩
    precision := by decide
    scale := by decide
    default := by
      intro clause hk
      obtain rfl := Option.some.inj (Except.ok.inj (hclause.symm.trans hk))
      exact comparableDefault_keyword_append .mysql hsuffix
    updated := by
      intro declared hdeclared
      obtain rfl := Option.some.inj hdeclared
      decide
    generated := by decide }
  obtain ⟨l, hlive, hdrift⟩ := drift_toLive_eq_none_iff hrow hrows hplain hcomment hagree
  exact ⟨⟨hrow, hrows, hplain, hcomment, hagree⟩, l, hlive, hdrift.mpr hconvergent⟩

/-- A declared width that goes without saying is missed in a faithful row. -/
theorem Schema.drift_toLive_int_eleven :
    let c : Column := { Column.new "id" (.dialect .int) with width := some 11 }
    let e : Entity := { Entity.new "t" with columns := [c] }
    let r : ColumnRow :=
      { columnName := "id", dataType := "int", columnType := "int(11)", isNullable := "YES"
        columnDefault := none, columnKey := "", extra := "", characterMaximumLength := none
        numericPrecision := none, numericScale := none, datetimePrecision := none
        columnComment := none, generationExpression := none }
    r.Describes .mysql c ∧ e.ListedBy [] ∧
    ∃ l, r.toLive (IndexRow.uniqueColumns []) .mysql = .ok l ∧
      drift .mysql .strict e c l = .ok (some .width) := by
  intro c e r
  have heq : c.catalogRow .mysql = r := by
    unfold c r
    rfl
  have hrow : r.Describes .mysql c := heq ▸ Column.describes_catalogRow trivial rfl
  have hrows : e.ListedBy [] := ⟨by decide, by decide, [], by decide, List.Perm.refl _⟩
  refine ⟨hrow, hrows, ?_⟩
  unfold c e r
  exact ⟨_, rfl, by decide⟩

end TableMapping
