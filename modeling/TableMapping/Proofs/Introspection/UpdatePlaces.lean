import TableMapping.Proofs.Introspection.AttributeWords
import TableMapping.Proofs.Introspection.ReportedDomains
import TableMapping.Proofs.Introspection.ReportedPrecision
import TableMapping.Proofs.Text.CaselessSearch

/-!
# Every row and what it says about updates

Whatever stands in the row of a column, the words about updates that come first in its text, in any
letter case, are those that are found in lower case.  What stands behind them is read if the text in
front of them has as many bytes in lower case as it has itself.  If it has not, something else is
read, or the place of the words is none of the text and the row comes to nothing.

In all other respects a row is read, but for one with a domain whose members cannot be read.

## Main definitions

* `ColumnRow.HasUnreadableMembers` : the rows with a domain that is not read.
* `ColumnRow.ReadsAs` : what becomes of a row, given what it says about updates.

## Main results

* `ColumnRow.readsAs_of_updateClause` : a row is read if the text about updates is.
* `ColumnRow.toLive_update` : what becomes of any row at all.
-/

namespace TableMapping

open Text (toLower toUpper trim utf8Size Occurs OccursFirst)

/-! ### Domains -/

/-- A plain name of a type is the lower case of its names only. -/
theorem DialectType.names_iff {t : DialectType} (h : Text.IsPlain t.spelling.toList)
    {name : List Char} : t.Names name ↔ toLower name = t.spelling.toList := by
  refine ⟨Names.toLower_eq, fun hname => ?_⟩
  have hlower : Text.toLowerAfter [] name = t.spelling.toList ++ [] := by
    rw [List.append_nil]
    exact hname
  obtain ⟨word, rest, rfl, hword, hrest⟩ := Text.exists_of_toLowerAfter_eq_append h hlower
  cases rest with
  | nil => rwa [List.append_nil]
  | cons c cs =>
    rw [Text.toLowerAfter_cons] at hrest
    exact absurd (List.append_eq_nil_iff.mp hrest).1 (Text.lowerAt_ne_nil _ c cs)

namespace ColumnRow

/-- The column has a domain, and no members are read from the text of its type. -/
def HasUnreadableMembers (r : ColumnRow) : Prop :=
  (DialectType.enum.Names r.dataType.toList ∨ DialectType.set.Names r.dataType.toList) ∧
    MemberList.Unreadable r.columnType.toList

/-- Only the two types with a domain are taken for such. -/
theorem memberTypes_contains_iff (name : List Char) :
    memberTypes.contains (String.ofList (toLower name)) = true ↔
      DialectType.enum.Names name ∨ DialectType.set.Names name := by
  have hofList : ∀ t : String, String.ofList (toLower name) = t ↔ toLower name = t.toList :=
    fun t => ⟨fun h => by rw [← h, String.toList_ofList], fun h => by rw [h, String.ofList_toList]⟩
  rw [DialectType.names_iff (by decide), DialectType.names_iff (by decide), List.contains_iff_mem,
    memberTypes, List.mem_pair]
  exact or_congr (hofList "enum") (hofList "set")

theorem hasReadableMembers_iff {r : ColumnRow} :
    r.HasReadableMembers ↔ ¬ r.HasUnreadableMembers := by
  rw [HasReadableMembers, HasUnreadableMembers, memberTypes_contains_iff, not_and,
    ← MemberList.ofType_eq_none_iff, ← ne_eq, Option.ne_none_iff_exists']

/-! ### Rows that are read -/

/-- What becomes of a row that says `update` about updates: it is refused with the name and the type
of the column if it has a domain whose members cannot be read, and otherwise it is a live column
that says so. -/
def ReadsAs (r : ColumnRow) (unique : List String) (flavor : Flavor) (update : Option (List Char)) :
    Prop :=
  r.HasUnreadableMembers ∧
      r.toLive unique flavor = .error (.malformedType r.columnName r.columnType) ∨
    ¬ r.HasUnreadableMembers ∧
      ∃ l, r.toLive unique flavor = .ok l ∧ l.onUpdate = update.map String.ofList

/-- A row is read if the text about updates is. -/
theorem readsAs_of_updateClause {r : ColumnRow} {update : Option (List Char)}
    (hupdate : updateClause r.extra.toList = .ok update) (unique : List String) (flavor : Flavor) :
    r.ReadsAs unique flavor update := by
  by_cases hmembers : r.HasUnreadableMembers
  · refine .inl ⟨hmembers, ?_⟩
    obtain ⟨hnames, hunreadable⟩ := hmembers
    have hnone := MemberList.ofType_eq_none_iff.mpr hunreadable
    rcases hnames with hname | hname
    · exact toLive_domain_error (.inl rfl) hname hupdate hnone unique flavor
    · exact toLive_domain_error (.inr rfl) hname hupdate hnone unique flavor
  · obtain ⟨l, hl, honUpdate, -⟩ := toLive_ok String.toList_ofList.symm hupdate
      (hasReadableMembers_iff.mpr hmembers) unique flavor
    exact .inr ⟨hmembers, l, hl, honUpdate⟩

/-! ### The place of the words about updates -/

/-- What is found about updates, and how it comes that nothing is. -/
theorem updateClause_cases (extra : List Char) :
    ((∀ before mark rest, ¬ Occurs updateMark extra before mark rest) ∧
      updateClause extra = .ok none) ∨
    ∃ before mark rest, OccursFirst updateMark extra before mark rest ∧
      ((∃ front behind, extra = front ++ behind ∧
          utf8Size front = utf8Size (toLower before ++ mark) ∧
          updateClause extra = .ok (some (toUpper (trim behind)))) ∨
        (∀ front behind, extra = front ++ behind →
          utf8Size front ≠ utf8Size (toLower before ++ mark)) ∧
          updateClause extra = .error .misplacedUpdate) := by
  have hplain : Text.IsPlain updateMark := by decide
  rcases Text.splitFirst_toLowerAfter hplain (by decide) [] extra with
    ⟨hnone, hsearch⟩ | ⟨before, mark, rest, lower, after, hfirst, hsearch, hsize⟩
  · refine .inl ⟨hnone, ?_⟩
    rw [updateClause, toLower, hsearch]
  · have hmark : utf8Size mark = utf8Size updateMark := by
      rw [← hfirst.occurs.2, Text.utf8Size_map_toLower (hplain.isAscii_word hfirst.occurs.2)]
    refine .inr ⟨before, mark, rest, hfirst, ?_⟩
    rw [← toLower] at hsearch
    rw [updateClause, hsearch]
    dsimp only
    rw [hsize, ← hmark, ← Text.utf8Size_append]
    cases hdrop : Text.dropBytes? (utf8Size (toLower before ++ mark)) extra with
    | some behind =>
      obtain ⟨front, hextra, hfront⟩ := Text.dropBytes?_eq_some_iff.mp hdrop
      exact .inl ⟨front, behind, hextra, hfront, rfl⟩
    | none =>
      refine .inr ⟨fun front behind hextra hfront => ?_, rfl⟩
      have hfound := Text.dropBytes?_eq_some_iff.mpr ⟨front, hextra, hfront⟩
      exact absurd (hdrop.symm.trans hfound) (by simp)

/-- **What becomes of a row**, whatever its texts are.  Without the words about updates in any
letter case nothing is said about them.  Otherwise what stands behind the first such words is read,
without blanks around it and in upper case, if the text in front of them has as many bytes in lower
case as it has itself.  In general the same is done with what stands behind as many bytes as that
text and the words have in lower case, and the row comes to nothing if that is no place of a
character. -/
theorem toLive_update (r : ColumnRow) (unique : List String) (flavor : Flavor) :
    ((∀ before mark rest, ¬ Occurs updateMark r.extra.toList before mark rest) ∧
      r.ReadsAs unique flavor none) ∨
    ∃ before mark rest, OccursFirst updateMark r.extra.toList before mark rest ∧
      (utf8Size (toLower before) = utf8Size before →
        r.ReadsAs unique flavor (some (toUpper (trim rest)))) ∧
      ((∃ front behind, r.extra.toList = front ++ behind ∧
          utf8Size front = utf8Size (toLower before ++ mark) ∧
          r.ReadsAs unique flavor (some (toUpper (trim behind)))) ∨
        (∀ front behind, r.extra.toList = front ++ behind →
          utf8Size front ≠ utf8Size (toLower before ++ mark)) ∧
          r.toLive unique flavor = .error .misplacedUpdate) := by
  rcases updateClause_cases r.extra.toList with
    ⟨hnone, hupdate⟩ | ⟨before, mark, rest, hfirst, hplace⟩
  · exact .inl ⟨hnone, readsAs_of_updateClause hupdate unique flavor⟩
  · refine .inr ⟨before, mark, rest, hfirst, fun hsize => ?_, ?_⟩
    · -- The place is that behind the words then.
      have hextra : r.extra.toList = (before ++ mark) ++ rest := by
        rw [hfirst.occurs.1, List.append_assoc]
      have hwords : utf8Size (before ++ mark) = utf8Size (toLower before ++ mark) := by
        rw [Text.utf8Size_append, Text.utf8Size_append, hsize]
      rcases hplace with ⟨front, behind, hsplit, hfront, hupdate⟩ | ⟨hnowhere, -⟩
      · have hbehind : behind = rest :=
          Text.eq_of_utf8Size_eq (hsplit.symm.trans hextra) (hfront.trans hwords.symm)
        exact hbehind ▸ readsAs_of_updateClause hupdate unique flavor
      · exact absurd hwords (hnowhere _ rest hextra)
    · rcases hplace with ⟨front, behind, hsplit, hfront, hupdate⟩ | ⟨hnowhere, herror⟩
      · exact .inl ⟨front, behind, hsplit, hfront, readsAs_of_updateClause hupdate unique flavor⟩
      · exact .inr ⟨hnowhere, toLive_error herror unique flavor⟩

/-- An accented letter in front of the words has as many bytes in lower case, and the dotted capital
letter behind them is not in the way. -/
theorem toLive_update_accented :
    let r : ColumnRow :=
      { columnName := "at", dataType := "datetime", columnType := "datetime(3)", isNullable := "YES"
        columnDefault := none, columnKey := "", extra := "É ON Update İ now(3) "
        characterMaximumLength := none, numericPrecision := none, numericScale := none
        datetimePrecision := some 3, columnComment := none, generationExpression := none }
    OccursFirst updateMark r.extra.toList "É ".toList "ON Update ".toList "İ now(3) ".toList ∧
      utf8Size (toLower "É ".toList) = utf8Size "É ".toList ∧
      ∃ l, r.toLive [] .mysql = .ok l ∧ l.onUpdate = some "İ NOW(3)" := by
  intro r
  have hfirst : OccursFirst updateMark r.extra.toList "É ".toList "ON Update ".toList
      "İ now(3) ".toList := Text.occursFirst_of_splitFirst ⟨by decide, by decide⟩ (by decide)
  have hsize : utf8Size (toLower "É ".toList) = utf8Size "É ".toList := by decide
  refine ⟨hfirst, hsize, ?_⟩
  rcases toLive_update r [] .mysql with ⟨hnone, -⟩ | ⟨before, mark, rest, hfirst', hread, -⟩
  · exact absurd hfirst.occurs (hnone _ _ _)
  · obtain ⟨rfl, rfl, rfl⟩ := hfirst.unique hfirst'
    rcases hread hsize with ⟨⟨hnames, -⟩, -⟩ | ⟨-, l, hl, honUpdate⟩
    · exact absurd hnames (by decide)
    · have htext : toUpper (trim "İ now(3) ".toList) = "İ NOW(3)".toList := by decide
      exact ⟨l, hl, by rw [honUpdate, htext, Option.map_some, String.ofList_toList]⟩

/-- A dotted capital letter in front of the words takes one byte more in lower case: the row comes
to nothing if nothing stands behind the words, and the first letter is lost if something does. -/
theorem toLive_update_dotted :
    let r : ColumnRow :=
      { columnName := "at", dataType := "datetime", columnType := "datetime", isNullable := "YES"
        columnDefault := none, columnKey := "", extra := "İ on update "
        characterMaximumLength := none, numericPrecision := none, numericScale := none
        datetimePrecision := none, columnComment := none, generationExpression := none }
    let clipped : ColumnRow := { r with extra := "İ on update CURRENT_TIMESTAMP" }
    r.toLive [] .mysql = .error .misplacedUpdate ∧
      (clipped.toLive [] .mysql).map (·.onUpdate) = .ok (some "URRENT_TIMESTAMP") := by
  intro r clipped
  refine ⟨?_, ?_⟩
  · unfold r
    rfl
  · unfold clipped r
    rfl

end ColumnRow

end TableMapping
