import TableMapping.Proofs.Introspection.ExtraTexts
import TableMapping.Proofs.Introspection.MemberLists
import TableMapping.Proofs.Introspection.TypeWords

/-!
# Domains as they are reported

The row of a column with a domain has its members in the text of the type.  They come back as they
were, or the row is refused with the name and the type of the column, which happens for the types that
no members are read from, and for no others.

All this presupposes that the text about updates can be read, which is done first.  If the place behind
its mark is lost in lower case, the row comes to nothing whatever its type is.

## Main results

* `ColumnRow.toLive_domain_ok`, `ColumnRow.toLive_domain_error` : a row whose members can or cannot be
  read.
* `ColumnRow.toLive_domain` : what becomes of the row of a column with a domain.
-/

namespace TableMapping

open Text (toLower)

namespace ColumnRow

variable {r : ColumnRow} {t : DialectType}

/-- The names of the types with a domain, which have no length. -/
theorem memberTypes_contains_spelling (ht : t = .enum ∨ t = .set) :
    memberTypes.contains t.spelling = true ∧ lengthTypes.contains t.spelling = false := by
  rcases ht with rfl | rfl <;> decide

section

variable (ht : t = .enum ∨ t = .set) (hname : t.Names r.dataType.toList)
  {update : Option (List Char)} (hupdate : updateClause r.extra.toList = .ok update)

include ht hname hupdate

/-- The members that are read are those of the live column. -/
theorem toLive_domain_ok {members : List (List Char)}
    (hmembers : MemberList.ofType r.columnType.toList = some members) (unique : List String)
    (flavor : Flavor) :
    ∃ l, r.toLive unique flavor = .ok l ∧ l.members = some (members.map String.ofList) ∧
      l.length = "" := by
  obtain ⟨hdomain, hlength⟩ := memberTypes_contains_spelling ht
  simp only [toLive, hname.toLower_eq, String.ofList_toList, hupdate, if_pos hdomain, hmembers]
  refine ⟨_, rfl, rfl, ?_⟩
  exact if_neg (by rw [hlength]; exact Bool.false_ne_true)

/-- If no members are read, the row is refused. -/
theorem toLive_domain_error (hmembers : MemberList.ofType r.columnType.toList = none)
    (unique : List String) (flavor : Flavor) :
    r.toLive unique flavor = .error (.malformedType r.columnName r.columnType) := by
  simp only [toLive, hname.toLower_eq, String.ofList_toList, hupdate,
    if_pos (memberTypes_contains_spelling ht).1, hmembers]
  rfl

end

/-- If the text about updates is not read, the row is refused whatever its type is. -/
theorem toLive_error (h : updateClause r.extra.toList = .error .misplacedUpdate)
    (unique : List String) (flavor : Flavor) :
    r.toLive unique flavor = .error .misplacedUpdate := by
  simp only [toLive, h]
  rfl

/-- **What becomes of the row of a column with a domain**, whose name is in any letter case.  Where the
text about updates can be read, a type that has members written in it gives them back, without a length,
and the row is refused with the name and the type of the column if and only if no members can be read
from the type.  Elsewhere there is no answer about the members at all. -/
theorem toLive_domain (ht : t = .enum ∨ t = .set) (hname : t.Names r.dataType.toList)
    (unique : List String) (flavor : Flavor) :
    (UpdateInPlace r.extra.toList →
      (∀ (name : List Char) (members : List String), '(' ∉ name →
        r.columnType.toList = name ++ MemberList.write (members.map String.toList) →
        ∃ l, r.toLive unique flavor = .ok l ∧ l.members = some members ∧ l.length = "") ∧
      (r.toLive unique flavor = .error (.malformedType r.columnName r.columnType) ↔
        MemberList.Unreadable r.columnType.toList)) ∧
    (¬ UpdateInPlace r.extra.toList → r.toLive unique flavor = .error .misplacedUpdate) := by
  refine ⟨fun hplace => ?_, fun hplace => toLive_error (updateClause_eq_error hplace) unique flavor⟩
  obtain ⟨update, hupdate⟩ := hplace.updateClause_eq_ok
  refine ⟨fun name members hopen hwritten => ?_, ?_⟩
  · have hread : MemberList.ofType r.columnType.toList = some (members.map String.toList) := by
      have h := MemberList.ofType_write hopen List.not_mem_nil (members.map String.toList)
      rwa [List.append_nil, ← hwritten] at h
    obtain ⟨l, hl, hmembers, hlength⟩ := toLive_domain_ok ht hname hupdate hread unique flavor
    have hsame : (members.map String.toList).map String.ofList = members := by
      rw [List.map_map, String.ofList_comp_toList, List.map_id]
    exact ⟨l, hl, hsame ▸ hmembers, hlength⟩
  · rw [← MemberList.ofType_eq_none_iff]
    refine ⟨fun herror => ?_, fun hread => toLive_domain_error ht hname hupdate hread unique flavor⟩
    by_contra hsome
    obtain ⟨members, hread⟩ := Option.ne_none_iff_exists'.mp hsome
    obtain ⟨l, hl, -⟩ := toLive_domain_ok ht hname hupdate hread unique flavor
    exact absurd (hl.symm.trans herror) (by simp)

/-- Members with quotes, commas and parentheses in them, and an empty one; and a quote too few. -/
theorem toLive_domain_tags :
    let r : ColumnRow :=
      { columnName := "tags", dataType := "Set", columnType := "SET('it''s','a,b','(c)','')"
        isNullable := "YES", columnDefault := none, columnKey := "", extra := ""
        characterMaximumLength := some 12, numericPrecision := none, numericScale := none
        datetimePrecision := none, columnComment := none, generationExpression := none }
    (∃ l, r.toLive [] .mysql = .ok l ∧ l.members = some ["it's", "a,b", "(c)", ""] ∧
      l.length = "") ∧
    { r with columnType := "SET('it's')" }.toLive [] .mysql =
      .error (.malformedType "tags" "SET('it's')") := by
  intro r
  have hset : DialectType.set = .enum ∨ DialectType.set = .set := .inr rfl
  have hplace : UpdateInPlace r.extra.toList := updateInPlace_of_isAscii (by decide)
  have hwritten : r.columnType.toList =
      "SET".toList ++ MemberList.write (["it's", "a,b", "(c)", ""].map String.toList) := by decide
  refine ⟨((toLive_domain hset (by decide) [] .mysql).1 hplace).1 _ _ (by decide) hwritten, ?_⟩
  refine ((toLive_domain (r := { r with columnType := "SET('it's')" }) hset (by decide) []
    .mysql).1 hplace).2.mpr ?_
  exact .malformed "SET".toList "'it's'".toList [] (by decide) (by decide) (by decide)
    (.inl (by decide))

/-- A capital letter with a dot above takes one byte more in lower case, so that the place behind the
mark, which ends the text, is lost; then neither a member comes back nor is a missing parenthesis
reported. -/
theorem toLive_enum_misplacedUpdate :
    let r : ColumnRow :=
      { columnName := "kind", dataType := "enum", columnType := "enum('x')", isNullable := "YES"
        columnDefault := none, columnKey := "", extra := "İ on update "
        characterMaximumLength := none, numericPrecision := none, numericScale := none
        datetimePrecision := none, columnComment := none, generationExpression := none }
    let unclosed : ColumnRow := { r with columnType := "enum('x'" }
    (r.columnType.toList = "enum".toList ++ MemberList.write ["x".toList] ∧
      r.toLive [] .mysql = .error .misplacedUpdate) ∧
    MemberList.Unreadable unclosed.columnType.toList ∧
      unclosed.toLive [] .mysql = .error .misplacedUpdate := by
  intro r unclosed
  have hopen : ')' ∉ unclosed.columnType.toList := by decide
  have hunreadable : MemberList.Unreadable unclosed.columnType.toList := by
    refine .unenclosed fun before between after heq => ?_
    rw [heq] at hopen
    exact hopen (by simp)
  refine ⟨⟨by decide, ?_⟩, hunreadable, ?_⟩
  · unfold r
    rfl
  · unfold unclosed r
    rfl

end ColumnRow

end TableMapping
