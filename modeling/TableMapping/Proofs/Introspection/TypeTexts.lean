import Mathlib.Data.List.TakeWhile
import TableMapping.Proofs.Introspection.TypeWords

/-!
# Reported types

The catalog writes the type of a column as its name, a body in parentheses or none, and the words for
the attributes of numbers.  The words are looked for anywhere in the text, the width between the first
parentheses, and the members between the first and the last one.

## Main definitions

* `attributeText` : the words for the attributes of numbers.
* `Column.TypeBody` : the bodies that report the sizes or the members of a column.
* `Column.ReportsType` : the texts that report the type of a column.

## Main results

* `Column.ReportsType.contains_unsigned`, `Column.ReportsType.contains_zerofill` : the words are found
  if and only if they are declared, unless a member has them.
* `Column.ReportsType.width?` : the width is read back, except for the implied one.
* `Column.ReportsType.ofType` : the members are read back.
-/

namespace TableMapping

open Text (toLower contains lowerApart IsAscii)

/-! ### Names of types -/

/-- A type with rules: one of the server's dialect or of the application's own. -/
def ColumnType.IsKnown : ColumnType → Prop
  | other _ => False
  | _ => True

/-- The server knows every type with rules under a type of its dialect. -/
theorem ColumnType.IsKnown.canonical {t : ColumnType} (h : t.IsKnown) (flavor : Flavor) :
    ∃ d, t.canonical flavor = .dialect d := by
  cases t with
  | dialect d =>
    cases d
    case json => cases flavor <;> exact ⟨_, rfl⟩
    all_goals exact ⟨_, rfl⟩
  | application a => cases a <;> exact ⟨_, rfl⟩
  | other name => exact h.elim

/-! ### The text of a type -/

/-- The words for the attributes of numbers. -/
def attributeText (unsigned zerofill : Bool) : List Char :=
  (if unsigned then " unsigned".toList else []) ++ (if zerofill then " zerofill".toList else [])

/-- The members of a column as texts. -/
def Column.memberTexts (c : Column) : List (List Char) :=
  (c.members.getD []).map fun m => m.spelling.toList

/-- What stands between the name of a type and the words for the attributes: the declared width or,
without one, nothing or the implied width; the members in any order; and for all other types nothing
or sizes, which have no letters. -/
inductive Column.TypeBody (flavor : Flavor) (c : Column) : List Char → Prop
  | width {w : UInt32} (ht : ColumnRow.widthTypes.contains (c.typeName flavor) = true)
      (hw : c.displayWidth = some w) : TypeBody flavor c ('(' :: (natText w.toNat ++ [')']))
  | bare (ht : ColumnRow.widthTypes.contains (c.typeName flavor) = true)
      (hw : c.displayWidth = none) : TypeBody flavor c []
  | implied {w : UInt32} (ht : ColumnRow.widthTypes.contains (c.typeName flavor) = true)
      (hw : c.displayWidth = none)
      (hi : ColumnRow.impliedWidth? (c.typeName flavor) c.unsigned = some w) :
      TypeBody flavor c ('(' :: (natText w.toNat ++ [')']))
  | members {ms : List (List Char)}
      (ht : ColumnRow.memberTypes.contains (c.typeName flavor) = true)
      (hms : ms.Perm c.memberTexts) : TypeBody flavor c (MemberList.write ms)
  | sizes {body : List Char} (ht : ColumnRow.widthTypes.contains (c.typeName flavor) = false)
      (hm : ColumnRow.memberTypes.contains (c.typeName flavor) = false)
      (hbody : ∀ x ∈ body, IsSizeChar x) : TypeBody flavor c body

/-- The text reports the type of a column: the name, a body and the words for the declared
attributes. -/
structure Column.ReportsType (flavor : Flavor) (c : Column) (text body : List Char) : Prop where
  known : c.columnType.IsKnown
  written : text = (c.typeName flavor).toList ++ (body ++ attributeText c.unsigned c.zerofill)
  bodied : c.TypeBody flavor body

/-! ### Bodies without letters -/

/-- The words for the attributes are in lower case. -/
theorem attributeText_eq_typeSuffix (unsigned zerofill : Bool) :
    ∃ words, attributeText unsigned zerofill = typeSuffix words ∧ ∀ w ∈ words, toLower w = w := by
  refine ⟨(if unsigned then ["unsigned".toList] else []) ++ (if zerofill then ["zerofill".toList] else []),
    ?_, ?_⟩
  · cases unsigned <;> cases zerofill <;> decide
  · cases unsigned <;> cases zerofill <;> decide

theorem attributeText_plain (unsigned zerofill : Bool) :
    IsAscii (attributeText unsigned zerofill) ∧
      (attributeText unsigned zerofill).map Char.toLower = attributeText unsigned zerofill ∧
      '(' ∉ attributeText unsigned zerofill ∧ ')' ∉ attributeText unsigned zerofill := by
  cases unsigned <;> cases zerofill <;> decide

/-- The text of a type without members is ASCII in lower case, if the words behind it are. -/
theorem toLower_typeText (t : DialectType) {body : List Char} (hbody : ∀ x ∈ body, IsSizeChar x)
    {suffix : List Char} (hsuffix : IsAscii suffix) (hlower : suffix.map Char.toLower = suffix) :
    toLower (t.spelling.toList ++ (body ++ suffix)) = t.spelling.toList ++ (body ++ suffix) := by
  obtain ⟨hascii, hname, -⟩ := t.spelling_plain
  have hbody' : IsAscii body := fun x hx => (hbody x hx).plain.1
  have hself : body.map Char.toLower = body :=
    (List.map_congr_left fun x hx => (hbody x hx).plain.2.1).trans (List.map_id' body)
  rw [Text.toLower_of_isAscii (Text.isAscii_append.mpr
    ⟨hascii, Text.isAscii_append.mpr ⟨hbody', hsuffix⟩⟩), List.map_append, List.map_append,
    hname, hself, hlower]

theorem typeText_plain (t : DialectType) {body : List Char} (hbody : ∀ x ∈ body, IsSizeChar x)
    (unsigned zerofill : Bool) :
    toLower (t.spelling.toList ++ (body ++ attributeText unsigned zerofill)) =
      t.spelling.toList ++ (body ++ attributeText unsigned zerofill) :=
  toLower_typeText t hbody (attributeText_plain unsigned zerofill).1
    (attributeText_plain unsigned zerofill).2.1

/-- The number between the first parentheses is read back. -/
theorem parenthesizedNumber?_append {name : List Char} (hname : '(' ∉ name) (w : UInt32)
    (rest : List Char) :
    ColumnRow.parenthesizedNumber? (name ++ ('(' :: (natText w.toNat ++ [')']) ++ rest)) = some w := by
  have hdigits : ∀ x ∈ natText w.toNat, (x != ')') = true := by
    intro x hx
    rw [bne_iff_ne]
    rintro rfl
    exact absurd (isDigit_of_mem_natText hx) (by decide)
  have htrim : Text.trim (natText w.toNat) = natText w.toNat :=
    Text.trim_eq_self fun x hx => Text.isBlank_of_isDigit (isDigit_of_mem_natText hx)
  rw [List.cons_append, List.append_assoc, List.singleton_append, ColumnRow.parenthesizedNumber?,
    MemberList.dropWhile_append_of_not_mem hname]
  dsimp only
  rw [if_pos (by simp), List.takeWhile_append_of_pos hdigits,
    List.takeWhile_cons_of_neg (by simp), List.append_nil, htrim, readUInt32?_natText]

theorem parenthesizedNumber?_eq_none {s : List Char} (h : '(' ∉ s) :
    ColumnRow.parenthesizedNumber? s = none := by
  have hdrop : s.dropWhile (· != '(') = [] := by
    rw [List.dropWhile_eq_nil_iff]
    intro x hx
    rw [bne_iff_ne]
    rintro rfl
    exact h hx
  rw [ColumnRow.parenthesizedNumber?, hdrop]

/-! ### What is read from the text -/

/-- If the column has a domain, no member of it has the words for the attributes of numbers in any
letter case. -/
def Column.PlainMembers (flavor : Flavor) (c : Column) : Prop :=
  ColumnRow.memberTypes.contains (c.typeName flavor) = true → ∀ m ∈ c.memberTexts,
    contains "unsigned".toList (toLower m) = false ∧ contains "zerofill".toList (toLower m) = false

theorem widthTypes_of_memberTypes {t : String} (h : ColumnRow.memberTypes.contains t = true) :
    ColumnRow.widthTypes.contains t = false := by
  have hall : ∀ t ∈ ColumnRow.memberTypes, ColumnRow.widthTypes.contains t = false := by decide
  exact hall t (List.contains_iff_mem.mp h)

namespace Column

variable {flavor : Flavor} {c : Column} {text body : List Char}

theorem TypeBody.content (h : c.TypeBody flavor body) :
    ∃ ms, TypeContent (c.typeName flavor) ms body ∧
      (ColumnRow.memberTypes.contains (c.typeName flavor) = true → ms.Perm c.memberTexts) := by
  have hmember : ColumnRow.widthTypes.contains (c.typeName flavor) = true →
      ColumnRow.memberTypes.contains (c.typeName flavor) = false := by
    intro ht
    by_contra hm
    rw [widthTypes_of_memberTypes (by simpa using hm)] at ht
    exact Bool.false_ne_true ht
  have hsizes : ∀ {body}, ColumnRow.memberTypes.contains (c.typeName flavor) = false →
      (∀ x ∈ body, IsSizeChar x) → ∃ ms, TypeContent (c.typeName flavor) ms body ∧
        (ColumnRow.memberTypes.contains (c.typeName flavor) = true → ms.Perm c.memberTexts) :=
    fun hm hbody => ⟨[], .sizes hm hbody, fun ht => absurd (hm.symm.trans ht) Bool.false_ne_true⟩
  cases h with
  | width ht _ => exact hsizes (hmember ht) isSizeChar_of_mem_width
  | bare ht _ => exact hsizes (hmember ht) fun x hx => absurd hx List.not_mem_nil
  | implied ht _ _ => exact hsizes (hmember ht) isSizeChar_of_mem_width
  | @members ms ht hms => exact ⟨ms, .members ht ms, fun _ => hms⟩
  | sizes _ hm hbody => exact hsizes hm hbody

namespace ReportsType

theorem typeName_eq (h : c.ReportsType flavor text body) :
    ∃ t : DialectType, c.typeName flavor = t.spelling := by
  obtain ⟨t, ht⟩ := h.known.canonical flavor
  exact ⟨t, by rw [typeName, ht, ColumnType.spelling]⟩

/-- A word in lower case occurs in the text if it is one of those for the declared attributes. -/
theorem contains_word (h : c.ReportsType flavor text body) {pattern : List Char}
    (hlower : ∀ x ∈ pattern, x.isLower = true) (hne : pattern ≠ [])
    (hname : ∀ t : DialectType, contains pattern t.spelling.toList = false)
    (hmembers : ColumnRow.memberTypes.contains (c.typeName flavor) = true →
      ∀ m ∈ c.memberTexts, contains pattern (toLower m) = false) :
    contains pattern (toLower text) = contains pattern (attributeText c.unsigned c.zerofill) := by
  obtain ⟨t, ht⟩ := h.typeName_eq
  obtain ⟨ms, hcontent, hperm⟩ := h.bodied.content
  obtain ⟨words, hwords, hself⟩ := attributeText_eq_typeSuffix c.unsigned c.zerofill
  have hblank : ' ' ∉ pattern := not_mem_of_isLower_eq_false hlower (by decide)
  have hmember : ¬ ∃ m ∈ ms, pattern <:+: toLower m := by
    rintro ⟨m, hm, hin⟩
    cases hcontent with
    | sizes _ _ => exact absurd hm List.not_mem_nil
    | members hmt _ =>
      exact Text.contains_eq_false_iff.mp (hmembers hmt m ((hperm hmt).mem_iff.mp hm)) hin
  have hsuffix : (∃ w ∈ words, pattern <:+: toLower w) ↔ pattern <:+: typeSuffix words := by
    have happend := isInfix_append_typeSuffix_iff hblank [] words
    rw [List.nil_append, List.infix_nil, or_iff_right hne] at happend
    rw [happend]
    exact exists_congr fun w => and_congr_right fun hw => by rw [hself w hw]
  rw [ht] at hcontent
  rw [Bool.eq_iff_iff, Text.contains_iff, Text.contains_iff, h.written, ht, hwords,
    isInfix_toLower_typeText_iff hlower hne t.spelling_plain.2.1 hcontent,
    or_iff_right (Text.contains_eq_false_iff.mp (hname t)), or_iff_right hmember, hsuffix]

theorem contains_unsigned (h : c.ReportsType flavor text body) (hplain : c.PlainMembers flavor) :
    contains "unsigned".toList (toLower text) = c.unsigned := by
  rw [h.contains_word (by decide) (by decide) (fun t => t.spelling_plain.2.2.2.1)
    fun ht m hm => (hplain ht m hm).1]
  cases c.unsigned <;> cases c.zerofill <;> decide

theorem contains_zerofill (h : c.ReportsType flavor text body) (hplain : c.PlainMembers flavor) :
    contains "zerofill".toList (toLower text) = c.zerofill := by
  rw [h.contains_word (by decide) (by decide) (fun t => t.spelling_plain.2.2.2.2)
    fun ht m hm => (hplain ht m hm).2]
  cases c.unsigned <;> cases c.zerofill <;> decide

/-- The members are read back, in the order of the text. -/
theorem ofType (h : c.ReportsType flavor text body)
    (ht : ColumnRow.memberTypes.contains (c.typeName flavor) = true) :
    ∃ ms, MemberList.ofType text = some ms ∧ ms.Perm c.memberTexts := by
  obtain ⟨t, hname⟩ := h.typeName_eq
  obtain ⟨ms, hcontent, hperm⟩ := h.bodied.content
  cases hcontent with
  | sizes hm _ => exact absurd (hm.symm.trans ht) Bool.false_ne_true
  | members _ _ =>
    refine ⟨ms, ?_, hperm ht⟩
    rw [h.written, hname]
    exact MemberList.ofType_write t.spelling_plain.2.2.1
      (attributeText_plain c.unsigned c.zerofill).2.2.2 ms

/-- The width is read back if and only if it belongs to the type and is not the implied one. -/
theorem width? (h : c.ReportsType flavor text body) :
    ColumnRow.width? (c.typeName flavor) c.unsigned (toLower text) = c.displayWidth ↔
      ∀ w, c.displayWidth = some w → ColumnRow.widthTypes.contains (c.typeName flavor) = true ∧
        ColumnRow.impliedWidth? (c.typeName flavor) c.unsigned ≠ some w := by
  obtain ⟨t, hname⟩ := h.typeName_eq
  have hparenthesis := t.spelling_plain.2.2.1
  have hnone : ColumnRow.widthTypes.contains (c.typeName flavor) = false →
      (ColumnRow.width? (c.typeName flavor) c.unsigned (toLower text) = c.displayWidth ↔
        ∀ w, c.displayWidth = some w → ColumnRow.widthTypes.contains (c.typeName flavor) = true ∧
          ColumnRow.impliedWidth? (c.typeName flavor) c.unsigned ≠ some w) := by
    intro ht
    rw [ColumnRow.width?, ht]
    cases c.displayWidth <;> simp
  have hwritten := h.written
  rw [hname] at hwritten
  cases h.bodied with
  | @width w ht hw =>
    rw [hwritten, typeText_plain t isSizeChar_of_mem_width, ColumnRow.width?, if_pos ht,
      parenthesizedNumber?_append hparenthesis, hw, Option.filter_some]
    simp only [Option.some.injEq, forall_eq', ht, true_and]
    by_cases hi : ColumnRow.impliedWidth? (c.typeName flavor) c.unsigned = some w
    · simp [hi]
    · simp [hi, Ne.symm hi]
  | bare ht hw =>
    rw [hwritten, typeText_plain t (fun x hx => absurd hx List.not_mem_nil), ColumnRow.width?,
      if_pos ht, parenthesizedNumber?_eq_none, hw]
    · simp
    · rw [List.nil_append, List.mem_append, not_or]
      exact ⟨hparenthesis, (attributeText_plain c.unsigned c.zerofill).2.2.1⟩
  | @implied w ht hw hi =>
    rw [hwritten, typeText_plain t isSizeChar_of_mem_width, ColumnRow.width?, if_pos ht,
      parenthesizedNumber?_append hparenthesis, hw, Option.filter_some, hi]
    simp
  | members ht _ => exact hnone (widthTypes_of_memberTypes ht)
  | sizes ht _ _ => exact hnone ht

end ReportsType

end Column

end TableMapping
