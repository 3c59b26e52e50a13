import TableMapping.Introspection.LiveConversion
import TableMapping.Proofs.Introspection.MemberLists
import TableMapping.Proofs.Number.Numerals
import TableMapping.Proofs.Text.LetterCase
import TableMapping.Schema.CanonicalType

/-!
# Words in the texts of types

The catalog writes the type of a column as its name, what stands in parentheses behind it, and further
words, each after a blank.  A word that is looked for anywhere in that text, in any letter case, is
found in the name, in a member, or in one of the further words; it never goes across two of them,
because nothing but signs stands between them.

## Main definitions

* `IsSizeChar` : the characters of sizes.
* `TypeContent` : what stands in the parentheses of a type.
* `typeSuffix` : the words behind it.

## Main results

* `isInfix_toLower_typeText_iff` : where a word is found in the text of a type.
-/

namespace TableMapping

open Text (toLower contains lowerApart IsAscii)

/-! ### Names of types -/

namespace DialectType

theorem mem_all (t : DialectType) : t ∈ all := by
  cases t <;> decide

/-- The names of types are ASCII in lower case, without parentheses and the words for attributes. -/
theorem spelling_plain (t : DialectType) :
    IsAscii t.spelling.toList ∧ t.spelling.toList.map Char.toLower = t.spelling.toList ∧
      '(' ∉ t.spelling.toList ∧ contains "unsigned".toList t.spelling.toList = false ∧
      contains "zerofill".toList t.spelling.toList = false := by
  have hall : ∀ t ∈ all, IsAscii t.spelling.toList ∧
      t.spelling.toList.map Char.toLower = t.spelling.toList ∧
      '(' ∉ t.spelling.toList ∧ contains "unsigned".toList t.spelling.toList = false ∧
      contains "zerofill".toList t.spelling.toList = false := by decide
  exact hall t t.mem_all

theorem toLower_spelling (t : DialectType) : toLower t.spelling.toList = t.spelling.toList := by
  obtain ⟨hascii, hlower, -⟩ := t.spelling_plain
  rw [Text.toLower_of_isAscii hascii, hlower]

end DialectType

/-- A name of a type in some letter case. -/
def DialectType.Names (t : DialectType) (name : List Char) : Prop :=
  name.map Char.toLower = t.spelling.toList

instance (t : DialectType) (name : List Char) : Decidable (t.Names name) :=
  inferInstanceAs (Decidable (name.map Char.toLower = t.spelling.toList))

namespace DialectType.Names

variable {t : DialectType} {name : List Char}

theorem isAscii (h : t.Names name) : IsAscii name := by
  refine Text.isAscii_of_map_toLower ?_
  rw [h]
  exact t.spelling_plain.1

theorem toLower_eq (h : t.Names name) : toLower name = t.spelling.toList := by
  rw [Text.toLower_of_isAscii h.isAscii, h]

theorem not_mem_parenthesis (h : t.Names name) : '(' ∉ name := by
  intro hmem
  refine t.spelling_plain.2.2.1 ?_
  rw [← h]
  exact List.mem_map_of_mem hmem

end DialectType.Names

/-! ### What stands behind the name -/

/-- The characters of bodies without members. -/
def IsSizeChar (x : Char) : Prop := x.isDigit = true ∨ x ∈ ['(', ')', ',']

instance (x : Char) : Decidable (IsSizeChar x) :=
  inferInstanceAs (Decidable (x.isDigit = true ∨ x ∈ ['(', ')', ',']))

theorem IsSizeChar.plain {x : Char} (h : IsSizeChar x) :
    x.toNat < 128 ∧ x.toLower = x ∧ x.isLower = false := by
  rcases h with hdigit | hmem
  · have hx : 48 ≤ x.toNat ∧ x.toNat ≤ 57 := Char.isDigit_iff_toNat.mp hdigit
    have hascii : x.toNat < 128 := by omega
    refine ⟨hascii, Text.ascii_cases (p := fun x => x.isDigit = true → x.toLower = x ∧
      x.isLower = false) ?_ hascii hdigit⟩
    decide
  · have hall : ∀ x ∈ ['(', ')', ','], x.toNat < 128 ∧ x.toLower = x ∧ x.isLower = false := by decide
    exact hall x hmem

theorem isSizeChar_of_mem_width {w : UInt32} :
    ∀ x ∈ '(' :: (natText w.toNat ++ [')']), IsSizeChar x := by
  intro x hx
  rw [List.mem_cons, List.mem_append, List.mem_singleton] at hx
  rcases hx with rfl | hx | rfl
  · exact .inr (by decide)
  · exact .inl (isDigit_of_mem_natText hx)
  · exact .inr (by decide)

/-- What stands behind the name of a type: sizes, which have no letters, or the members of the
domain. -/
inductive TypeContent (typeName : String) : List (List Char) → List Char → Prop
  | sizes {body : List Char} (hm : ColumnRow.memberTypes.contains typeName = false)
      (hbody : ∀ x ∈ body, IsSizeChar x) : TypeContent typeName [] body
  | members (ht : ColumnRow.memberTypes.contains typeName = true) (ms : List (List Char)) :
      TypeContent typeName ms (MemberList.write ms)

/-- Words behind a type, each after a blank. -/
def typeSuffix (words : List (List Char)) : List Char := words.flatMap (' ' :: ·)

theorem typeSuffix_cons (word : List Char) (words : List (List Char)) :
    typeSuffix (word :: words) = ' ' :: (word ++ typeSuffix words) :=
  List.flatMap_cons

theorem lowerApart_typeSuffix (words : List (List Char)) :
    lowerApart (typeSuffix words) = typeSuffix (words.map lowerApart) := by
  have hblank : Text.lowerChar ' ' = [' '] := Text.lowerChar_of_ascii (by decide)
  induction words with
  | nil => rfl
  | cons word words ih =>
    rw [typeSuffix_cons, Text.lowerApart_cons, Text.lowerApart_append, ih, hblank, List.map_cons,
      typeSuffix_cons]
    rfl

/-! ### Words -/

section

variable {pattern : List Char}

theorem not_mem_of_isLower_eq_false (hlower : ∀ x ∈ pattern, x.isLower = true) {x : Char}
    (hx : x.isLower = false) : x ∉ pattern := by
  intro hmem
  exact Bool.false_ne_true (hx.symm.trans (hlower x hmem))

/-- What has no blank is found before the words behind a type or in one of them. -/
theorem isInfix_append_typeSuffix_iff (hblank : ' ' ∉ pattern) (before : List Char)
    (words : List (List Char)) :
    pattern <:+: before ++ typeSuffix words ↔
      pattern <:+: before ∨ ∃ word ∈ words, pattern <:+: word := by
  induction words generalizing before with
  | nil => simp [typeSuffix]
  | cons word words ih =>
    rw [typeSuffix_cons, Text.isInfix_append_cons_iff hblank, ih]
    simp only [List.mem_cons, exists_eq_or_imp]

/-- What has no size characters is found in a name if it is found in the name and sizes behind it. -/
theorem isInfix_append_sizes_iff (hlower : ∀ x ∈ pattern, x.isLower = true) (name : List Char)
    {body : List Char} (hbody : ∀ x ∈ body, IsSizeChar x) (hne : pattern ≠ []) :
    pattern <:+: name ++ body ↔ pattern <:+: name := by
  by_cases hnil : body = []
  · rw [hnil, List.append_nil]
  · have hapart := Text.isInfix_append_iff_of_disjoint hnil
      (fun x hx => not_mem_of_isLower_eq_false hlower (hbody x hx).plain.2.2) name []
    rwa [List.append_nil, List.infix_nil, or_iff_left hne] at hapart

/-- Quotes that are written twice do not make or break a word. -/
theorem isInfix_lowerApart_escape_iff (hquote : '\x27' ∉ pattern) (before member : List Char) :
    pattern <:+: before ++ lowerApart (MemberList.escape member) ↔
      pattern <:+: before ++ lowerApart member := by
  have hlower : Text.lowerChar '\x27' = ['\x27'] := Text.lowerChar_of_ascii (by decide)
  induction member generalizing before with
  | nil => rfl
  | cons x xs ih =>
    by_cases hx : x = '\x27'
    · subst hx
      have hrest : pattern <:+: lowerApart (MemberList.escape xs) ↔ pattern <:+: lowerApart xs :=
        ih []
      rw [MemberList.escape_cons_quote, Text.lowerApart_cons, Text.lowerApart_cons,
        Text.lowerApart_cons, hlower]
      simp only [List.singleton_append]
      rw [Text.isInfix_append_cons_iff hquote, Text.isInfix_append_cons_iff hquote, ← hrest]
      have hcons := Text.isInfix_append_cons_iff hquote [] (lowerApart (MemberList.escape xs))
      rw [List.nil_append, List.infix_nil] at hcons
      rw [hcons]
      constructor
      · rintro (hin | rfl | hin)
        · exact .inl hin
        · exact .inl List.nil_infix
        · exact .inr hin
      · rintro (hin | hin)
        · exact .inl hin
        · exact .inr (.inr hin)
    · rw [MemberList.escape_cons_of_ne hx, Text.lowerApart_cons, Text.lowerApart_cons,
        ← List.append_assoc, ← List.append_assoc]
      exact ih (before ++ Text.lowerChar x)

theorem isInfix_lowerApart_quote_iff (hquote : '\x27' ∉ pattern) (hne : pattern ≠ [])
    (member : List Char) :
    pattern <:+: lowerApart (MemberList.quote member) ↔ pattern <:+: lowerApart member := by
  have hlower : Text.lowerChar '\x27' = ['\x27'] := Text.lowerChar_of_ascii (by decide)
  have hescape := isInfix_lowerApart_escape_iff hquote [] member
  rw [List.nil_append, List.nil_append] at hescape
  rw [MemberList.quote_eq, Text.lowerApart_cons, Text.lowerApart_append, hlower]
  change pattern <:+: [] ++ '\x27' :: (_ ++ '\x27' :: []) ↔ _
  rw [Text.isInfix_append_cons_iff hquote, Text.isInfix_append_cons_iff hquote, hescape,
    List.infix_nil, or_iff_right hne, or_iff_left hne]

theorem lowerApart_write (members : List (List Char)) :
    lowerApart (MemberList.write members) =
      '(' :: (Text.joinWith [','] (members.map fun m => lowerApart (MemberList.quote m)) ++ [')']) := by
  rw [MemberList.write, ← Text.joinWith_eq, Text.lowerApart_cons, Text.lowerApart_append,
    lowerApart, Text.flatMap_joinWith, List.map_map,
    Text.lowerChar_of_ascii (by decide)]
  rfl

/-- A word is found in a name and the members behind it if it is found in the name or in a member. -/
theorem isInfix_append_members_iff (hlower : ∀ x ∈ pattern, x.isLower = true) (hne : pattern ≠ [])
    (name : List Char) (members : List (List Char)) :
    pattern <:+: name ++ lowerApart (MemberList.write members) ↔
      pattern <:+: name ∨ ∃ m ∈ members, pattern <:+: lowerApart m := by
  have hnot : ∀ {x : Char}, x.isLower = false → x ∉ pattern := not_mem_of_isLower_eq_false hlower
  rw [lowerApart_write, Text.isInfix_append_cons_iff (hnot (by decide)),
    Text.isInfix_append_cons_iff (hnot (by decide)), Text.isInfix_joinWith_iff (hnot (by decide)) hne,
    List.infix_nil, or_iff_left hne]
  simp only [List.mem_map, exists_exists_and_eq_and, isInfix_lowerApart_quote_iff (hnot (by decide)) hne]

/-- **Where a word is found in the text of a type**, in any letter case: in the name, in a member, or
in one of the words behind. -/
theorem isInfix_toLower_typeText_iff (hlower : ∀ x ∈ pattern, x.isLower = true) (hne : pattern ≠ [])
    {t : DialectType} {name : List Char} (hname : t.Names name) {ms : List (List Char)}
    {body : List Char} (hbody : TypeContent t.spelling ms body) (words : List (List Char)) :
    pattern <:+: toLower (name ++ (body ++ typeSuffix words)) ↔
      pattern <:+: t.spelling.toList ∨ (∃ m ∈ ms, pattern <:+: toLower m) ∨
        ∃ word ∈ words, pattern <:+: toLower word := by
  have hnot : ∀ {x : Char}, x.isLower = false → x ∉ pattern := not_mem_of_isLower_eq_false hlower
  have hapart : ∀ s, pattern <:+: toLower s ↔ pattern <:+: lowerApart s :=
    fun s => Text.isInfix_toLowerAfter_iff (hnot (by decide)) (hnot (by decide)) [] s
  have hself : lowerApart name = t.spelling.toList := by
    rw [Text.lowerApart_of_isAscii hname.isAscii, hname]
  have hcontent : pattern <:+: t.spelling.toList ++ lowerApart body ↔
      pattern <:+: t.spelling.toList ∨ ∃ m ∈ ms, pattern <:+: toLower m := by
    simp only [hapart]
    cases hbody with
    | sizes _ hsizes =>
      have hsame : lowerApart body = body := by
        rw [Text.lowerApart_of_isAscii fun x hx => (hsizes x hx).plain.1,
          List.map_congr_left fun x hx => (hsizes x hx).plain.2.1, List.map_id']
      rw [hsame, isInfix_append_sizes_iff hlower _ hsizes hne]
      simp
    | members _ ms => exact isInfix_append_members_iff hlower hne _ ms
  -- The words are split off first, since a blank stands before each of them even without a body.
  rw [hapart, Text.lowerApart_append, Text.lowerApart_append, hself, lowerApart_typeSuffix,
    ← List.append_assoc, isInfix_append_typeSuffix_iff (hnot (by decide)), hcontent, or_assoc]
  simp only [List.mem_map, exists_exists_and_eq_and, hapart]

end

end TableMapping
