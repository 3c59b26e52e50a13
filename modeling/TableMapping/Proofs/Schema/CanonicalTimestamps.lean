import TableMapping.Proofs.Schema.Timestamps

/-!
# The one spelling of the current time

A text names the current time if one of the keywords stands in it as a whole word, in any letter case.
Such a text is brought to the keyword and the first digits between parentheses in the text, and other
texts are left as they are.  The result names the current time with the same digits, so each flavor
brings it to what it would have made of the text itself, and its own result it leaves alone.

## Main definitions

* `Timestamp.endsInWord` : a text ends with a character of a word.
* `Timestamp.Names` : a keyword stands in a text as a whole word.

## Main results

* `Timestamp.named_iff` : the search for whole words.
* `Timestamp.precision?_eq_none_iff` : the texts without a precision.
* `Timestamp.canonical_canonical` : two flavors one after the other.
* `Timestamp.canonical_projection` : what becomes of a text.
-/

namespace TableMapping.Timestamp

variable {capitals s p : List Char}

/-! ### Whole words -/

/-- Whether a text ends with a character of a word, where `inWord` tells if the text follows one. -/
def endsInWord (inWord : Bool) : List Char → Bool
  | [] => inWord
  | c :: cs => endsInWord (Text.isWord c) cs

/-- The letters, in any letter case, stand in a text with no character of a word next to them, where
`inWord` tells if the text follows one. -/
def StandsAsWord (capitals : List Char) (inWord : Bool) (s : List Char) : Prop :=
  ∃ before word after, s = before ++ (word ++ after) ∧
    List.Forall₂ (fun k c => agrees k c = true) capitals word ∧
    endsInWord inWord before = false ∧ startsInWord after = false

/-- One of the keywords stands in a text as a whole word, in any letter case. -/
def Names (s : List Char) : Prop := ∃ k ∈ keywords, StandsAsWord k false s

theorem not_standsAsWord_nil (h : capitals ≠ []) (inWord : Bool) :
    ¬ StandsAsWord capitals inWord [] := by
  rintro ⟨before, word, after, hs, hword, -⟩
  obtain ⟨-, hs⟩ := List.append_eq_nil_iff.mp hs.symm
  obtain ⟨rfl, -⟩ := List.append_eq_nil_iff.mp hs
  exact h (List.forall₂_nil_right_iff.mp hword)

/-- A word stands at the start of a text, or behind its first character. -/
theorem standsAsWord_cons {inWord : Bool} {c : Char} {cs : List Char} :
    StandsAsWord capitals inWord (c :: cs) ↔
      (∃ rest, afterKeyword? capitals (c :: cs) = some rest ∧ inWord = false ∧
        startsInWord rest = false) ∨ StandsAsWord capitals (Text.isWord c) cs := by
  constructor
  · rintro ⟨before, word, after, hs, hword, hbefore, hafter⟩
    cases before with
    | nil => exact .inl ⟨after, afterKeyword?_eq_some_iff.mpr ⟨word, hs, hword⟩, hbefore, hafter⟩
    | cons b before =>
      obtain ⟨rfl, rfl⟩ := List.cons.inj hs
      exact .inr ⟨before, word, after, rfl, hword, hbefore, hafter⟩
  · rintro (⟨after, hkeyword, hinWord, hafter⟩ | ⟨before, word, after, rfl, hword, hbefore, hafter⟩)
    · obtain ⟨word, hs, hword⟩ := afterKeyword?_eq_some_iff.mp hkeyword
      exact ⟨[], word, after, hs, hword, hinWord, hafter⟩
    · exact ⟨c :: before, word, after, rfl, hword, hbefore, hafter⟩

theorem occursAsWord_iff (h : capitals ≠ []) {inWord : Bool} :
    occursAsWord capitals inWord s = true ↔ StandsAsWord capitals inWord s := by
  induction s generalizing inWord with
  | nil => exact ⟨fun hs => (nomatch hs), fun hs => absurd hs (not_standsAsWord_nil h inWord)⟩
  | cons c cs ih =>
    rw [standsAsWord_cons, ← ih, occursAsWord, Bool.or_eq_true]
    refine or_congr_left ?_
    cases afterKeyword? capitals (c :: cs) <;> simp

/-- A text names the current time if one of the keywords stands in it as a whole word. -/
theorem named_iff : named s = true ↔ Names s := by
  have hne : ∀ k ∈ keywords, k ≠ [] := by decide
  rw [named, List.any_eq_true]
  exact exists_congr fun k => and_congr_right fun hk => occursAsWord_iff (hne k hk)

/-! ### Precisions -/

theorem precision?_eq_none_iff :
    precision? s = none ↔ ∀ p, IsPrecision p → ¬ p <:+: s := by
  refine ⟨fun h p hp hinfix => ?_, fun h => ?_⟩
  · induction s with
    | nil =>
      obtain ⟨digits, -, -, rfl⟩ := hp
      cases List.infix_nil.mp hinfix
    | cons c cs ih =>
      rw [precision?] at h
      split at h
      case h_1 => cases h
      case h_2 hhere =>
        rcases List.infix_cons_iff.mp hinfix with hprefix | hinfix
        · rw [precisionHere?_eq_some_iff.mpr ⟨hp, hprefix⟩] at hhere
          cases hhere
        · exact ih h hinfix
  · rw [Option.eq_none_iff_forall_ne_some]
    intro p hp
    obtain ⟨hp, hinfix⟩ := precision?_eq_some hp
    exact h p hp hinfix

/-! ### The one spelling -/

theorem canonical_of_not_named (h : ¬ named s = true) (flavor : Flavor) : canonical flavor s = s := by
  rw [canonical.eq_def, if_neg h]

theorem canonical_of_precision (h : named s = true) (hp : precision? s = some p) (flavor : Flavor) :
    canonical flavor s = keyword ++ p := by
  simp only [canonical, h, hp, if_true]

theorem canonical_of_no_precision (h : named s = true) (hp : precision? s = none) :
    canonical .mysql s = keyword ∧ canonical .mariadb s = keyword ++ ['(', ')'] := by
  simp only [canonical, h, hp, if_true, and_self]

/-- Behind the keyword of the one spelling no word goes on, and the precision is that of the text. -/
theorem exists_canonical_eq (h : named s = true) (flavor : Flavor) :
    ∃ suffix, canonical flavor s = keyword ++ suffix ∧ startsInWord suffix = false ∧
      precision? suffix = precision? s := by
  cases hprecision : precision? s with
  | some p =>
    obtain ⟨hsuffix, hself⟩ := isSuffix_of_precision? hprecision
    exact ⟨p, canonical_of_precision h hprecision flavor, hsuffix.startsInWord_eq, hself⟩
  | none =>
    obtain ⟨hmysql, hmariadb⟩ := canonical_of_no_precision h hprecision
    cases flavor with
    | mysql => exact ⟨[], hmysql.trans (List.append_nil keyword).symm, rfl, rfl⟩
    | mariadb =>
      have hempty : IsSuffix ['(', ')'] := .inr ⟨[], rfl, nofun⟩
      exact ⟨['(', ')'], hmariadb, hempty.startsInWord_eq, rfl⟩

/-- A flavor makes of what another one has made of a text what it makes of the text itself. -/
theorem canonical_canonical (flavor other : Flavor) (s : List Char) :
    canonical flavor (canonical other s) = canonical flavor s := by
  by_cases h : named s = true
  · obtain ⟨suffix, hcanonical, hword, hprecision⟩ := exists_canonical_eq h other
    rw [hcanonical]
    refine canonical_eq_of_named (named_keyword_append hword) h ?_ flavor
    rw [precision?_append (by decide), hprecision]
  · rw [canonical_of_not_named h other]

/-- **The one spelling is a stable projection.**  What a flavor makes of a text it makes of every other
flavor's result and of its own, too.  A text in which no keyword stands as a whole word is left as it is;
any other one becomes the keyword before digits between parentheses that stand in the text or, if there
are none, the keyword alone or before empty parentheses. -/
theorem canonical_projection (s : List Char) :
    (∀ flavor other, canonical flavor (canonical other s) = canonical flavor s) ∧
    (¬ Names s ∧ (∀ flavor, canonical flavor s = s) ∨
      Names s ∧ (∃ p, IsPrecision p ∧ p <:+: s ∧ ∀ flavor, canonical flavor s = keyword ++ p) ∨
      Names s ∧ (∀ p, IsPrecision p → ¬ p <:+: s) ∧ canonical .mysql s = keyword ∧
        canonical .mariadb s = keyword ++ ['(', ')']) := by
  refine ⟨fun flavor other => canonical_canonical flavor other s, ?_⟩
  rw [← named_iff]
  by_cases h : named s = true
  · refine .inr ?_
    cases hprecision : precision? s with
    | some p =>
      obtain ⟨hp, hinfix⟩ := precision?_eq_some hprecision
      exact .inl ⟨h, p, hp, hinfix, canonical_of_precision h hprecision⟩
    | none =>
      exact .inr ⟨h, precision?_eq_none_iff.mp hprecision, canonical_of_no_precision h hprecision⟩
  · exact .inl ⟨h, canonical_of_not_named h⟩

/-- The long s is a letter case of the s, every script has digits, and the first ones count. -/
example : canonical .mariadb "set localtimeſtamp (٣) (6)".toList = "CURRENT_TIMESTAMP(٣)".toList := by
  decide

end TableMapping.Timestamp
