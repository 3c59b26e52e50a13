import Mathlib.Data.List.Forall2
import Mathlib.Data.List.Infix
import Mathlib.Data.List.TakeWhile
import TableMapping.Proofs.Text.LetterCase
import TableMapping.Schema.Timestamp

/-!
# Spellings of the current time

The server reports the current time as the keyword in any letter case, alone or before parentheses
with digits or nothing between them.  In upper case every such spelling is the keyword itself before
the same parentheses.

## Main definitions

* `Timestamp.IsSuffix` : nothing, or parentheses with digits or nothing between them.
* `Timestamp.IsPrecision` : parentheses with digits between them.

## Main results

* `Timestamp.isReported_iff` : the spellings that the server reports.
* `Timestamp.toUpper_of_isReported` : a reported spelling in upper case.
* `Timestamp.isReported_of_map_toUpper` : a text whose ASCII upper case is a reported spelling.
* `Timestamp.canonical_eq_of_named` : only the precision of a spelling counts.
* `Timestamp.precision?_eq_some` : the precision of a text stands in it.
* `Timestamp.IsSuffix.precision?_append` : the precision of a reported spelling inside a text.
-/

namespace TableMapping.Timestamp

open Text (toUpper upperChar isDecimalDigit)

/-! ### The keyword -/

theorem agrees_iff {k c : Char} :
    agrees k c = true ↔ c.toUpper = k ∨ k = 'S' ∧ c.toNat = 0x17f := by
  rw [agrees, Bool.or_eq_true, Bool.and_eq_true, beq_iff_eq, beq_iff_eq, beq_iff_eq]

/-- What follows a keyword at the start of a text is what follows a word that agrees with it. -/
theorem afterKeyword?_eq_some_iff {capitals s rest : List Char} :
    afterKeyword? capitals s = some rest ↔
      ∃ word, s = word ++ rest ∧ List.Forall₂ (fun k c => agrees k c = true) capitals word := by
  induction capitals generalizing s with
  | nil => simp [afterKeyword?, List.forall₂_nil_left_iff]
  | cons k ks ih =>
    cases s with
    | nil => simp [afterKeyword?, List.forall₂_cons_left_iff]
    | cons c cs =>
      rw [afterKeyword?]
      constructor
      · intro h
        split at h
        case isTrue hc =>
          obtain ⟨word, rfl, hword⟩ := ih.mp h
          exact ⟨c :: word, rfl, .cons hc hword⟩
        case isFalse => exact absurd h (by simp)
      · rintro ⟨word, hs, hword⟩
        obtain ⟨d, ds, hd, hds, rfl⟩ := List.forall₂_cons_left_iff.mp hword
        obtain ⟨rfl, rfl⟩ := List.cons.inj hs
        rw [if_pos hd]
        exact ih.mpr ⟨ds, rfl, hds⟩

theorem toNat_lt_of_toUpper_eq {k c : Char} (hk : k.toNat < 128) (h : c.toUpper = k) :
    c.toNat < 128 := by
  by_contra hc
  rw [Text.toUpper_eq_self hc] at h
  exact hc (h ▸ hk)

theorem upperChar_of_agrees {k c : Char} (hk : k.toNat < 128) (h : agrees k c = true) :
    upperChar c = [k] := by
  rcases agrees_iff.mp h with hupper | ⟨rfl, hlong⟩
  · rw [Text.upperChar_of_ascii (toNat_lt_of_toUpper_eq hk hupper), hupper]
  · have hc : c = Char.ofNat 0x17f := by rw [← hlong, Char.ofNat_toNat]
    rw [hc]
    decide

theorem toUpper_of_agrees {capitals word : List Char} (hcapitals : Text.IsAscii capitals)
    (h : List.Forall₂ (fun k c => agrees k c = true) capitals word) : toUpper word = capitals := by
  induction h with
  | nil => rfl
  | @cons k c ks cs hc _ ih =>
    obtain ⟨hk, hks⟩ := Text.isAscii_cons.mp hcapitals
    rw [toUpper, List.flatMap_cons, upperChar_of_agrees hk hc]
    exact congrArg (k :: ·) (ih hks)

theorem agrees_of_map_toUpper {word capitals : List Char} (h : word.map Char.toUpper = capitals) :
    List.Forall₂ (fun k c => agrees k c = true) capitals word := by
  rw [← h, List.forall₂_map_left_iff, List.forall₂_same]
  exact fun c _ => agrees_iff.mpr (.inl rfl)

/-! ### Reported spellings -/

/-- Nothing, or parentheses with digits or nothing between them. -/
def IsSuffix (s : List Char) : Prop :=
  s = [] ∨ ∃ digits, s = '(' :: (digits ++ [')']) ∧ ∀ c ∈ digits, isDecimalDigit c = true

theorem IsSuffix.parenthesis_or_digit {s : List Char} (h : IsSuffix s) {c : Char} (hc : c ∈ s) :
    c = '(' ∨ isDecimalDigit c = true ∨ c = ')' := by
  rcases h with rfl | ⟨digits, rfl, hdigits⟩
  · exact absurd hc List.not_mem_nil
  · rw [List.mem_cons, List.mem_append, List.mem_singleton] at hc
    exact hc.imp_right (Or.imp_left (hdigits c))

/-- A text that does not go on with the word before it does not go on with it behind a suffix either. -/
theorem IsSuffix.startsInWord_append {s rest : List Char} (h : IsSuffix s)
    (hrest : startsInWord rest = false) : startsInWord (s ++ rest) = false := by
  rcases h with rfl | ⟨digits, rfl, -⟩
  · exact hrest
  · exact (by decide : Text.isWord '(' = false)

theorem IsSuffix.startsInWord_eq {s : List Char} (h : IsSuffix s) : startsInWord s = false := by
  have happend := h.startsInWord_append (rfl : startsInWord [] = false)
  rwa [List.append_nil] at happend

theorem isReported_iff {s : List Char} :
    isReported s = true ↔ ∃ word suffix, s = word ++ suffix ∧
      List.Forall₂ (fun k c => agrees k c = true) keyword word ∧ IsSuffix suffix := by
  constructor
  · intro h
    rw [isReported] at h
    split at h
    case h_1 => exact absurd h (by simp)
    case h_2 hafter =>
      obtain ⟨word, hs, hword⟩ := afterKeyword?_eq_some_iff.mp hafter
      exact ⟨word, [], hs, hword, .inl rfl⟩
    case h_3 rest hafter =>
      obtain ⟨word, hs, hword⟩ := afterKeyword?_eq_some_iff.mp hafter
      refine ⟨word, '(' :: rest, hs, hword, .inr ⟨rest.takeWhile isDecimalDigit, ?_, ?_⟩⟩
      · rw [← beq_iff_eq.mp h, List.takeWhile_append_dropWhile]
      · exact fun c hc => List.mem_takeWhile_imp hc
    case h_4 => exact absurd h (by simp)
  · rintro ⟨word, suffix, hs, hword, hsuffix⟩
    have hafter := afterKeyword?_eq_some_iff.mpr ⟨word, hs, hword⟩
    rw [isReported, hafter]
    rcases hsuffix with rfl | ⟨digits, rfl, hdigits⟩
    · rfl
    · change ((digits ++ [')']).dropWhile isDecimalDigit == [')']) = true
      rw [List.dropWhile_append_of_pos hdigits, List.dropWhile_cons_of_neg (by decide)]
      rfl

theorem toUpper_of_isSuffix {s : List Char} (h : IsSuffix s) : toUpper s = s := by
  rcases h with rfl | ⟨digits, rfl, hdigits⟩
  · rfl
  · change toUpper (['('] ++ (digits ++ [')'])) = _
    rw [Text.toUpper_append, Text.toUpper_append, Text.toUpper_of_isDecimalDigit hdigits]
    rfl

/-- A reported spelling in upper case is the keyword before parentheses or nothing. -/
theorem toUpper_of_isReported {s : List Char} (h : isReported s = true) :
    ∃ suffix, IsSuffix suffix ∧ toUpper s = keyword ++ suffix := by
  obtain ⟨word, suffix, rfl, hword, hsuffix⟩ := isReported_iff.mp h
  refine ⟨suffix, hsuffix, ?_⟩
  rw [Text.toUpper_append, toUpper_of_agrees (by decide) hword, toUpper_of_isSuffix hsuffix]

theorem isReported_keyword_append {suffix : List Char} (h : IsSuffix suffix) :
    isReported (keyword ++ suffix) = true := by
  refine isReported_iff.mpr ⟨keyword, suffix, rfl, ?_, h⟩
  exact agrees_of_map_toUpper (by decide)

/-- A character that is the ASCII upper case of another one is that one, or a capital letter. -/
theorem eq_of_toUpper_eq {c x : Char} (h : c.toUpper = x) (hx : ¬ (65 ≤ x.toNat ∧ x.toNat ≤ 90)) :
    c = x := by
  by_cases hc : c.toNat < 128
  · have hcases : ∀ n < 128, (Char.ofNat n).toUpper = Char.ofNat n ∨
        65 ≤ (Char.ofNat n).toUpper.toNat ∧ (Char.ofNat n).toUpper.toNat ≤ 90 := by decide
    have hself := hcases c.toNat hc
    rw [Char.ofNat_toNat, h] at hself
    rcases hself with hself | hcapital
    · exact hself.symm
    · exact absurd hcapital hx
  · rw [← h, Text.toUpper_eq_self hc]

theorem not_capital_of_isDecimalDigit {c : Char} (h : isDecimalDigit c = true) :
    ¬ (65 ≤ c.toNat ∧ c.toNat ≤ 90) := by
  obtain ⟨n, hn, hrange⟩ := List.any_eq_true.mp h
  simp only [Bool.and_eq_true, decide_eq_true_eq] at hrange
  have hdigit : ∀ n ∈ Text.digitZeros, n + 9 < 65 ∨ 90 < n := by decide
  have := hdigit n hn
  omega

theorem eq_of_map_toUpper {s t : List Char} (h : s.map Char.toUpper = t)
    (ht : ∀ x ∈ t, ¬ (65 ≤ x.toNat ∧ x.toNat ≤ 90)) : s = t := by
  subst h
  refine (List.map_id' s).symm.trans (List.map_congr_left fun c hc => ?_)
  exact eq_of_toUpper_eq rfl (ht _ (List.mem_map_of_mem hc))

theorem IsSuffix.not_capital {s : List Char} (h : IsSuffix s) :
    ∀ c ∈ s, ¬ (65 ≤ c.toNat ∧ c.toNat ≤ 90) := by
  intro c hc
  rcases h.parenthesis_or_digit hc with rfl | hdigit | rfl
  · decide
  · exact not_capital_of_isDecimalDigit hdigit
  · decide

/-- A text whose ASCII upper case is the keyword before parentheses or nothing is a reported
spelling, and that is its upper case. -/
theorem isReported_of_map_toUpper {s suffix : List Char} (hsuffix : IsSuffix suffix)
    (h : s.map Char.toUpper = keyword ++ suffix) :
    isReported s = true ∧ toUpper s = keyword ++ suffix := by
  obtain ⟨word, rest, rfl, hword, hrest⟩ := List.map_eq_append_iff.mp h
  obtain rfl := eq_of_map_toUpper hrest hsuffix.not_capital
  have hagrees := agrees_of_map_toUpper hword
  refine ⟨isReported_iff.mpr ⟨word, rest, rfl, hagrees, hsuffix⟩, ?_⟩
  rw [Text.toUpper_append, toUpper_of_agrees (by decide) hagrees, toUpper_of_isSuffix hsuffix]

/-! ### The one spelling -/

/-- A keyword in any letter case at the start of a text names the current time if the word ends with
it. -/
theorem named_append {word rest : List Char} (hword : word.map Char.toUpper ∈ keywords)
    (h : startsInWord rest = false) : named (word ++ rest) = true := by
  have hne : word ≠ [] := by
    rintro rfl
    exact absurd hword (by decide)
  obtain ⟨c, cs, hcons⟩ := List.exists_cons_of_ne_nil (List.append_ne_nil_of_left_ne_nil hne rest)
  have hafter : afterKeyword? (word.map Char.toUpper) (c :: cs) = some rest :=
    afterKeyword?_eq_some_iff.mpr ⟨word, hcons.symm, agrees_of_map_toUpper rfl⟩
  have hoccurs : occursAsWord (word.map Char.toUpper) false (c :: cs) = true := by
    simp [occursAsWord, hafter, h]
  rw [named, List.any_eq_true, hcons]
  exact ⟨_, hword, hoccurs⟩

theorem named_keyword_append {rest : List Char} (h : startsInWord rest = false) :
    named (keyword ++ rest) = true :=
  named_append (by decide) h

/-- Texts that name the current time with one precision have one spelling. -/
theorem canonical_eq_of_named {s t : List Char} (hs : named s = true) (ht : named t = true)
    (h : precision? s = precision? t) (flavor : Flavor) : canonical flavor s = canonical flavor t := by
  simp only [canonical, hs, ht, h, if_true]

theorem precisionHere?_of_ne {c : Char} (h : c ≠ '(') (s : List Char) :
    precisionHere? (c :: s) = none := by
  unfold precisionHere?
  split
  case h_1 heq => exact absurd (List.cons.inj heq).1 h
  case h_2 => rfl

/-- Only parentheses have a precision. -/
theorem precision?_append {s : List Char} (h : '(' ∉ s) (t : List Char) :
    precision? (s ++ t) = precision? t := by
  induction s with
  | nil => rfl
  | cons c cs ih =>
    have hc : c ≠ '(' := by
      rintro rfl
      exact h List.mem_cons_self
    rw [List.cons_append, precision?, precisionHere?_of_ne hc]
    exact ih fun hmem => h (List.mem_cons_of_mem c hmem)

theorem precision?_eq_none {s : List Char} (h : '(' ∉ s) : precision? s = none := by
  have happend := precision?_append h []
  rwa [List.append_nil] at happend

theorem precisionHere?_digits {digits : List Char}
    (hdigits : ∀ c ∈ digits, isDecimalDigit c = true) (rest : List Char) :
    precisionHere? ('(' :: (digits ++ ')' :: rest)) =
      if digits = [] then none else some ('(' :: (digits ++ [')'])) := by
  rw [precisionHere?, List.takeWhile_append_of_pos hdigits, List.dropWhile_append_of_pos hdigits,
    List.takeWhile_cons_of_neg (by decide), List.dropWhile_cons_of_neg (by decide),
    List.append_nil]
  cases digits <;> rfl

/-- Behind the parentheses no other ones count. -/
theorem IsSuffix.precision?_append {suffix : List Char} (hsuffix : IsSuffix suffix)
    {rest : List Char} (h : '(' ∉ rest) : precision? (suffix ++ rest) = precision? suffix := by
  rcases hsuffix with rfl | ⟨digits, rfl, hdigits⟩
  · rw [List.nil_append, precision?_eq_none h]
    rfl
  · have hclose : ∀ t, '(' ∉ t → precision? (digits ++ ')' :: t) = none := by
      intro t ht
      refine precision?_eq_none ?_
      rw [List.mem_append, List.mem_cons, not_or, not_or]
      refine ⟨fun hmem => ?_, by decide, ht⟩
      exact absurd (hdigits _ hmem) (by decide)
    rw [List.cons_append, List.append_assoc, List.singleton_append, precision?, precision?,
      precisionHere?_digits hdigits, precisionHere?_digits hdigits, hclose rest h,
      hclose [] List.not_mem_nil]

/-- Parentheses with digits between them. -/
def IsPrecision (p : List Char) : Prop :=
  ∃ digits, digits ≠ [] ∧ (∀ c ∈ digits, isDecimalDigit c = true) ∧ p = '(' :: (digits ++ [')'])

theorem precisionHere?_eq_some_iff {s p : List Char} :
    precisionHere? s = some p ↔ IsPrecision p ∧ p <+: s := by
  constructor
  · intro h
    unfold precisionHere? at h
    split at h
    case h_1 s =>
      dsimp only at h
      split at h
      case h_1 d ds tail rest hdigits hrest =>
        obtain rfl := Option.some.inj h
        refine ⟨⟨_, by simp [hdigits], fun c hc => List.mem_takeWhile_imp hc, rfl⟩, rest, ?_⟩
        have hs := List.takeWhile_append_dropWhile (p := isDecimalDigit) (l := s)
        rw [hrest] at hs
        simpa using hs
      case h_2 => cases h
    case h_2 => cases h
  · rintro ⟨⟨digits, hne, hdigits, rfl⟩, rest, rfl⟩
    have hread := precisionHere?_digits hdigits rest
    rw [if_neg hne] at hread
    simpa using hread

namespace IsPrecision

variable {p : List Char}

theorem isSuffix (h : IsPrecision p) : IsSuffix p := by
  obtain ⟨digits, -, hdigits, rfl⟩ := h
  exact .inr ⟨digits, rfl, hdigits⟩

/-- A precision has itself as its precision. -/
theorem precision?_eq (h : IsPrecision p) : precision? p = some p := by
  have hhere : precisionHere? p = some p := precisionHere?_eq_some_iff.mpr ⟨h, List.prefix_refl p⟩
  obtain ⟨digits, -, -, rfl⟩ := h
  rw [precision?, hhere]

end IsPrecision

/-- A precision that is found stands in the text. -/
theorem precision?_eq_some {s p : List Char} (h : precision? s = some p) :
    IsPrecision p ∧ p <:+: s := by
  induction s with
  | nil => cases h
  | cons c cs ih =>
    rw [precision?] at h
    split at h
    case h_1 q hq =>
      obtain rfl := Option.some.inj h
      obtain ⟨hp, hprefix⟩ := precisionHere?_eq_some_iff.mp hq
      exact ⟨hp, hprefix.isInfix⟩
    case h_2 =>
      obtain ⟨hp, hinfix⟩ := ih h
      exact ⟨hp, List.infix_cons_iff.mpr (.inr hinfix)⟩

/-- A precision is a suffix of a reported spelling, and has itself as its precision. -/
theorem isSuffix_of_precision? {s p : List Char} (h : precision? s = some p) :
    IsSuffix p ∧ precision? p = some p := by
  obtain ⟨hp, -⟩ := precision?_eq_some h
  exact ⟨hp.isSuffix, hp.precision?_eq⟩

theorem IsSuffix.map_toUpper {s : List Char} (h : IsSuffix s) : s.map Char.toUpper = s := by
  refine (List.map_congr_left fun c hc => ?_).trans (List.map_id' s)
  rcases h.parenthesis_or_digit hc with rfl | hdigit | rfl
  · rfl
  · exact Text.toUpper_eq_self_of_isDecimalDigit hdigit
  · rfl

end TableMapping.Timestamp
