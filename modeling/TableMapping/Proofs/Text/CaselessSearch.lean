import TableMapping.Proofs.Text.LetterCase

/-!
# Searching in lower case

A word is sought in any letter case by searching the lower case of a text.  Hardly any character
beyond ASCII has ASCII letters in its lower case, so for most words each occurrence in the lower
case is one in the text, and the first is the first.  The text in front of it may be longer or
shorter in lower case than it is, but its size in bytes there depends on nothing that is around it.

## Main definitions

* `Text.lowerAt` : the lower case of a character in its place.
* `Text.IsPlain` : the words whose letters are the lower case of ASCII characters only.
* `Text.Occurs` : a word in some letter case between two parts of a text.
* `Text.OccursFirst` : its first occurrence.

## Main results

* `Text.eq_of_mem_lowerChar` : which characters have an ASCII character in their lower case.
* `Text.exists_of_toLowerAfter_eq_append` : what a text begins with in lower case.
* `Text.splitFirst_toLowerAfter` : what a search in lower case finds.
-/

namespace TableMapping.Text

/-! ### ASCII characters in lower case -/

theorem CaseRun.exists_of_apply_eq_some {runs : List CaseRun} {n m : ℕ}
    (h : apply runs n = some m) :
    ∃ r ∈ runs, r.first ≤ n ∧ n ≤ r.last ∧ m = r.target + (n - r.first) := by
  induction runs with
  | nil => exact absurd h (by simp [apply])
  | cons r rest ih =>
    rw [apply] at h
    split at h
    case isTrue hr =>
      simp only [Bool.and_eq_true, decide_eq_true_eq] at hr
      exact ⟨r, List.mem_cons_self, hr.1.1, hr.1.2, (Option.some.inj h).symm⟩
    case isFalse =>
      obtain ⟨r', hr', hfound⟩ := ih h
      exact ⟨r', List.mem_cons_of_mem r hr', hfound⟩

/-- The lower-case counterparts are characters beyond ASCII, but for that of the kelvin sign. -/
theorem lowerRuns_targets :
    lowerRuns.all (fun r => r.first == r.last && r.target == 0x6b || 128 ≤ r.target &&
      (r.target + (r.last - r.first) < 0xd800 ||
        0xdfff < r.target && r.target + (r.last - r.first) < 0x110000)) = true := by
  decide

theorem toNat_ofNat_of_isValidChar {n : ℕ} (h : n.isValidChar) : (Char.ofNat n).toNat = n := by
  rw [Char.ofNat, dif_pos h]
  rfl

/-- Only ASCII characters, the dotted capital I and the kelvin sign have an ASCII character in their
lower case. -/
theorem eq_of_mem_lowerChar {c x : Char} (hx : x ∈ lowerChar c) (hascii : x.toNat < 128) :
    c.toNat < 128 ∧ x = c.toLower ∨ x = 'i' ∨ x = 'k' := by
  rw [lowerChar] at hx
  split at hx
  case isTrue hc => exact .inl ⟨hc, List.mem_singleton.mp hx⟩
  case isFalse hc =>
    split at hx
    case isTrue =>
      rcases List.mem_pair.mp hx with rfl | rfl
      · exact .inr (.inl rfl)
      · exact absurd hascii (by decide)
    case isFalse =>
      split at hx
      case h_1 n hn =>
        obtain ⟨r, hr, hfirst, hlast, rfl⟩ := CaseRun.exists_of_apply_eq_some hn
        have htarget := List.all_eq_true.mp lowerRuns_targets r hr
        simp only [Bool.or_eq_true, Bool.and_eq_true, beq_iff_eq, decide_eq_true_eq] at htarget
        rw [List.mem_singleton] at hx
        rcases htarget with ⟨hsingle, hkelvin⟩ | ⟨hbeyond, hvalid⟩
        · have hn : r.target + (c.toNat - r.first) = 0x6b := by omega
          rw [hn] at hx
          exact .inr (.inr hx)
        · have hvalid : (r.target + (c.toNat - r.first)).isValidChar := by
            rw [Nat.isValidChar]
            omega
          rw [hx, toNat_ofNat_of_isValidChar hvalid] at hascii
          omega
      case h_2 =>
        rw [List.mem_singleton] at hx
        exact absurd (hx ▸ hascii) hc

theorem lowerChar_ne_nil (c : Char) : lowerChar c ≠ [] := by
  unfold lowerChar
  split_ifs
  · simp
  · simp
  · split <;> simp

/-! ### Characters in their places -/

/-- The lower case of a character between others. -/
def lowerAt (before : List Char) (c : Char) (rest : List Char) : List Char :=
  if c.toNat == 0x3a3 then
    (if meetsCased before && !meetsCased rest then [Char.ofNat 0x3c2] else [Char.ofNat 0x3c3])
  else lowerChar c

theorem toLowerAfter_cons (before : List Char) (c : Char) (rest : List Char) :
    toLowerAfter before (c :: rest) = lowerAt before c rest ++ toLowerAfter (c :: before) rest :=
  rfl

theorem lowerAt_ne_nil (before : List Char) (c : Char) (rest : List Char) :
    lowerAt before c rest ≠ [] := by
  unfold lowerAt
  split_ifs
  · simp
  · simp
  · exact lowerChar_ne_nil c

theorem lowerAt_of_ascii {c : Char} (hc : c.toNat < 128) (before rest : List Char) :
    lowerAt before c rest = [c.toLower] := by
  have hsigma : ¬ (c.toNat == 0x3a3) = true := by
    rw [beq_iff_eq]
    omega
  rw [lowerAt, if_neg hsigma, lowerChar_of_ascii hc]

theorem eq_of_mem_lowerAt {before rest : List Char} {c x : Char} (hx : x ∈ lowerAt before c rest)
    (hascii : x.toNat < 128) : c.toNat < 128 ∧ x = c.toLower ∨ x = 'i' ∨ x = 'k' := by
  rw [lowerAt] at hx
  split_ifs at hx
  · rw [List.mem_singleton.mp hx] at hascii
    exact absurd hascii (by decide)
  · rw [List.mem_singleton.mp hx] at hascii
    exact absurd hascii (by decide)
  · exact eq_of_mem_lowerChar hx hascii

/-- The two small sigmas have one size. -/
theorem utf8Size_map_mergeSigma (s : List Char) : utf8Size (s.map mergeSigma) = utf8Size s := by
  induction s with
  | nil => rfl
  | cons c cs ih =>
    have hmerge : (mergeSigma c).utf8Size = c.utf8Size := by
      rw [mergeSigma]
      split_ifs with hc
      · rw [hc]
        rfl
      · rfl
    rw [List.map_cons, utf8Size, utf8Size, hmerge, ih]

/-- The size of a text in lower case does not depend on what is before it. -/
theorem utf8Size_toLowerAfter (before s : List Char) :
    utf8Size (toLowerAfter before s) = utf8Size (lowerApart s) := by
  rw [← utf8Size_map_mergeSigma, map_mergeSigma_toLowerAfter, utf8Size_map_mergeSigma]

theorem utf8Size_lowerAt (before : List Char) (c : Char) (rest : List Char) :
    utf8Size (lowerAt before c rest) = utf8Size (lowerChar c) := by
  have hsize := utf8Size_toLowerAfter before (c :: rest)
  rw [toLowerAfter_cons, lowerApart_cons, utf8Size_append, utf8Size_append,
    utf8Size_toLowerAfter] at hsize
  exact Nat.add_right_cancel hsize

/-! ### Words in any letter case -/

/-- The letters of a word are the lower case of ASCII characters only. -/
def IsPlain (pattern : List Char) : Prop := ∀ x ∈ pattern, x.toNat < 128 ∧ x ≠ 'i' ∧ x ≠ 'k'

instance (pattern : List Char) : Decidable (IsPlain pattern) :=
  inferInstanceAs (Decidable (∀ x ∈ pattern, x.toNat < 128 ∧ x ≠ 'i' ∧ x ≠ 'k'))

variable {pattern s : List Char}

/-- A letter of a plain word comes from an ASCII character by itself. -/
theorem IsPlain.eq_toLower (h : IsPlain pattern) {before rest : List Char} {c x : Char}
    (hx : x ∈ lowerAt before c rest) (hpattern : x ∈ pattern) :
    x = c.toLower ∧ lowerAt before c rest = [x] := by
  obtain ⟨hascii, hi, hk⟩ := h x hpattern
  rcases eq_of_mem_lowerAt hx hascii with ⟨hc, rfl⟩ | rfl | rfl
  · exact ⟨rfl, lowerAt_of_ascii hc before rest⟩
  · exact absurd rfl hi
  · exact absurd rfl hk

/-- A text that begins with a plain word in lower case begins with it in some letter case. -/
theorem exists_of_toLowerAfter_eq_append (h : IsPlain pattern) {before after : List Char}
    (heq : toLowerAfter before s = pattern ++ after) :
    ∃ word rest, s = word ++ rest ∧ word.map Char.toLower = pattern ∧
      toLowerAfter (word.reverse ++ before) rest = after := by
  induction pattern generalizing before s with
  | nil => exact ⟨[], s, rfl, rfl, heq⟩
  | cons x xs ih =>
    cases s with
    | nil => exact absurd heq (by simp [toLowerAfter])
    | cons c cs =>
      obtain ⟨y, ys, hlower⟩ := List.exists_cons_of_ne_nil (lowerAt_ne_nil before c cs)
      rw [toLowerAfter_cons, hlower, List.cons_append, List.cons_append, List.cons.injEq] at heq
      obtain ⟨rfl, hrest⟩ := heq
      have hmem : y ∈ lowerAt before c cs := hlower ▸ List.mem_cons_self
      obtain ⟨hy, hsingle⟩ := h.eq_toLower hmem List.mem_cons_self
      obtain rfl := (List.cons.inj (hlower.symm.trans hsingle)).2
      obtain ⟨word, rest, rfl, hword, hafter⟩ :=
        ih (fun z hz => h z (List.mem_cons_of_mem y hz)) hrest
      refine ⟨c :: word, rest, rfl, ?_, ?_⟩
      · rw [List.map_cons, hword, ← hy]
      · rw [← hafter, List.reverse_cons, List.append_assoc]
        rfl

theorem IsPlain.isAscii (h : IsPlain pattern) : IsAscii pattern := fun x hx => (h x hx).1

/-- The word is ASCII in every letter case. -/
theorem IsPlain.isAscii_word (h : IsPlain pattern) {word : List Char}
    (hword : word.map Char.toLower = pattern) : IsAscii word := by
  refine isAscii_of_map_toLower ?_
  rw [hword]
  exact h.isAscii

/-- Conversely the word is in lower case there. -/
theorem IsPlain.toLowerAfter_append (h : IsPlain pattern) {word : List Char}
    (hword : word.map Char.toLower = pattern) (before rest : List Char) :
    toLowerAfter before (word ++ rest) =
      pattern ++ toLowerAfter (word.reverse ++ before) rest := by
  rw [Text.toLowerAfter_append (h.isAscii_word hword), hword]

/-! ### The first occurrence -/

/-- A word stands between two parts of a text, in some letter case. -/
def Occurs (pattern s before word after : List Char) : Prop :=
  s = before ++ (word ++ after) ∧ word.map Char.toLower = pattern

/-- No other occurrence begins farther to the front. -/
structure OccursFirst (pattern s before word after : List Char) : Prop where
  occurs : Occurs pattern s before word after
  first : ∀ before' word' after', Occurs pattern s before' word' after' →
    before.length ≤ before'.length

theorem occurs_cons_cons {c d : Char} {cs front word rest : List Char} :
    Occurs pattern (c :: cs) (d :: front) word rest ↔ c = d ∧ Occurs pattern cs front word rest := by
  rw [Occurs, Occurs, List.cons_append, List.cons.injEq, and_assoc]

theorem not_occurs_nil (hne : pattern ≠ []) (front word rest : List Char) :
    ¬ Occurs pattern [] front word rest := by
  rintro ⟨hs, hword⟩
  have hnil : word = [] := (List.append_eq_nil_iff.mp (List.append_eq_nil_iff.mp hs.symm).2).1
  rw [hnil] at hword
  exact hne hword.symm

/-- The first occurrence stays the first if no word begins with the character in front. -/
theorem OccursFirst.cons {c : Char} {cs front word rest : List Char}
    (h : OccursFirst pattern cs front word rest)
    (hnot : ∀ word rest, ¬ Occurs pattern (c :: cs) [] word rest) :
    OccursFirst pattern (c :: cs) (c :: front) word rest where
  occurs := occurs_cons_cons.mpr ⟨rfl, h.occurs⟩
  first := by
    rintro (_ | ⟨d, front'⟩) word' rest' hoccurs
    · exact absurd hoccurs (hnot word' rest')
    · exact Nat.succ_le_succ (h.first front' word' rest' (occurs_cons_cons.mp hoccurs).2)

/-- There is only one first occurrence. -/
theorem OccursFirst.unique {front word rest front' word' rest' : List Char}
    (h : OccursFirst pattern s front word rest) (h' : OccursFirst pattern s front' word' rest') :
    front = front' ∧ word = word' ∧ rest = rest' := by
  obtain ⟨hs, hword⟩ := h.occurs
  obtain ⟨hs', hword'⟩ := h'.occurs
  have hlength : front.length = front'.length :=
    Nat.le_antisymm (h.first _ _ _ h'.occurs) (h'.first _ _ _ h.occurs)
  have hlength' : word.length = word'.length := by
    rw [← List.length_map Char.toLower, hword, ← hword', List.length_map]
  obtain ⟨hfront, hbehind⟩ := List.append_inj (hs.symm.trans hs') hlength
  exact ⟨hfront, List.append_inj hbehind hlength'⟩

theorem splitFirst_cons {c : Char} {cs : List Char} (h : ¬ pattern <+: c :: cs) :
    splitFirst pattern (c :: cs) =
      (splitFirst pattern cs).map fun (before, after) => (c :: before, after) := by
  rw [splitFirst, startsWith?_eq_none_iff.mpr h]

/-- The search finds the first occurrence of a pattern. -/
theorem length_le_of_splitFirst {before after front rest : List Char}
    (h : splitFirst pattern s = some (before, after)) (hs : s = front ++ (pattern ++ rest)) :
    before.length ≤ front.length := by
  induction s generalizing before after front with
  | nil =>
    obtain ⟨_, _, heq⟩ := Option.map_eq_some_iff.mp h
    obtain ⟨rfl, -⟩ := Prod.mk.inj heq
    exact Nat.zero_le _
  | cons c cs ih =>
    by_cases hstart : pattern <+: c :: cs
    · obtain ⟨behind, hbehind⟩ := hstart
      rw [splitFirst, startsWith?_eq_some_iff.mpr hbehind.symm] at h
      obtain ⟨rfl, -⟩ := Prod.mk.inj (Option.some.inj h)
      exact Nat.zero_le _
    · rw [splitFirst_cons hstart] at h
      obtain ⟨⟨lower, _⟩, hsearch, heq⟩ := Option.map_eq_some_iff.mp h
      obtain ⟨rfl, -⟩ := Prod.mk.inj heq
      cases front with
      | nil => exact absurd ⟨rest, hs.symm⟩ hstart
      | cons d front => exact Nat.succ_le_succ (ih hsearch (List.cons.inj hs).2)

/-! ### Searching -/

/-- The first occurrence in any letter case is the first one in the text with its ASCII letters in
lower case. -/
theorem occursFirst_of_splitFirst {front word rest : List Char}
    (hoccurs : Occurs pattern s front word rest)
    (h : splitFirst pattern (asciiLower s) = some (asciiLower front, asciiLower rest)) :
    OccursFirst pattern s front word rest where
  occurs := hoccurs
  first := by
    rintro front' word' rest' ⟨hs, hword⟩
    have hlower : asciiLower s = asciiLower front' ++ (pattern ++ asciiLower rest') := by
      rw [hs, asciiLower, List.map_append, List.map_append, hword]
      rfl
    have hlength := length_le_of_splitFirst h hlower
    rwa [asciiLower, asciiLower, List.length_map, List.length_map] at hlength

theorem splitFirst_append_self (hne : pattern ≠ []) (rest : List Char) :
    splitFirst pattern (pattern ++ rest) = some ([], rest) := by
  have hstart : startsWith? pattern (pattern ++ rest) = some rest :=
    startsWith?_eq_some_iff.mpr rfl
  cases pattern with
  | nil => exact absurd rfl hne
  | cons p ps => rw [List.cons_append, splitFirst, ← List.cons_append, hstart]

/-- Characters that a pattern does not have are passed over. -/
theorem splitFirst_append_of_disjoint (hne : pattern ≠ []) {front : List Char}
    (h : ∀ x ∈ front, x ∉ pattern) (rest : List Char) :
    splitFirst pattern (front ++ rest) =
      (splitFirst pattern rest).map fun (before, after) => (front ++ before, after) := by
  induction front with
  | nil => exact Option.map_id'.symm
  | cons c cs ih =>
    have hstart : ¬ pattern <+: c :: (cs ++ rest) := by
      obtain ⟨p, ps, rfl⟩ := List.exists_cons_of_ne_nil hne
      rw [List.cons_prefix_cons]
      rintro ⟨rfl, -⟩
      exact h p List.mem_cons_self List.mem_cons_self
    rw [List.cons_append, splitFirst_cons hstart, ih fun x hx => h x (List.mem_cons_of_mem c hx),
      Option.map_map]
    rfl

/-- A character where a word does not begin is passed over in lower case as a whole. -/
theorem IsPlain.splitFirst_toLowerAfter_cons (h : IsPlain pattern) (hne : pattern ≠ [])
    {before cs : List Char} {c : Char} (hstart : ¬ pattern <+: toLowerAfter before (c :: cs)) :
    splitFirst pattern (toLowerAfter before (c :: cs)) =
      (splitFirst pattern (toLowerAfter (c :: before) cs)).map fun (lower, after) =>
        (lowerAt before c cs ++ lower, after) := by
  rw [toLowerAfter_cons] at hstart ⊢
  by_cases hmem : ∃ x ∈ lowerAt before c cs, x ∈ pattern
  · obtain ⟨x, hx, hpattern⟩ := hmem
    rw [(h.eq_toLower hx hpattern).2, List.singleton_append] at hstart ⊢
    exact splitFirst_cons hstart
  · exact splitFirst_append_of_disjoint hne (fun x hx hpattern => hmem ⟨x, hx, hpattern⟩) _

/-- **What a search in lower case finds.**  Either the word occurs nowhere in the text, and nothing
is found, or its first occurrence is found, behind a text of the size that the text in front of it
has in lower case. -/
theorem splitFirst_toLowerAfter (h : IsPlain pattern) (hne : pattern ≠ []) (before s : List Char) :
    ((∀ front word rest, ¬ Occurs pattern s front word rest) ∧
      splitFirst pattern (toLowerAfter before s) = none) ∨
    ∃ front word rest lower after, OccursFirst pattern s front word rest ∧
      splitFirst pattern (toLowerAfter before s) = some (lower, after) ∧
      utf8Size lower = utf8Size (toLower front) := by
  induction s generalizing before with
  | nil =>
    refine .inl ⟨not_occurs_nil hne, ?_⟩
    rw [toLowerAfter, splitFirst_eq_none_iff, List.infix_nil]
    exact hne
  | cons c cs ih =>
    by_cases hstart : pattern <+: toLowerAfter before (c :: cs)
    · obtain ⟨after, hafter⟩ := hstart
      obtain ⟨word, rest, hs, hword, -⟩ := exists_of_toLowerAfter_eq_append h hafter.symm
      refine .inr ⟨[], word, rest, [], after, ⟨⟨hs, hword⟩, fun _ _ _ _ => Nat.zero_le _⟩, ?_, rfl⟩
      rw [← hafter, splitFirst_append_self hne]
    · have hnot : ∀ word rest, ¬ Occurs pattern (c :: cs) [] word rest := by
        rintro word rest ⟨hs, hword⟩
        refine hstart ⟨toLowerAfter (word.reverse ++ before) rest, ?_⟩
        rw [hs, List.nil_append, h.toLowerAfter_append hword]
      rw [h.splitFirst_toLowerAfter_cons hne hstart]
      rcases ih (c :: before) with ⟨hnone, hsearch⟩ | ⟨front, word, rest, lower, after, hfirst,
        hsearch, hsize⟩
      · refine .inl ⟨?_, by rw [hsearch]; rfl⟩
        rintro (_ | ⟨d, front⟩) word rest hoccurs
        · exact hnot word rest hoccurs
        · exact hnone front word rest (occurs_cons_cons.mp hoccurs).2
      · refine .inr ⟨c :: front, word, rest, lowerAt before c cs ++ lower, after, hfirst.cons hnot,
          by rw [hsearch]; rfl, ?_⟩
        rw [utf8Size_append, utf8Size_lowerAt, hsize, toLower, toLower, utf8Size_toLowerAfter,
          utf8Size_toLowerAfter, lowerApart_cons, utf8Size_append]

end TableMapping.Text
