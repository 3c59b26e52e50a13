import Mathlib.Data.List.Basic
import TableMapping.Proofs.Text.Occurrence
import TableMapping.Text.Case
import TableMapping.Text.Digit
import TableMapping.Text.Utf8

/-!
# Letter case and occurrences

ASCII characters change their case one by one and keep their size in bytes, and decimal digits of any
script have no case.  The lower case of a capital sigma depends on what is around it; a pattern
without sigmas occurs in a text in lower case no matter what is before the text.

## Main definitions

* `Text.IsAscii` : all characters of a text are ASCII.
* `Text.lowerApart` : the lower case of each character by itself.

## Main results

* `Text.toLowerAfter_append` : lower case after an ASCII text.
* `Text.toUpper_of_isDecimalDigit` : digits in upper case.
* `Text.isInfix_toLowerAfter_iff` : occurrences in a text in lower case.
* `Text.dropBytes?_utf8Size` : a text without as many bytes as a text in front of it has.
* `Text.dropBytes?_eq_some_iff` : what is left without a number of bytes.
-/

namespace TableMapping.Text

/-- What is said of all characters of a text is decided character by character of the text, and not
over all the characters that there are. -/
instance decidableForallMem {p : Char → Prop} [DecidablePred p] (s : List Char) :
    Decidable (∀ c ∈ s, p c) :=
  List.decidableBAll p s

/-- All characters are ASCII. -/
def IsAscii (s : List Char) : Prop := ∀ c ∈ s, c.toNat < 128

theorem isAscii_nil : IsAscii [] := by simp [IsAscii]

theorem isAscii_cons {c : Char} {s : List Char} :
    IsAscii (c :: s) ↔ c.toNat < 128 ∧ IsAscii s := by
  simp [IsAscii]

theorem isAscii_append {s t : List Char} : IsAscii (s ++ t) ↔ IsAscii s ∧ IsAscii t := by
  simp [IsAscii, or_imp, forall_and]

instance (s : List Char) : Decidable (IsAscii s) :=
  inferInstanceAs (Decidable (∀ c ∈ s, c.toNat < 128))

/-- What holds of each ASCII character holds of a character that is ASCII. -/
theorem ascii_cases {p : Char → Prop} (h : ∀ n < 128, p (Char.ofNat n)) {c : Char}
    (hc : c.toNat < 128) : p c := by
  have hofNat := h c.toNat hc
  rwa [Char.ofNat_toNat] at hofNat

/-! ### One case -/

theorem lowerChar_of_ascii {c : Char} (h : c.toNat < 128) : lowerChar c = [c.toLower] := by
  rw [lowerChar, if_pos h]

theorem upperChar_of_ascii {c : Char} (h : c.toNat < 128) : upperChar c = [c.toUpper] := by
  rw [upperChar, if_pos h]

/-- A character beyond ASCII stays as it is. -/
theorem toUpper_eq_self {c : Char} (h : ¬ c.toNat < 128) : c.toUpper = c := by
  refine dif_neg ?_
  rw [UInt32.le_iff_toNat_le, UInt32.le_iff_toNat_le]
  change ¬ (97 ≤ c.toNat ∧ c.toNat ≤ 122)
  omega

theorem toLower_eq_self {c : Char} (h : ¬ c.toNat < 128) : c.toLower = c := by
  refine dif_neg ?_
  rw [ge_iff_le, UInt32.le_iff_toNat_le]
  change ¬ (65 ≤ c.toNat ∧ c.toNat ≤ 90)
  omega

theorem toLower_toNat_lt {c : Char} (h : c.toNat < 128) : c.toLower.toNat < 128 := by
  refine ascii_cases (p := fun c => c.toLower.toNat < 128) ?_ h
  decide

/-- An ASCII character is its own lower case if it is no capital letter. -/
theorem toLower_eq_self_iff {c : Char} (h : c.toNat < 128) : c.toLower = c ↔ c.isUpper = false := by
  refine ascii_cases (p := fun c => c.toLower = c ↔ c.isUpper = false) ?_ h
  decide

/-- A text is ASCII if it is with its ASCII letters in lower case. -/
theorem isAscii_of_map_toLower {s : List Char} (h : IsAscii (s.map Char.toLower)) : IsAscii s := by
  intro c hc
  have hlower : c.toLower.toNat < 128 := h _ (List.mem_map_of_mem hc)
  by_contra hge
  rw [toLower_eq_self hge] at hlower
  exact hge hlower

/-- ASCII characters go to lower case one by one, whatever is around them. -/
theorem toLowerAfter_append {s : List Char} (h : IsAscii s) (before t : List Char) :
    toLowerAfter before (s ++ t) = s.map Char.toLower ++ toLowerAfter (s.reverse ++ before) t := by
  induction s generalizing before with
  | nil => rfl
  | cons c cs ih =>
    obtain ⟨hc, hcs⟩ := isAscii_cons.mp h
    have hsigma : (c.toNat == 0x3a3) = false := by
      rw [beq_eq_false_iff_ne]
      omega
    rw [List.cons_append, toLowerAfter, hsigma, lowerChar_of_ascii hc, ih hcs]
    simp

theorem toLower_of_isAscii {s : List Char} (h : IsAscii s) : toLower s = s.map Char.toLower := by
  have hlower := toLowerAfter_append h [] []
  rw [List.append_nil] at hlower
  rw [toLower, hlower, toLowerAfter, List.append_nil]

theorem toUpper_append (s t : List Char) : toUpper (s ++ t) = toUpper s ++ toUpper t :=
  List.flatMap_append

theorem toUpper_of_isAscii {s : List Char} (h : IsAscii s) : toUpper s = s.map Char.toUpper := by
  rw [toUpper, List.map_eq_flatMap]
  exact List.flatMap_congr fun c hc => upperChar_of_ascii (h c hc)

/-! ### Digits -/

theorem isDecimalDigit_of_isDigit {c : Char} (h : c.isDigit = true) : isDecimalDigit c = true := by
  have hc : 48 ≤ c.toNat ∧ c.toNat ≤ 57 := Char.isDigit_iff_toNat.mp h
  refine List.any_eq_true.mpr ⟨0x30, by decide, ?_⟩
  simpa using hc

theorem digitZeros_disjoint_upperRuns :
    digitZeros.all (fun n => upperRuns.all fun r => r.last < n || n + 9 < r.first) = true := by
  -- the runs are too many for the elaborator, so the kernel goes through them
  decide +kernel

theorem digitZeros_disjoint_upperExpansions :
    digitZeros.all (fun n => upperExpansions.all fun e => e.1 < n || n + 9 < e.1) = true := by
  decide

theorem CaseRun.apply_eq_none {runs : List CaseRun} {n : Nat}
    (h : ∀ r ∈ runs, r.last < n ∨ n < r.first) : apply runs n = none := by
  induction runs with
  | nil => rfl
  | cons r rest ih =>
    have hr : ¬ (r.first ≤ n && n ≤ r.last && (n - r.first) % r.step == 0) = true := by
      have := h r List.mem_cons_self
      simp only [Bool.and_eq_true, decide_eq_true_eq]
      omega
    rw [apply, if_neg hr, ih fun r' hr' => h r' (List.mem_cons_of_mem r hr')]

/-- A decimal digit has no upper case. -/
theorem upperChar_of_isDecimalDigit {c : Char} (h : isDecimalDigit c = true) :
    upperChar c = [c] := by
  obtain ⟨n, hn, hrange⟩ := List.any_eq_true.mp h
  simp only [Bool.and_eq_true, decide_eq_true_eq] at hrange
  by_cases hc : c.toNat < 128
  · have hdigit : ∀ n ∈ digitZeros, n < 128 → n = 48 := by decide
    have hzero := hdigit n hn (by omega)
    have hupper : ∀ n < 128, 48 ≤ n ∧ n ≤ 57 → (Char.ofNat n).toUpper = Char.ofNat n := by decide
    have hself := hupper c.toNat hc (by omega)
    rw [Char.ofNat_toNat] at hself
    rw [upperChar_of_ascii hc, hself]
  · have hlookup : upperExpansions.lookup c.toNat = none := by
      rw [List.lookup_eq_none_iff]
      intro e he
      have hdisjoint := List.all_eq_true.mp
        (List.all_eq_true.mp digitZeros_disjoint_upperExpansions n hn) e he
      simp only [Bool.or_eq_true, decide_eq_true_eq] at hdisjoint
      rw [bne_iff_ne]
      omega
    have happly : CaseRun.apply upperRuns c.toNat = none := by
      refine CaseRun.apply_eq_none fun r hr => ?_
      have hdisjoint := List.all_eq_true.mp
        (List.all_eq_true.mp digitZeros_disjoint_upperRuns n hn) r hr
      simp only [Bool.or_eq_true, decide_eq_true_eq] at hdisjoint
      omega
    rw [upperChar, if_neg hc, hlookup, happly]

theorem toUpper_of_isDecimalDigit {s : List Char} (h : ∀ c ∈ s, isDecimalDigit c = true) :
    toUpper s = s := by
  rw [toUpper, List.flatMap_congr fun c hc => upperChar_of_isDecimalDigit (h c hc)]
  exact List.flatMap_singleton' s

theorem toUpper_eq_self_of_isDecimalDigit {c : Char} (h : isDecimalDigit c = true) :
    c.toUpper = c := by
  by_cases hc : c.toNat < 128
  · have hupper := upperChar_of_isDecimalDigit h
    rw [upperChar_of_ascii hc] at hupper
    exact List.singleton_inj.mp hupper
  · exact toUpper_eq_self hc

/-! ### Sizes in bytes -/

theorem utf8Size_append (s t : List Char) : utf8Size (s ++ t) = utf8Size s + utf8Size t := by
  induction s with
  | nil => rw [List.nil_append, utf8Size, Nat.zero_add]
  | cons c cs ih => rw [List.cons_append, utf8Size, utf8Size, ih, Nat.add_assoc]

theorem utf8Size_of_isAscii {s : List Char} (h : IsAscii s) : utf8Size s = s.length := by
  induction s with
  | nil => rfl
  | cons c cs ih =>
    obtain ⟨hc, hcs⟩ := isAscii_cons.mp h
    have hsize : c.utf8Size = 1 :=
      Char.utf8Size_eq_one_iff.mpr (UInt32.le_iff_toNat_le.mpr (Nat.le_of_lt_succ hc))
    rw [utf8Size, ih hcs, hsize, List.length_cons, Nat.add_comm]

/-- ASCII characters keep their size in lower case. -/
theorem utf8Size_map_toLower {s : List Char} (h : IsAscii s) :
    utf8Size (s.map Char.toLower) = utf8Size s := by
  have hlower : IsAscii (s.map Char.toLower) := by
    intro c hc
    obtain ⟨d, hd, rfl⟩ := List.mem_map.mp hc
    exact toLower_toNat_lt (h d hd)
  rw [utf8Size_of_isAscii hlower, utf8Size_of_isAscii h, List.length_map]

/-- Dropping as many bytes as the text in front has leaves the text behind it. -/
theorem dropBytes?_utf8Size (s t : List Char) : dropBytes? (utf8Size s) (s ++ t) = some t := by
  induction s with
  | nil => cases t <;> rfl
  | cons c cs ih =>
    obtain ⟨n, hn⟩ := Nat.exists_eq_add_of_lt c.utf8Size_pos
    have hsize : utf8Size (c :: cs) = (utf8Size cs + n) + 1 := by
      rw [utf8Size, hn]
      omega
    have hle : c.utf8Size ≤ utf8Size cs + n + 1 := by omega
    have hrest : utf8Size cs + n + 1 - c.utf8Size = utf8Size cs := by omega
    rw [hsize, List.cons_append, dropBytes?, if_pos hle, hrest, ih]

/-- What is left without a number of bytes in front is the text behind as many bytes. -/
theorem dropBytes?_eq_some_iff {n : ℕ} {s rest : List Char} :
    dropBytes? n s = some rest ↔ ∃ front, s = front ++ rest ∧ utf8Size front = n := by
  constructor
  · intro h
    induction n, s using dropBytes?.induct with
    | case1 s =>
      rw [dropBytes?, Option.some.injEq] at h
      exact ⟨[], h, rfl⟩
    | case2 n => exact absurd h (by simp [dropBytes?])
    | case3 n c cs hle ih =>
      rw [dropBytes?, if_pos hle] at h
      obtain ⟨front, rfl, hsize⟩ := ih h
      exact ⟨c :: front, rfl, by rw [utf8Size]; omega⟩
    | case4 n c cs hgt =>
      rw [dropBytes?, if_neg hgt] at h
      exact absurd h (by simp)
  · rintro ⟨front, rfl, rfl⟩
    exact dropBytes?_utf8Size front rest

/-- A place in a text is told by the number of bytes in front of it. -/
theorem eq_of_utf8Size_eq {front rest front' rest' : List Char}
    (h : front ++ rest = front' ++ rest') (hsize : utf8Size front = utf8Size front') :
    rest = rest' := by
  have hrest := dropBytes?_utf8Size front rest
  rw [h, hsize, dropBytes?_utf8Size] at hrest
  exact (Option.some.inj hrest).symm

/-! ### Occurrences in lower case -/

/-- The lower case of each character by itself. -/
def lowerApart (s : List Char) : List Char := s.flatMap lowerChar

theorem lowerApart_append (s t : List Char) : lowerApart (s ++ t) = lowerApart s ++ lowerApart t :=
  List.flatMap_append

theorem lowerApart_cons (c : Char) (s : List Char) :
    lowerApart (c :: s) = lowerChar c ++ lowerApart s :=
  List.flatMap_cons

theorem lowerApart_of_isAscii {s : List Char} (h : IsAscii s) :
    lowerApart s = s.map Char.toLower := by
  rw [lowerApart, List.map_eq_flatMap]
  exact List.flatMap_congr fun c hc => lowerChar_of_ascii (h c hc)

/-- The two small sigmas as one. -/
def mergeSigma (c : Char) : Char := if c = 'ς' then 'σ' else c

theorem map_mergeSigma_toLowerAfter (before s : List Char) :
    (toLowerAfter before s).map mergeSigma = (lowerApart s).map mergeSigma := by
  induction s generalizing before with
  | nil => rfl
  | cons c cs ih =>
    rw [toLowerAfter, lowerApart_cons, List.map_append, List.map_append, ih]
    congr 1
    split
    case isTrue h =>
      have hc : c = Char.ofNat 0x3a3 := by rw [← beq_iff_eq.mp h, Char.ofNat_toNat]
      rw [hc]
      split <;> decide
    case isFalse => rfl

theorem map_mergeSigma_eq_self {s : List Char} (h : 'ς' ∉ s) : s.map mergeSigma = s := by
  have hself : ∀ c ∈ s, mergeSigma c = c := by
    intro c hc
    rw [mergeSigma, if_neg]
    rintro rfl
    exact h hc
  rw [List.map_congr_left hself, List.map_id']

theorem isInfix_map_mergeSigma_iff {pattern s : List Char} (h : 'ς' ∉ pattern)
    (h' : 'σ' ∉ pattern) : pattern <:+: s.map mergeSigma ↔ pattern <:+: s := by
  rw [List.infix_map_iff]
  constructor
  · rintro ⟨t, ht, rfl⟩
    have hsigma : 'ς' ∉ t := fun hmem => h' (List.mem_map.mpr ⟨'ς', hmem, by decide⟩)
    rwa [map_mergeSigma_eq_self hsigma]
  · exact fun ht => ⟨pattern, ht, (map_mergeSigma_eq_self h).symm⟩

/-- Where a pattern without sigmas occurs in a text in lower case does not depend on what is before
the text. -/
theorem isInfix_toLowerAfter_iff {pattern : List Char} (h : 'ς' ∉ pattern) (h' : 'σ' ∉ pattern)
    (before s : List Char) : pattern <:+: toLowerAfter before s ↔ pattern <:+: lowerApart s := by
  rw [← isInfix_map_mergeSigma_iff h h', map_mergeSigma_toLowerAfter,
    isInfix_map_mergeSigma_iff h h']

end TableMapping.Text
