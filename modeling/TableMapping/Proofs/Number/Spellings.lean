import TableMapping.Proofs.Number.Numerals

/-!
# Spellings of integers

An integer is spelled by the decimal digits of its absolute value behind a sign and any number of
zeros, with any blanks around all of it.  A run of digits is nothing else than the digits of its
number behind zeros, so the spellings of an integer are the texts with a numeral of it between blanks.

## Main definitions

* `IsSignOf` : the signs that may stand in front of an integer.
* `SpellsInt` : the spellings of an integer.

## Main results

* `IsRun.eq_zeros_append` : a run of digits as zeros and the digits of its number.
* `spellsInt_iff_writesInt` : the spellings are the texts with a numeral between blanks.
-/

namespace TableMapping

/-- A sign in front of an integer: a minus sign for a negative one, nothing or a plus sign for another
one, and any of the three for zero. -/
inductive IsSignOf : List Char → Int → Prop
  | none {n : Int} (h : 0 ≤ n) : IsSignOf [] n
  | plus {n : Int} (h : 0 ≤ n) : IsSignOf ['+'] n
  | minus {n : Int} (h : n ≤ 0) : IsSignOf ['-'] n

/-- A text that spells an integer: its sign, zeros and the digits of its absolute value, between
blanks. -/
def SpellsInt (s : List Char) (n : Int) : Prop :=
  ∃ sign zeros, IsSignOf sign n ∧
    Text.Pads s (sign ++ (List.replicate zeros '0' ++ natText n.natAbs))

/-! ### Digits of a number -/

theorem digitChar_of_isDigit {c : Char} (h : c.isDigit = true) :
    c.toNat - '0'.toNat < 10 ∧ Nat.digitChar (c.toNat - '0'.toNat) = c := by
  obtain ⟨hlower, hupper⟩ := Char.isDigit_iff_toNat.mp h
  have hlower : 48 ≤ c.toNat := hlower
  have hupper : c.toNat ≤ 57 := hupper
  have hlt : c.toNat - '0'.toNat < 10 := by
    change c.toNat - 48 < 10
    omega
  refine ⟨hlt, Char.toNat_inj.mp ?_⟩
  rw [Nat.toNat_digitChar_of_lt_ten hlt]
  change 48 + (c.toNat - 48) = c.toNat
  omega

/-- Digits behind those of a positive number continue it. -/
theorem natText_append {n : Nat} (hn : 0 < n) {digits : List Char}
    (h : ∀ c ∈ digits, c.isDigit = true) :
    natText n ++ digits = natText (Nat.ofDigitChars 10 digits n) := by
  induction digits generalizing n with
  | nil => rw [List.append_nil, Nat.ofDigitChars_nil]
  | cons c digits ih =>
    obtain ⟨hlt, hchar⟩ := digitChar_of_isDigit (h c List.mem_cons_self)
    have hnext : natText n ++ [c] = natText (10 * n + (c.toNat - '0'.toNat)) := by
      rw [natText, natText, ← Nat.toDigits_append_toDigits (by decide) hn hlt,
        Nat.toDigits_of_lt_base hlt, hchar]
    rw [Nat.ofDigitChars_cons, ← ih (by omega) fun d hd => h d (List.mem_cons_of_mem c hd), ← hnext,
      List.append_assoc, List.singleton_append]

/-- A run of digits is the digits of its number behind zeros. -/
theorem IsRun.eq_zeros_append {digits : List Char} (h : IsRun digits) :
    ∃ zeros, digits = List.replicate zeros '0' ++ natText (runValue digits) := by
  -- The zeros come off one by one, except that the last digit stays whatever it is.
  induction digits with
  | nil => exact absurd rfl h.ne_nil
  | cons c digits ih =>
    obtain ⟨hlt, hchar⟩ := digitChar_of_isDigit (h.isDigit c List.mem_cons_self)
    have hdigits : ∀ d ∈ digits, d.isDigit = true := fun d hd => h.isDigit d (List.mem_cons_of_mem c hd)
    have hvalue : runValue (c :: digits) = Nat.ofDigitChars 10 digits (c.toNat - '0'.toNat) := by
      rw [runValue, Nat.ofDigitChars_cons, Nat.mul_zero, Nat.zero_add]
    have hone : natText (c.toNat - '0'.toNat) = [c] := by
      rw [natText, Nat.toDigits_of_lt_base hlt, hchar]
    rcases Nat.eq_zero_or_pos (c.toNat - '0'.toNat) with hzero | hpos
    · by_cases hnil : digits = []
      · refine ⟨0, ?_⟩
        rw [hvalue, hnil, Nat.ofDigitChars_nil, hone, List.replicate_zero, List.nil_append]
      · obtain ⟨zeros, hrest⟩ := ih ⟨hnil, hdigits⟩
        have hc : c = '0' := by rw [← hchar, hzero]; rfl
        refine ⟨zeros + 1, ?_⟩
        rw [hvalue, hzero, ← runValue, List.replicate_succ, List.cons_append, ← hrest, hc]
    · refine ⟨0, ?_⟩
      rw [hvalue, ← natText_append hpos hdigits, hone, List.replicate_zero, List.nil_append,
        List.singleton_append]

/-! ### Spellings and numerals -/

theorem denotesInt_iff {numeral : List Char} {n : Int} :
    DenotesInt numeral n ↔ ∃ sign zeros, IsSignOf sign n ∧
      numeral = sign ++ (List.replicate zeros '0' ++ natText n.natAbs) := by
  constructor
  · intro h
    cases h with
    | @unsigned digits h =>
      obtain ⟨zeros, hzeros⟩ := h.eq_zeros_append
      exact ⟨[], zeros, .none (by omega), by rwa [Int.natAbs_natCast, List.nil_append]⟩
    | @plus digits h =>
      obtain ⟨zeros, hzeros⟩ := h.eq_zeros_append
      exact ⟨['+'], zeros, .plus (by omega), by
        rw [Int.natAbs_natCast, ← hzeros, List.singleton_append]⟩
    | @minus digits h =>
      obtain ⟨zeros, hzeros⟩ := h.eq_zeros_append
      exact ⟨['-'], zeros, .minus (by omega), by
        rw [Int.natAbs_neg, Int.natAbs_natCast, ← hzeros, List.singleton_append]⟩
  · rintro ⟨sign, zeros, hsign, rfl⟩
    have hrun := (isRun_natText n.natAbs).zeros_append zeros
    have hvalue : runValue (List.replicate zeros '0' ++ natText n.natAbs) = n.natAbs := by
      rw [runValue_zeros_append, runValue_natText]
    cases hsign with
    | none hn =>
      have h := DenotesInt.unsigned hrun
      rwa [hvalue, Int.natAbs_of_nonneg hn] at h
    | plus hn =>
      have h := DenotesInt.plus hrun
      rwa [hvalue, Int.natAbs_of_nonneg hn] at h
    | minus hn =>
      have h := DenotesInt.minus hrun
      rwa [hvalue, Int.ofNat_natAbs_of_nonpos hn, Int.neg_neg] at h

/-- The spellings of an integer are the texts with a numeral of it between blanks. -/
theorem spellsInt_iff_writesInt {s : List Char} {n : Int} : SpellsInt s n ↔ WritesInt s n := by
  constructor
  · rintro ⟨sign, zeros, hsign, hpads⟩
    exact ⟨_, hpads, denotesInt_iff.mpr ⟨sign, zeros, hsign, rfl⟩⟩
  · rintro ⟨numeral, hpads, h⟩
    obtain ⟨sign, zeros, hsign, rfl⟩ := denotesInt_iff.mp h
    exact ⟨sign, zeros, hsign, hpads⟩

end TableMapping
