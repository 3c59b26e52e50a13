import Mathlib.Data.List.TakeWhile
import TableMapping.Proofs.Text.LetterCase
import TableMapping.Text.Blank

/-!
# Blanks and trimming

Digits of any script are no blanks and blanks have no upper case.  Trimming leaves a text alone that
has no blank at either end.

## Main definitions

* `Text.Pads` : a text with blanks around another one.

## Main results

* `Text.trim_eq_self_of_ends`, `Text.trim_eq_self` : texts that trimming leaves alone.
* `Text.trimStart_eq_self_iff`, `Text.trimEnd_eq_self_iff` : the same for one end, as an equivalence.
* `Text.Pads.trim_eq`, `Text.pads_trim` : trimming takes the blanks off, and nothing else.
* `Text.isBlank_of_isDigit`, `Text.isBlank_of_isDecimalDigit` : digits are no blanks.
-/

namespace TableMapping.Text

/-! ### Trimming -/

theorem trimStart_eq_self {s : List Char} (h : ∀ c ∈ s.head?, isBlank c = false) :
    trimStart s = s := by
  cases s with
  | nil => rfl
  | cons c cs =>
    have hc : ¬ isBlank c = true := by simp [h c rfl]
    exact List.dropWhile_cons_of_neg hc

theorem trimStart_eq_self_iff {s : List Char} :
    trimStart s = s ↔ ∀ c ∈ s.head?, isBlank c = false := by
  refine ⟨fun h c hc => ?_, trimStart_eq_self⟩
  cases s with
  | nil => cases hc
  | cons d cs =>
    obtain rfl : d = c := Option.some.inj hc
    by_contra hblank
    have hle : (trimStart (d :: cs)).length ≤ cs.length := by
      rw [trimStart, List.dropWhile_cons_of_pos (by simpa using hblank)]
      exact (List.dropWhile_suffix isBlank).length_le
    rw [h, List.length_cons] at hle
    omega

theorem trimEnd_eq_self_iff {s : List Char} :
    trimEnd s = s ↔ ∀ c ∈ s.getLast?, isBlank c = false := by
  rw [trimEnd, List.reverse_eq_iff, trimStart_eq_self_iff, List.head?_reverse]

/-- What is left without the blanks in front ends like the whole text. -/
theorem mem_getLast?_of_trimStart {s : List Char} {c : Char} (h : c ∈ (trimStart s).getLast?) :
    c ∈ s.getLast? := by
  have hsplit : s.takeWhile isBlank ++ trimStart s = s := List.takeWhile_append_dropWhile
  rw [← hsplit, List.getLast?_append, h]
  rfl

/-- Without a blank at the end, only blanks in front are taken off. -/
theorem trim_eq_trimStart {s : List Char} (h : trimEnd s = s) : trim s = trimStart s :=
  trimEnd_eq_self_iff.mpr fun _ hc => trimEnd_eq_self_iff.mp h _ (mem_getLast?_of_trimStart hc)

/-- Trimming changes nothing in a text without blanks at its ends. -/
theorem trim_eq_self_of_ends {s : List Char} (hhead : ∀ c ∈ s.head?, isBlank c = false)
    (hlast : ∀ c ∈ s.getLast?, isBlank c = false) : trim s = s := by
  rw [trim, trimStart_eq_self hhead, trimEnd, trimStart_eq_self, List.reverse_reverse]
  rwa [List.head?_reverse]

theorem trim_eq_self {s : List Char} (h : ∀ c ∈ s, isBlank c = false) : trim s = s :=
  trim_eq_self_of_ends (fun c hc => h c (List.mem_of_head? hc))
    fun c hc => h c (List.mem_of_getLast? hc)

/-- A text with blanks in front of another one and behind it. -/
def Pads (s body : List Char) : Prop :=
  ∃ before after, s = before ++ body ++ after ∧ (∀ c ∈ before, isBlank c = true) ∧
    ∀ c ∈ after, isBlank c = true

/-- There may be no blanks at all. -/
theorem pads_self (s : List Char) : Pads s s :=
  ⟨[], [], by rw [List.nil_append, List.append_nil], List.forall_mem_nil _, List.forall_mem_nil _⟩

/-- What trimming takes off is blank. -/
theorem pads_trim (s : List Char) : Pads s (trim s) := by
  have hend : trim s ++ ((trimStart s).reverse.takeWhile isBlank).reverse = trimStart s := by
    rw [trim]
    generalize trimStart s = t
    rw [trimEnd, trimStart, ← List.reverse_append, List.takeWhile_append_dropWhile,
      List.reverse_reverse]
  refine ⟨s.takeWhile isBlank, ((trimStart s).reverse.takeWhile isBlank).reverse, ?_, ?_, ?_⟩
  · rw [List.append_assoc, hend]
    exact List.takeWhile_append_dropWhile.symm
  · exact fun c hc => List.mem_takeWhile_imp hc
  · exact fun c hc => List.mem_takeWhile_imp (List.mem_reverse.mp hc)

/-- Trimming leaves a text that has no blanks. -/
theorem Pads.trim_eq {s body : List Char} (h : Pads s body)
    (hbody : ∀ c ∈ body, isBlank c = false) : trim s = body := by
  obtain ⟨before, after, rfl, hbefore, hafter⟩ := h
  have hstart : trimStart (before ++ body ++ after) = trimStart (body ++ after) := by
    rw [trimStart, List.append_assoc, List.dropWhile_append_of_pos hbefore, trimStart]
  rw [trim, hstart]
  cases body with
  | nil =>
    have hnil : trimStart ([] ++ after) = [] := List.dropWhile_eq_nil_iff.mpr hafter
    rw [hnil]
    rfl
  | cons c cs =>
    have hself : trimStart (c :: cs ++ after) = c :: cs ++ after :=
      trimStart_eq_self fun d hd => hbody d (by simp_all)
    have hend : trimStart (c :: cs).reverse = (c :: cs).reverse :=
      trimStart_eq_self fun d hd => hbody d (List.mem_reverse.mp (List.mem_of_head? hd))
    rw [hself, trimEnd, List.reverse_append, trimStart,
      List.dropWhile_append_of_pos fun d hd => hafter d (List.mem_reverse.mp hd), ← trimStart, hend,
      List.reverse_reverse]

/-! ### Blank characters -/

theorem isBlank_of_isDecimalDigit {c : Char} (h : isDecimalDigit c = true) : isBlank c = false := by
  obtain ⟨n, hn, hrange⟩ := List.any_eq_true.mp h
  simp only [Bool.and_eq_true, decide_eq_true_eq] at hrange
  have hdigit : ∀ n ∈ digitZeros, 0x20 < n ∧ (n + 9 < 0x85 ∨ 0xa0 < n) ∧
      (n + 9 < 0x1680 ∨ 0x1680 < n) ∧ (n + 9 < 0x2000 ∨ 0x3000 < n) := by decide
  have := hdigit n hn
  simp only [isBlank, Bool.or_eq_false_iff, Bool.and_eq_false_iff, decide_eq_false_iff_not,
    beq_eq_false_iff_ne]
  omega

theorem isBlank_of_isDigit {c : Char} (h : c.isDigit = true) : isBlank c = false :=
  isBlank_of_isDecimalDigit (isDecimalDigit_of_isDigit h)

/-- A blank has no upper case. -/
theorem toUpper_eq_self_of_isBlank {c : Char} (h : isBlank c = true) : c.toUpper = c := by
  by_cases hc : c.toNat < 128
  · refine ascii_cases (p := fun c => isBlank c = true → c.toUpper = c) ?_ hc h
    decide
  · exact toUpper_eq_self hc

end TableMapping.Text
