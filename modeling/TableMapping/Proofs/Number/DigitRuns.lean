import TableMapping.Proofs.Text.Blanks

/-!
# Runs of digits

A run of ASCII digits is not empty.  Nothing in it is blank, it denotes the number that its digits
write, zeros in front or not, and it ends where no digit follows.

## Main definitions

* `IsRun` : non-empty runs of digits.
* `runValue` : the number that a run denotes.
* `NoDigitAhead` : the texts that a run stops at.

## Main results

* `runValue_zeros_append` : zeros in front of a run do not count.
* `takeWhile_isDigit_append`, `dropWhile_isDigit_append` : a run and what follows it.
-/

namespace TableMapping

open Text (trimStart)

/-- A run of at least one ASCII digit. -/
structure IsRun (digits : List Char) : Prop where
  ne_nil : digits ≠ []
  isDigit : ∀ c ∈ digits, c.isDigit = true

/-- A text that does not start with a digit. -/
def NoDigitAhead (rest : List Char) : Prop := ∀ c ∈ rest.head?, c.isDigit = false

theorem noDigitAhead_nil : NoDigitAhead [] := fun _ hc => absurd hc (Option.not_mem_none _)

theorem noDigitAhead_cons {c : Char} {rest : List Char} (h : c.isDigit = false) :
    NoDigitAhead (c :: rest) := by
  intro d hd
  rwa [← Option.some.inj hd]

/-- The number that a run of digits denotes. -/
def runValue (digits : List Char) : Nat := Nat.ofDigitChars 10 digits 0

variable {digits rest : List Char}

theorem IsRun.exists_cons (h : IsRun digits) :
    ∃ c cs, digits = c :: cs ∧ c.isDigit = true := by
  obtain ⟨c, cs, rfl⟩ := List.exists_cons_of_ne_nil h.ne_nil
  exact ⟨c, cs, rfl, h.isDigit c List.mem_cons_self⟩

/-- Zeros in front of a run make another run. -/
theorem IsRun.zeros_append (h : IsRun digits) (zeros : Nat) :
    IsRun (List.replicate zeros '0' ++ digits) where
  ne_nil := List.append_ne_nil_of_right_ne_nil _ h.ne_nil
  isDigit c hc := by
    rcases List.mem_append.mp hc with hc | hc
    · rw [List.eq_of_mem_replicate hc]
      decide
    · exact h.isDigit c hc

/-- They do not count. -/
@[simp]
theorem runValue_zeros_append (zeros : Nat) (digits : List Char) :
    runValue (List.replicate zeros '0' ++ digits) = runValue digits := by
  rw [runValue, Nat.ofDigitChars_append, Nat.ofDigitChars_replicate_zero, Nat.mul_zero, runValue]

theorem takeWhile_isDigit_append (h : IsRun digits) (hrest : NoDigitAhead rest) :
    (digits ++ rest).takeWhile Char.isDigit = digits := by
  rw [List.takeWhile_append_of_pos h.isDigit]
  cases rest with
  | nil => rw [List.takeWhile_nil, List.append_nil]
  | cons c rest => rw [List.takeWhile_cons_of_neg (by simp [hrest c rfl]), List.append_nil]

theorem dropWhile_isDigit_append (h : IsRun digits) (hrest : NoDigitAhead rest) :
    (digits ++ rest).dropWhile Char.isDigit = rest := by
  rw [List.dropWhile_append_of_pos h.isDigit]
  cases rest with
  | nil => rfl
  | cons c rest => exact List.dropWhile_cons_of_neg (by simp [hrest c rfl])

theorem trimStart_run_append (h : IsRun digits) : trimStart (digits ++ rest) = digits ++ rest := by
  obtain ⟨c, cs, rfl, hc⟩ := h.exists_cons
  refine Text.trimStart_eq_self fun d hd => ?_
  obtain rfl : c = d := Option.some.inj hd
  exact Text.isBlank_of_isDigit hc

end TableMapping
