import TableMapping.Proofs.Text.Splitting

/-!
# Occurrences of a pattern

A search finds the first occurrence of a pattern if there is one.  A pattern of several pieces of a
text that are kept apart by characters which it does not have occurs in one of the pieces.

## Main results

* `Text.contains_iff` : a pattern is found if and only if it occurs.
* `Text.splitFirst_append` : an occurrence that the search finds.
* `Text.isInfix_append_cons_iff`, `Text.isInfix_append_iff_of_disjoint` : occurrences on both sides of
  characters that a pattern does not have.
-/

namespace TableMapping.Text

/-! ### Searching -/

theorem startsWith?_eq_some_iff {pattern s rest : List Char} :
    startsWith? pattern s = some rest ↔ s = pattern ++ rest := by
  induction pattern generalizing s with
  | nil => simp [startsWith?, eq_comm]
  | cons p ps ih =>
    cases s with
    | nil => simp [startsWith?]
    | cons c cs =>
      rw [startsWith?]
      split
      case isTrue h => rw [ih, h, List.cons_append, List.cons.injEq, and_iff_right rfl]
      case isFalse h => simp [Ne.symm h]

theorem startsWith?_eq_none_iff {pattern s : List Char} :
    startsWith? pattern s = none ↔ ¬ pattern <+: s := by
  rw [Option.eq_none_iff_forall_ne_some, List.IsPrefix, not_exists]
  refine forall_congr' fun rest => ?_
  rw [ne_eq, startsWith?_eq_some_iff, eq_comm]

theorem splitFirst_eq_some {pattern s before after : List Char}
    (h : splitFirst pattern s = some (before, after)) : s = before ++ pattern ++ after := by
  induction s generalizing before with
  | nil =>
    obtain ⟨rest, hrest, heq⟩ := Option.map_eq_some_iff.mp h
    obtain ⟨rfl, rfl⟩ := Prod.mk.inj heq
    exact startsWith?_eq_some_iff.mp hrest
  | cons c cs ih =>
    rw [splitFirst] at h
    split at h
    case h_1 rest hrest =>
      obtain ⟨rfl, rfl⟩ := Prod.mk.inj (Option.some.inj h)
      exact startsWith?_eq_some_iff.mp hrest
    case h_2 hnone =>
      obtain ⟨⟨b, a⟩, hsplit, heq⟩ := Option.map_eq_some_iff.mp h
      obtain ⟨rfl, rfl⟩ := Prod.mk.inj heq
      rw [ih hsplit]
      rfl

theorem splitFirst_eq_none_iff {pattern s : List Char} :
    splitFirst pattern s = none ↔ ¬ pattern <:+: s := by
  induction s with
  | nil =>
    rw [splitFirst, Option.map_eq_none_iff, startsWith?_eq_none_iff, List.prefix_nil,
      List.infix_nil]
  | cons c cs ih =>
    rw [splitFirst, List.infix_cons_iff, not_or, ← ih, ← startsWith?_eq_none_iff]
    cases startsWith? pattern (c :: cs) with
    | none => simp
    | some rest => simp

/-- A pattern is found if and only if it occurs. -/
theorem contains_iff {pattern s : List Char} : contains pattern s = true ↔ pattern <:+: s := by
  cases h : splitFirst pattern s with
  | none => simp [contains, h, splitFirst_eq_none_iff.mp h]
  | some found =>
    have hs : s = found.1 ++ pattern ++ found.2 := splitFirst_eq_some h
    simp only [contains, h, Option.isSome_some, true_iff]
    exact ⟨found.1, found.2, hs.symm⟩

theorem contains_eq_false_iff {pattern s : List Char} :
    contains pattern s = false ↔ ¬ pattern <:+: s := by
  rw [← contains_iff, Bool.not_eq_true]

/-- An occurrence is the first one if the first two characters of the pattern do not occur before
it. -/
theorem splitFirst_append {x y : Char} {pattern before after : List Char}
    (h : ¬ [x, y] <:+: before ++ [x]) :
    splitFirst (x :: y :: pattern) (before ++ (x :: y :: pattern ++ after)) =
      some (before, after) := by
  induction before with
  | nil =>
    have hstart : startsWith? (x :: y :: pattern) (x :: y :: pattern ++ after) = some after :=
      startsWith?_eq_some_iff.mpr rfl
    rw [List.nil_append, List.cons_append, splitFirst, ← List.cons_append, hstart]
  | cons c cs ih =>
    rw [List.cons_append, List.infix_cons_iff, not_or] at h
    have hnone : startsWith? (x :: y :: pattern) (c :: (cs ++ (x :: y :: pattern ++ after))) =
        none := by
      rw [startsWith?_eq_none_iff]
      intro hstart
      -- The second character stands before the occurrence, or it is the first one of it.
      refine h.1 ?_
      rw [List.cons_prefix_cons] at hstart ⊢
      refine ⟨hstart.1, ?_⟩
      cases cs with
      | nil =>
        rw [List.nil_append, List.cons_append, List.cons_prefix_cons] at hstart
        rw [hstart.2.1]
        exact List.prefix_refl _
      | cons d ds =>
        rw [List.cons_append, List.cons_prefix_cons] at hstart
        rw [hstart.2.1]
        exact List.prefix_append [d] _
    rw [List.cons_append, splitFirst, hnone, ih h.2]
    rfl

/-! ### Occurrences in pieces -/

variable {pattern : List Char}

/-- A pattern occurs on one side of a character that it does not have. -/
theorem isInfix_append_cons_iff {x : Char} (hx : x ∉ pattern) (l r : List Char) :
    pattern <:+: l ++ x :: r ↔ pattern <:+: l ∨ pattern <:+: r := by
  rw [List.infix_append_iff, List.infix_cons_iff]
  constructor
  · rintro (hl | (hstart | hr) | ⟨l₁, l₂, rfl, hsuffix, hstart⟩)
    · exact .inl hl
    · cases pattern with
      | nil => exact .inl (List.nil_infix)
      | cons p ps =>
        rw [List.cons_prefix_cons] at hstart
        exact absurd (hstart.1 ▸ List.mem_cons_self) hx
    · exact .inr hr
    · cases l₂ with
      | nil => exact .inl (by rw [List.append_nil]; exact hsuffix.isInfix)
      | cons p ps =>
        rw [List.cons_prefix_cons] at hstart
        exact absurd (List.mem_append_right l₁ (hstart.1 ▸ List.mem_cons_self)) hx
  · rintro (hl | hr)
    · exact .inl hl
    · exact .inr (.inl (.inr hr))

/-- A pattern occurs on one side of some characters that it does not have. -/
theorem isInfix_append_iff_of_disjoint {middle : List Char} (hne : middle ≠ [])
    (hmiddle : ∀ x ∈ middle, x ∉ pattern) (l r : List Char) :
    pattern <:+: l ++ (middle ++ r) ↔ pattern <:+: l ∨ pattern <:+: r := by
  induction middle generalizing l with
  | nil => exact absurd rfl hne
  | cons x xs ih =>
    have hx : x ∉ pattern := hmiddle x List.mem_cons_self
    rw [List.cons_append, isInfix_append_cons_iff hx]
    cases xs with
    | nil => rfl
    | cons y ys =>
      have h := ih (List.cons_ne_nil y ys) (fun z hz => hmiddle z (List.mem_cons_of_mem x hz)) []
      rw [List.nil_append, List.infix_nil] at h
      rw [h]
      constructor
      · rintro (hl | rfl | hr)
        · exact .inl hl
        · exact .inl List.nil_infix
        · exact .inr hr
      · rintro (hl | hr)
        · exact .inl hl
        · exact .inr (.inr hr)

/-- A pattern occurs in pieces with separators between them if and only if it occurs in one of them,
and it is not empty. -/
theorem isInfix_joinWith_iff {sep : Char} (hsep : sep ∉ pattern) (hne : pattern ≠ [])
    (pieces : List (List Char)) :
    pattern <:+: joinWith [sep] pieces ↔ ∃ piece ∈ pieces, pattern <:+: piece := by
  induction pieces with
  | nil => simp [joinWith, hne]
  | cons piece pieces ih =>
    cases pieces with
    | nil => simp [joinWith]
    | cons next pieces =>
      rw [joinWith_cons_cons, List.append_assoc, List.singleton_append,
        isInfix_append_cons_iff hsep, ih]
      simp only [List.mem_cons, exists_eq_or_imp]

end TableMapping.Text
