import TableMapping.Text.Search

/-!
# Pieces and separators

Splitting at a separator and joining with it are the list operations of the same kind, so the laws
of those carry over: joining undoes splitting, and splitting undoes joining as long as there is a
piece and no piece holds the separator.

## Main results

* `Text.splitOn_eq`, `Text.joinWith_eq` : the two operations as operations on lists.
* `Text.splitOn_joinWith` : splitting a joined list of pieces.
* `Text.splitOn_of_not_mem`, `Text.splitOn_append_cons` : the first piece of a text.
* `Text.joinWith_splitOn` : joining the pieces of a text.
-/

namespace TableMapping.Text

theorem splitOn_eq (sep : Char) (s : List Char) : splitOn sep s = s.splitOn sep := by
  induction s with
  | nil => simp [splitOn]
  | cons c cs ih =>
    rw [splitOn, ih, List.splitOn_cons_eq_if_modifyHead]
    by_cases hc : c = sep
    · rw [if_pos hc, if_pos (beq_iff_eq.mpr hc)]
    · rw [if_neg hc, if_neg (by simpa using hc)]
      obtain ⟨piece, pieces, hp⟩ := List.exists_cons_of_ne_nil (List.splitOn_ne_nil sep cs)
      rw [hp, List.modifyHead_cons]

theorem joinWith_cons_cons (sep piece next : List Char) (pieces : List (List Char)) :
    joinWith sep (piece :: next :: pieces) = piece ++ sep ++ joinWith sep (next :: pieces) :=
  rfl

theorem joinWith_eq (sep : List Char) : (pieces : List (List Char)) →
    joinWith sep pieces = sep.intercalate pieces
  | [] => rfl
  | [piece] => List.intercalate_singleton.symm
  | piece :: next :: pieces => by
    rw [joinWith_cons_cons, joinWith_eq sep (next :: pieces), List.intercalate_cons_cons]

theorem joinWith_cons (sep : Char) (piece : List Char) (pieces : List (List Char)) :
    joinWith [sep] (piece :: pieces) = piece ++ pieces.flatMap (sep :: ·) := by
  induction pieces generalizing piece with
  | nil => rw [joinWith, List.flatMap_nil, List.append_nil]
  | cons next pieces ih =>
    rw [joinWith_cons_cons, ih, List.flatMap_cons, List.append_assoc, List.singleton_append,
      List.cons_append]

/-- A piece in a joined text, with separators between it and the pieces on both sides. -/
theorem joinWith_append_cons (sep : Char) (before after : List (List Char)) (piece : List Char) :
    joinWith [sep] (before ++ piece :: after) =
      before.flatMap (· ++ [sep]) ++ (piece ++ after.flatMap (sep :: ·)) := by
  induction before with
  | nil => rw [List.nil_append, joinWith_cons, List.flatMap_nil, List.nil_append]
  | cons first before ih =>
    obtain ⟨next, pieces, hpieces⟩ :=
      List.exists_cons_of_ne_nil (List.append_ne_nil_of_right_ne_nil before (List.cons_ne_nil piece after))
    rw [List.cons_append, hpieces, joinWith_cons_cons, ← hpieces, ih, List.flatMap_cons,
      List.append_assoc (first ++ [sep])]

theorem flatMap_joinWith (f : Char → List Char) (sep : List Char) (pieces : List (List Char)) :
    (joinWith sep pieces).flatMap f = joinWith (sep.flatMap f) (pieces.map (·.flatMap f)) := by
  induction pieces with
  | nil => rfl
  | cons piece pieces ih =>
    cases pieces with
    | nil => rfl
    | cons next pieces =>
      rw [joinWith_cons_cons, List.flatMap_append, List.flatMap_append, ih]
      rfl

theorem map_joinWith (f : Char → Char) (sep : List Char) (pieces : List (List Char)) :
    (joinWith sep pieces).map f = joinWith (sep.map f) (pieces.map (·.map f)) := by
  simp only [List.map_eq_flatMap (f := f), flatMap_joinWith]

theorem forall_mem_joinWith {p : Char → Prop} {sep : List Char} {pieces : List (List Char)}
    (hsep : ∀ c ∈ sep, p c) (h : ∀ piece ∈ pieces, ∀ c ∈ piece, p c) :
    ∀ c ∈ joinWith sep pieces, p c := by
  induction pieces with
  | nil => exact fun c hc => absurd hc List.not_mem_nil
  | cons piece pieces ih =>
    have hpiece : ∀ c ∈ piece, p c := h piece List.mem_cons_self
    cases pieces with
    | nil => exact hpiece
    | cons next pieces =>
      intro c hc
      rw [joinWith_cons_cons, List.mem_append, List.mem_append] at hc
      rcases hc with (hc | hc) | hc
      · exact hpiece c hc
      · exact hsep c hc
      · exact ih (fun q hq => h q (List.mem_cons_of_mem piece hq)) c hc

/-- Splitting undoes joining when there is a piece and no piece holds the separator. -/
theorem splitOn_joinWith {sep : Char} {pieces : List (List Char)}
    (hsep : ∀ piece ∈ pieces, sep ∉ piece) (hne : pieces ≠ []) :
    splitOn sep (joinWith [sep] pieces) = pieces := by
  rw [joinWith_eq, splitOn_eq, List.splitOn_intercalate sep hsep hne]

/-- A text without the separator is the only piece of itself. -/
theorem splitOn_of_not_mem {sep : Char} {s : List Char} (h : sep ∉ s) : splitOn sep s = [s] := by
  have hjoin : joinWith [sep] [s] = s := rfl
  conv => lhs; rw [← hjoin]
  exact splitOn_joinWith (by simpa using h) (List.cons_ne_nil s [])

/-- The text before the first separator is the first piece. -/
theorem splitOn_append_cons {sep : Char} {before : List Char} (h : sep ∉ before) (s : List Char) :
    splitOn sep (before ++ sep :: s) = before :: splitOn sep s := by
  induction before with
  | nil => rw [List.nil_append, splitOn, if_pos rfl]
  | cons c before ih =>
    have hc : c ≠ sep := (List.ne_of_not_mem_cons h).symm
    rw [List.cons_append, splitOn, if_neg hc, ih (List.not_mem_of_not_mem_cons h)]

/-- Joining undoes splitting. -/
theorem joinWith_splitOn (sep : Char) (s : List Char) : joinWith [sep] (splitOn sep s) = s := by
  rw [joinWith_eq, splitOn_eq, List.intercalate_splitOn]

/-- No piece holds the separator. -/
theorem not_mem_of_mem_splitOn {sep : Char} {s piece : List Char} (h : piece ∈ splitOn sep s) :
    sep ∉ piece := by
  induction s generalizing piece with
  | nil =>
    rw [splitOn, List.mem_singleton] at h
    rw [h]
    exact List.not_mem_nil
  | cons c cs ih =>
    rw [splitOn] at h
    split at h
    case isTrue =>
      rcases List.mem_cons.mp h with rfl | h
      · exact List.not_mem_nil
      · exact ih h
    case isFalse hc =>
      split at h
      case h_1 =>
        rw [List.mem_singleton] at h
        rw [h, List.mem_singleton]
        exact Ne.symm hc
      case h_2 first pieces hpieces =>
        rw [hpieces] at ih
        rcases List.mem_cons.mp h with rfl | h
        · exact List.not_mem_cons_of_ne_of_not_mem (Ne.symm hc) (ih List.mem_cons_self)
        · exact ih (List.mem_cons_of_mem first h)

/-- A joined text is empty only if there is no piece, or just an empty one. -/
theorem joinWith_ne_nil {sep : Char} {pieces : List (List Char)} (hne : pieces ≠ [])
    (hempty : pieces ≠ [[]]) : joinWith [sep] pieces ≠ [] := by
  match pieces with
  | [] => exact absurd rfl hne
  | [piece] =>
    intro h
    rw [joinWith] at h
    exact hempty (by rw [h])
  | piece :: next :: rest => simp [joinWith]

end TableMapping.Text
