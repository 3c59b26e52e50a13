import Mathlib.Algebra.Ring.Nat
import Mathlib.Data.List.Forall2
import TableMapping.Proofs.Query.Segmentation
import TableMapping.Proofs.Text.Splitting
import TableMapping.Query.Binding

/-!
# Markers and values

A bound statement has one value for each marker that binding put into it.  The template is cut into
pieces, each piece is rewritten by itself, and the text and the values of the statement are those of
the pieces, from left to right.  What a piece is rewritten to is never scanned again, and a piece
that is no supplied placeholder stays as it is.

## Main definitions

* `markers` : a number of markers with commas between them.
* `Placeholder.Rewritten`, `Piece.Rewritten` : what a piece is rewritten to, and its values.
* `Piece.splicedMarkers` : the marks of interrogation that an expression brings along.

## Main results

* `bind_sql`, `bind_values` : a bound statement piece by piece.
* `bind_aligned` : the markers and the values of a bound statement.
-/

namespace TableMapping

/-! ### What a piece is rewritten to -/

/-- As many markers, with commas between them. -/
def markers (n : Nat) : List Char := [',', ' '].intercalate (List.replicate n ['?'])

/-- What a placeholder is rewritten to, given what its name stands for, and the values that it hands
over. -/
inductive Placeholder.Rewritten (p : Placeholder) : Option Parameter → List Char → List Value → Prop
  | unbound : Rewritten p none p.text []
  | spliced (text : String) : Rewritten p (some (.sql text)) text.toList []
  | items (xs : List Value) (h : p.spread = true) :
      Rewritten p (some (.value (.array xs))) (markers xs.length) xs
  | single (v : Value) (h : p.spread = true → ∀ xs, v ≠ .array xs) :
      Rewritten p (some (.value v)) ['?'] [v]

/-- What a piece is rewritten to, and the values that it hands over. -/
inductive Piece.Rewritten (parameters : List (String × Parameter)) :
    Piece → List Char → List Value → Prop
  | char (c : Char) : Rewritten parameters (.char c) [c] []
  | placeholder {p : Placeholder} {text : List Char} {values : List Value}
      (h : p.Rewritten (parameters.lookup (String.ofList p.name)) text values) :
      Rewritten parameters (.placeholder p) text values

/-- The marks of interrogation in the expression that stands for a piece. -/
def Piece.splicedMarkers (parameters : List (String × Parameter)) : Piece → Nat
  | .char _ => 0
  | .placeholder p =>
    match parameters.lookup (String.ofList p.name) with
    | some (.sql text) => text.toList.count '?'
    | _ => 0

theorem markers_eq (xs : List Value) :
    markers xs.length = Text.joinWith [',', ' '] (xs.map fun _ => Bound.marker) := by
  rw [Text.joinWith_eq, List.map_const']
  rfl

/-- There is a mark of interrogation in as many markers for each of them, and no other one. -/
theorem count_markers (n : Nat) : (markers n).count '?' = n := by
  rw [markers]
  induction n with
  | zero => rfl
  | succ n ih =>
    cases n with
    | zero => rfl
    | succ n =>
      rw [List.replicate_succ, List.replicate_succ, List.intercalate_cons_cons,
        ← List.replicate_succ, List.count_append, ih, Nat.add_comm]
      rfl

theorem Placeholder.rewritten_value (p : Placeholder) (v : Value) :
    p.Rewritten (some (.value v)) (Bound.ofPlaceholder p (some (.value v))).text
      (Bound.ofPlaceholder p (some (.value v))).values := by
  by_cases hspread : p.spread = true
  · cases v with
    | array xs =>
      have h := Rewritten.items xs hspread
      rw [markers_eq] at h
      simpa only [Bound.ofPlaceholder, hspread, Bound.spread] using h
    | _ =>
      simp only [Bound.ofPlaceholder, hspread]
      exact .single _ fun _ _ => by simp
  · have hscalar : p.spread = false := by simpa using hspread
    simp only [Bound.ofPlaceholder, hscalar]
    exact .single v fun h => absurd h hspread

/-- Binding rewrites each piece as it should. -/
theorem Piece.rewritten_ofPiece (parameters : List (String × Parameter)) (p : Piece) :
    p.Rewritten parameters (Bound.ofPiece parameters p).text
      (Bound.ofPiece parameters p).values := by
  cases p with
  | char c => exact .char c
  | placeholder p =>
    refine .placeholder ?_
    rw [Bound.ofPiece]
    cases parameters.lookup (String.ofList p.name) with
    | none => exact .unbound
    | some parameter =>
      cases parameter with
      | sql text => exact .spliced text
      | value v => exact Placeholder.rewritten_value p v

/-! ### The statement piece by piece -/

theorem Bound.text_ofPiece_nil (p : Piece) : (ofPiece [] p).text = p.text := by
  cases p <;> rfl

theorem Bound.values_ofPiece_nil (p : Piece) : (ofPiece [] p).values = [] := by
  cases p <;> rfl

/-- The text of a bound statement is that of its pieces, also where there is nothing to bind and the
template is not cut at all. -/
theorem bind_sql (template : List Char) (parameters : List (String × Parameter))
    (leading : List (String × Value)) :
    (bind template parameters leading).sql =
      (Template.pieces template).flatMap fun p => (Bound.ofPiece parameters p).text := by
  change (bindPieces template parameters).flatMap _ = _
  rw [bindPieces]
  split
  case isTrue hempty =>
    obtain rfl := List.isEmpty_iff.mp hempty
    simp only [Bound.text_ofPiece_nil, Template.flatMap_text_pieces]
    exact List.append_nil template
  case isFalse => rw [List.flatMap_map]

theorem bind_values (template : List Char) (parameters : List (String × Parameter))
    (leading : List (String × Value)) :
    (bind template parameters leading).values = (NativeKey.sort leading).map Prod.snd ++
      (Template.pieces template).flatMap fun p => (Bound.ofPiece parameters p).values := by
  change _ ++ (bindPieces template parameters).flatMap _ = _
  rw [bindPieces]
  split
  case isTrue hempty =>
    obtain rfl := List.isEmpty_iff.mp hempty
    simp only [Bound.values_ofPiece_nil, List.flatMap_eq_nil_iff.mpr fun _ _ => rfl]
    rfl
  case isFalse => rw [List.flatMap_map]

theorem NativeKey.sort_perm (leading : List (String × Value)) : (sort leading).Perm leading :=
  List.mergeSort_perm leading _

theorem NativeKey.sort_nil : sort [] = [] := List.mergeSort_nil

/-- What comes before the values of the placeholders has nothing to do with them. -/
theorem bind_values_eq_append (template : List Char) (parameters : List (String × Parameter))
    (leading : List (String × Value)) :
    (bind template parameters leading).values =
      (NativeKey.sort leading).map Prod.snd ++ (bind template parameters []).values := by
  rw [bind_values, bind_values template parameters [], NativeKey.sort_nil, List.map_nil,
    List.nil_append]

theorem bind_values_length (template : List Char) (parameters : List (String × Parameter))
    (leading : List (String × Value)) :
    (bind template parameters leading).values.length = leading.length +
      ((Template.pieces template).flatMap fun p => (Bound.ofPiece parameters p).values).length := by
  rw [bind_values, List.length_append, List.length_map, (NativeKey.sort_perm leading).length_eq]

/-! ### Counting markers -/

theorem Placeholder.Matches.count_text {p : Placeholder} {s rest : List Char}
    (h : p.Matches s rest) : p.text.count '?' = 0 := by
  rw [List.count_eq_zero, p.text_eq, List.mem_cons, not_or]
  refine ⟨by decide, fun hmem => ?_⟩
  exact absurd (h.isNameChar_of_mem_run hmem) (by decide)

/-- What a placeholder is rewritten to has a marker for each value and those of an expression. -/
theorem Placeholder.Rewritten.count_text {p : Placeholder} {parameters : List (String × Parameter)}
    {text : List Char} {values : List Value} (htext : p.text.count '?' = 0)
    (h : p.Rewritten (parameters.lookup (String.ofList p.name)) text values) :
    text.count '?' = Piece.splicedMarkers parameters (.placeholder p) + values.length := by
  rw [Piece.splicedMarkers]
  generalize parameters.lookup (String.ofList p.name) = parameter at h ⊢
  cases h with
  | unbound => exact htext
  | spliced text => rfl
  | items => exact (count_markers _).trans (Nat.zero_add _).symm
  | single v hscalar => rfl

/-- The marks of interrogation of a text cut into pieces and of what the pieces are rewritten to. -/
theorem Template.Segmented.count_flatMap_text {parameters : List (String × Parameter)}
    {s : List Char} {ps : List Piece} (h : Segmented s ps) :
    (ps.flatMap fun p => (Bound.ofPiece parameters p).text).count '?' =
      s.count '?' + (ps.map (Piece.splicedMarkers parameters)).sum +
        (ps.flatMap fun p => (Bound.ofPiece parameters p).values).length := by
  induction h with
  | nil => rfl
  | @char c s ps hnone _ ih =>
    have hc : (c :: s).count '?' = [c].count '?' + s.count '?' := by
      rw [← List.count_append, List.singleton_append]
    rw [List.flatMap_cons, List.count_append, ih, List.flatMap_cons, List.map_cons, List.sum_cons, hc]
    change [c].count '?' + _ = _ + (0 + _) + _
    simp only [Bound.ofPiece, Bound.literal, List.nil_append]
    omega
  | @placeholder p s rest ps hp _ ih =>
    have htext := hp.count_text
    have hrewritten := Piece.rewritten_ofPiece parameters (.placeholder p)
    obtain ⟨⟩ | ⟨hplaceholder⟩ := hrewritten
    rw [List.flatMap_cons, List.count_append, ih, List.flatMap_cons, List.map_cons, List.sum_cons,
      hp.written, List.count_append, htext, hplaceholder.count_text htext, List.length_append]
    omega

/-- **Markers and values stay aligned.**  A template is cut into its leftmost greedy matches and the
characters between them, in the only way there is.  The text and the values of the bound statement
are those of the pieces, from left to right, after the leading values, each of them once.  The
marks of interrogation in the statement are those of the template, those of the expressions that are
put into it, and one for each value that is not a leading one. -/
theorem bind_aligned (template : List Char) (parameters : List (String × Parameter))
    (leading : List (String × Value)) :
    ∃ (pieces : List Piece) (rewritings : List (List Char × List Value)) (values : List Value),
      (∀ ps, Template.Segmented template ps ↔ ps = pieces) ∧
      List.Forall₂ (fun p r => p.Rewritten parameters r.1 r.2) pieces rewritings ∧
      values.Perm (leading.map Prod.snd) ∧
      (bind template parameters leading).sql = rewritings.flatMap Prod.fst ∧
      (bind template parameters leading).values = values ++ rewritings.flatMap Prod.snd ∧
      (bind template parameters leading).sql.count '?' + leading.length =
        template.count '?' + (pieces.map (Piece.splicedMarkers parameters)).sum +
          (bind template parameters leading).values.length := by
  refine ⟨Template.pieces template, (Template.pieces template).map fun p =>
    ((Bound.ofPiece parameters p).text, (Bound.ofPiece parameters p).values),
    (NativeKey.sort leading).map Prod.snd, fun ps => Template.segmented_iff, ?_, ?_, ?_, ?_, ?_⟩
  · rw [List.forall₂_map_right_iff, List.forall₂_same]
    exact fun p _ => Piece.rewritten_ofPiece parameters p
  · exact (NativeKey.sort_perm leading).map Prod.snd
  · rw [bind_sql, List.flatMap_map]
  · rw [bind_values, List.flatMap_map]
  · rw [bind_values_length, bind_sql, (Template.segmented_pieces template).count_flatMap_text]
    omega

end TableMapping
