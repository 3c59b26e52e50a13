import Mathlib.Data.Option.Basic
import TableMapping.Proofs.Query.Alignment

/-!
# Bound data and the text of a statement

The text of a bound statement depends on the parameters only through their shapes: the text of an
expression, the length of a list, and that some other value is there.  Nothing that a bound value
holds gets into the text, whatever it looks like.

## Main definitions

* `Parameter.SameShape` : two parameters that may differ in bound data only.

## Main results

* `bind_sql_eq_of_sameShape` : parameters of the same shapes give the same text.
-/

namespace TableMapping

/-- The parameters are the same up to bound data: one expression, or two lists of one length, or two
values that are no lists. -/
inductive Parameter.SameShape : Parameter → Parameter → Prop
  | sql (text : String) : SameShape (.sql text) (.sql text)
  | array {xs ys : List Value} (h : xs.length = ys.length) :
      SameShape (.value (.array xs)) (.value (.array ys))
  | value {v w : Value} (hv : ∀ xs, v ≠ .array xs) (hw : ∀ ys, w ≠ .array ys) :
      SameShape (.value v) (.value w)

namespace Bound

/-- The pieces have one text, and as many values. -/
structure SameText (a b : Bound) : Prop where
  text : a.text = b.text
  length : a.values.length = b.values.length

theorem SameText.rfl {a : Bound} : a.SameText a := ⟨Eq.refl _, Eq.refl _⟩

theorem spread_sameText {xs ys : List Value} (h : xs.length = ys.length) :
    (spread xs).SameText (spread ys) := by
  refine ⟨?_, h⟩
  simp only [spread]
  rw [← markers_eq, ← markers_eq, h]

/-- A value that is no list becomes one marker, whether a spread asks for it or not. -/
theorem ofPlaceholder_of_ne_array (p : Placeholder) {v : Value} (hv : ∀ xs, v ≠ .array xs) :
    (ofPlaceholder p (some (.value v))).text = marker ∧
      (ofPlaceholder p (some (.value v))).values = [v] := by
  unfold ofPlaceholder
  dsimp only
  split
  · exact absurd rfl (hv _)
  · exact ⟨rfl, rfl⟩
  · exact ⟨rfl, rfl⟩

theorem ofPlaceholder_sameText (p : Placeholder) {a b : Option Parameter}
    (h : Option.Rel Parameter.SameShape a b) :
    (ofPlaceholder p a).SameText (ofPlaceholder p b) := by
  cases h with
  | none => exact .rfl
  | some hshape =>
    cases hshape with
    | sql text => exact .rfl
    | @array xs ys hlen =>
      cases hspread : p.spread with
      | true =>
        simp only [ofPlaceholder, hspread]
        exact spread_sameText hlen
      | false =>
        simp only [ofPlaceholder, hspread]
        exact ⟨rfl, rfl⟩
    | value hv hw =>
      obtain ⟨htext, hvalues⟩ := ofPlaceholder_of_ne_array p hv
      obtain ⟨htext', hvalues'⟩ := ofPlaceholder_of_ne_array p hw
      exact ⟨htext.trans htext'.symm, by rw [hvalues, hvalues']; rfl⟩

end Bound

variable {parameters₁ parameters₂ : List (String × Parameter)}

theorem Bound.ofPiece_sameText
    (h : ∀ name, Option.Rel Parameter.SameShape (parameters₁.lookup name)
      (parameters₂.lookup name)) (p : Piece) :
    (ofPiece parameters₁ p).SameText (ofPiece parameters₂ p) := by
  cases p with
  | char c => exact .rfl
  | placeholder p => exact ofPlaceholder_sameText p (h _)

/-- Pieces with one text and as many values each have so all together. -/
theorem flatMap_sameText {f g : Piece → Bound} (ps : List Piece) (h : ∀ p, (f p).SameText (g p)) :
    (ps.flatMap fun p => (f p).text) = (ps.flatMap fun p => (g p).text) ∧
      (ps.flatMap fun p => (f p).values).length = (ps.flatMap fun p => (g p).values).length := by
  induction ps with
  | nil => exact ⟨rfl, rfl⟩
  | cons p ps ih =>
    obtain ⟨htext, hlen⟩ := ih
    refine ⟨?_, ?_⟩
    · rw [List.flatMap_cons, List.flatMap_cons, (h p).text, htext]
    · rw [List.flatMap_cons, List.flatMap_cons, List.length_append, List.length_append,
        (h p).length, hlen]

/-- **Bound data stays out of the text.**  Two runs over one template whose parameters have the same
names and shapes give the same text, whatever the values and the leading values are, and their lists
of values differ in length by the leading values only. -/
theorem bind_sql_eq_of_sameShape (template : List Char)
    (h : ∀ name, Option.Rel Parameter.SameShape (parameters₁.lookup name)
      (parameters₂.lookup name)) (leading₁ leading₂ : List (String × Value)) :
    (bind template parameters₁ leading₁).sql = (bind template parameters₂ leading₂).sql ∧
      (bind template parameters₁ leading₁).values.length + leading₂.length =
        (bind template parameters₂ leading₂).values.length + leading₁.length := by
  obtain ⟨htext, hlen⟩ :=
    flatMap_sameText (Template.pieces template) fun p => Bound.ofPiece_sameText h p
  refine ⟨?_, ?_⟩
  · rw [bind_sql, bind_sql, htext]
  · rw [bind_values_length, bind_values_length, hlen]
    omega

/-- The values of one run look like placeholders and markers, those of the other are numbers. -/
theorem bind_sql_eq_marker_texts :
    let adverse := bind ":a, :...b and :c".toList
      [("a", .value (.text ":b ? --")), ("b", .value (.array [.text ":c", .null])),
        ("c", .sql "NOW()")] [("0", .int 7)]
    let plain := bind ":a, :...b and :c".toList
      [("a", .value (.int 1)), ("b", .value (.array [.int 2, .int 3])), ("c", .sql "NOW()")] []
    adverse.sql = plain.sql ∧ adverse.values.length + 0 = plain.values.length + 1 := by
  refine bind_sql_eq_of_sameShape _ (fun name => ?_) _ _
  simp only [List.lookup_cons]
  cases name == "a" with
  | true => exact .some (.value (fun xs => by simp) fun ys => by simp)
  | false =>
    cases name == "b" with
    | true => exact .some (.array rfl)
    | false =>
      cases name == "c" with
      | true => exact .some (.sql "NOW()")
      | false => exact .none

end TableMapping
