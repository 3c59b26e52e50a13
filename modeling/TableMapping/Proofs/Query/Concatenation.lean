import TableMapping.Proofs.Query.NamedParameters

/-!
# Templates after each other

A template is cut into pieces from left to right, and the scan is in the middle of one only when it has
seen a colon and nothing but name characters since.  Any other character ends that piece.  So what
begins with such a character is cut as it is by itself, whatever template stands before it, and the
two can be bound together or apart.  What begins with a name character cannot: a colon before it
makes a placeholder of its start.

## Main results

* `Template.Scan.step_eq_of_not_isNameChar` : a character that is no name character ends a piece.
* `Template.pieces_append` : the pieces of two templates after each other.
* `Template.exists_pieces_colon` : the pieces of a colon before a name character.
* `bind_append_iff` : which templates are bound apart from what stands before them.
-/

namespace TableMapping

open Placeholder (isNameChar)

namespace Template

/-! ### The scan across a boundary -/

/-- A character that is no name character ends the piece that the scan is in. -/
theorem Scan.step_eq_of_not_isNameChar {c : Char} (hc : isNameChar c = false) (scan : Scan) :
    scan.step c = Scan.step ⟨scan.closed, none⟩ c := by
  obtain ⟨found, run⟩ := scan
  cases run with
  | none => rfl
  | some run => simp [Scan.step, Scan.closed, hc]

section

variable {t : List Char} (h : ∀ c ∈ t.head?, isNameChar c = false)

include h

/-- In front of a text that does not begin with a name character any piece is ended. -/
theorem closed_foldl_step (scan : Scan) :
    (t.foldl Scan.step scan).closed = (t.foldl Scan.step ⟨scan.closed, none⟩).closed := by
  cases t with
  | nil => rfl
  | cons c t => rw [List.foldl_cons, List.foldl_cons, scan.step_eq_of_not_isNameChar (h c rfl)]

/-- Such a text is cut into its own pieces, whatever is before it. -/
theorem pieces_append (s : List Char) : pieces (s ++ t) = pieces s ++ pieces t := by
  rw [pieces, List.foldl_append, closed_foldl_step h, foldl_step_eq, List.reverse_append]
  rfl

end

/-! ### A colon before a name character -/

/-- Name characters are pieces of their own, if no colon is before them. -/
theorem pieces_nameChars_append {run : List Char} (h : ∀ c ∈ run, isNameChar c = true)
    (t : List Char) : pieces (run ++ t) = run.map .char ++ pieces t := by
  induction run with
  | nil => rfl
  | cons c run ih =>
    have hc : c ≠ ':' := by
      rintro rfl
      exact absurd (h _ List.mem_cons_self) (by simp [Placeholder.isNameChar_colon])
    rw [List.cons_append, pieces_cons_of_ne hc, ih fun d hd => h d (List.mem_cons_of_mem c hd),
      List.map_cons, List.cons_append]

/-- A colon and the name characters at the start of a text are a placeholder together, and single
characters apart; what is behind them is cut in one way. -/
theorem exists_pieces_colon {t : List Char} (h : t.takeWhile isNameChar ≠ []) :
    ∃ (p : Placeholder) (run rest : List Char), pieces (':' :: t) = .placeholder p :: pieces rest ∧
      pieces t = run.map .char ++ pieces rest := by
  obtain ⟨p, hp, -⟩ := Placeholder.greedy_ofRun h
  refine ⟨p, t.takeWhile isNameChar, t.dropWhile isNameChar, ?_, ?_⟩
  · rw [pieces_colon, ofRun, hp]
  · rw [← pieces_nameChars_append fun d hd => List.mem_takeWhile_imp hd,
      List.takeWhile_append_dropWhile]

end Template

/-! ### Bound statements -/

/-- Single characters hand over no values. -/
theorem values_ofPiece_chars (parameters : List (String × Parameter)) (run : List Char) :
    ((run.map Piece.char).flatMap fun p => (Bound.ofPiece parameters p).values) = [] := by
  simp [Bound.ofPiece, Bound.literal]

/-- The text and the values of the placeholders of two templates after each other. -/
theorem bind_append {t : List Char} (h : ∀ c ∈ t.head?, isNameChar c = false) (s : List Char)
    (parameters : List (String × Parameter)) (native : List (String × Value)) :
    (bind (s ++ t) parameters native).sql =
        (bind s parameters native).sql ++ (bind t parameters native).sql ∧
      (bind (s ++ t) parameters []).values =
        (bind s parameters []).values ++ (bind t parameters []).values := by
  simp only [bind_eq, Template.pieces_append h, List.flatMap_append, NativeKey.sort_nil,
    List.map_nil, List.nil_append, and_self]

/-- With the name supplied, a colon before name characters has a value that neither has apart. -/
theorem exists_bind_colon_ne {t : List Char} (h : t.takeWhile isNameChar ≠ []) :
    ∃ parameters, (bind (':' :: t) parameters []).values ≠
      (bind [':'] parameters []).values ++ (bind t parameters []).values := by
  obtain ⟨p, run, rest, htogether, hapart⟩ := Template.exists_pieces_colon h
  refine ⟨[(String.ofList p.name, .value .null)], fun heq => ?_⟩
  have hcolon : Template.pieces [':'] = [':'].map .char := rfl
  have hlength := congrArg List.length heq
  simp only [bind_eq, htogether, hapart, hcolon, List.flatMap_cons, List.flatMap_append,
    values_ofPiece_null, values_ofPiece_chars, NativeKey.sort_nil, List.map_nil, List.nil_append,
    List.singleton_append, List.length_cons] at hlength
  omega

/-- **Binding and concatenation.**  A template can be bound apart from whatever stands before it if and
only if it is empty or begins with a character that is no name character.  Then the text is that of
both statements, and the values are the native ones, those of the first template and those of the
second. -/
theorem bind_append_iff (t : List Char) :
    (∀ (s : List Char) (parameters : List (String × Parameter)) (native : List (String × Value)),
      (bind (s ++ t) parameters native).sql =
          (bind s parameters native).sql ++ (bind t parameters native).sql ∧
        ∃ us vs : List Value,
          (bind s parameters native).values = (NativeKey.sort native).map Prod.snd ++ us ∧
          (bind t parameters native).values = (NativeKey.sort native).map Prod.snd ++ vs ∧
          (bind (s ++ t) parameters native).values =
            (NativeKey.sort native).map Prod.snd ++ (us ++ vs)) ↔
    ∀ c ∈ t.head?, isNameChar c = false := by
  constructor
  · intro h c hc
    by_contra hname
    obtain ⟨rest, rfl⟩ : ∃ rest, t = c :: rest := List.head?_eq_some_iff.mp hc
    have htake : (c :: rest).takeWhile isNameChar ≠ [] := by
      rw [List.takeWhile_cons_of_pos (by simpa using hname)]
      exact List.cons_ne_nil _ _
    obtain ⟨parameters, hne⟩ := exists_bind_colon_ne htake
    obtain ⟨-, us, vs, hs, ht, hst⟩ := h [':'] parameters []
    simp only [NativeKey.sort_nil, List.map_nil, List.nil_append] at hs ht hst
    rw [← hs, ← ht] at hst
    exact hne hst
  · intro h s parameters native
    obtain ⟨hsql, hvalues⟩ := bind_append h s parameters native
    refine ⟨hsql, _, _, bind_values_eq_append s parameters native,
      bind_values_eq_append t parameters native, ?_⟩
    rw [bind_values_eq_append, hvalues]

/-- A colon at the end of the first template does not make a name of the spread that follows it. -/
theorem bind_append_iff_spread :
    let s := "x = :x AND y IN (:".toList
    let t := ":...x)".toList
    let parameters := [("x", Parameter.value (.array [.int 1, .int 2]))]
    (∀ c ∈ t.head?, isNameChar c = false) ∧
      (bind (s ++ t) parameters [("0", .null)]).sql = "x = ? AND y IN (:?, ?)".toList ∧
      (bind (s ++ t) parameters [("0", .null)]).values =
        [.null, .array [.int 1, .int 2], .int 1, .int 2] := by
  intro s t parameters
  have hapart : ∀ c ∈ t.head?, isNameChar c = false := by
    intro c hc
    obtain rfl : ':' = c := Option.some.inj hc
    decide
  have hsort : (NativeKey.sort [("0", Value.null)]).map Prod.snd = [.null] := by simp [NativeKey.sort]
  obtain ⟨hsql, us, vs, hs, ht, hst⟩ := (bind_append_iff t).mpr hapart s parameters [("0", .null)]
  refine ⟨hapart, hsql.trans rfl, ?_⟩
  rw [bind_eq, List.append_cancel_left_eq] at hs ht
  rw [hst, ← hs, ← ht, hsort]
  rfl

end TableMapping
