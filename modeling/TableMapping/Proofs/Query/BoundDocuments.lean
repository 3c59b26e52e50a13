import TableMapping.CommandLine.Run
import TableMapping.Proofs.KeyedLists
import TableMapping.Proofs.Query.Alignment
import TableMapping.Proofs.Wire.DocumentColumns

/-!
# Bound documents

The parameters of a template can come as the fields of an object.  A document is turned into a
value, goes through the binding of the template, and is turned into a document again; and it arrives
as it was, where the template asks for it.  Only an object with a text in the field `sql` gets into
the text of the statement.

## Main definitions

* `Document.IsExpression` : a document is the text of an expression and not a value.
* `Placeholder.Filled`, `Piece.Filled` : what a piece turns into, and the documents that it hands
  over.

## Main results

* `Parameter.readAll_eq_ok_iff` : parameters are read from the text of an object, and from no other.
* `Piece.filled_iff` : what binding turns a piece into.
* `bind_documents` : the documents of a bound statement, up to the output of the program.
-/

namespace TableMapping

/-! ### Reading an object of parameters -/

namespace Decoder

variable {α : Type} {d : Decoder α} {a : α} {s : List Char} {limit : Nat} {o : Outline}
  {P : List (String × Document)}

theorem readText_eq_ok_iff :
    d.readText s = .ok a ↔
      d textLimit (Outline.ofTokens (tokens s)).1 = .ok a ∧
        (Outline.ofTokens (tokens s)).2 = none := by
  rw [readText]
  generalize Outline.ofTokens (tokens s) = outline
  obtain ⟨o, after⟩ := outline
  constructor
  · intro h
    obtain ⟨b, hb, h⟩ := Outline.exists_of_bind_eq_ok h
    cases after with
    | some e => cases h
    | none =>
      cases h
      exact ⟨hb, rfl⟩
  · rintro ⟨ha, hnone⟩
    obtain rfl : after = none := hnone
    exact congrArg (· >>= fun a => .ok a) ha

theorem entries_document (limit : Nat) (fields : List (FieldName × Outline)) :
    entries document limit fields = Outline.documentFields limit fields := by
  induction fields with
  | nil => rfl
  | cons field rest ih =>
    rw [entries, Outline.documentFields, ih]
    rfl

theorem document_object (limit : Nat) (fields : List (FieldName × Outline))
    (tail : Option Failure) :
    document limit (.object fields tail) =
      (map document limit (.object fields tail)).map Document.object := by
  cases limit with
  | zero => rfl
  | succ limit =>
    rw [document, Outline.document, map, ← entries_document]
    cases entries document limit fields with
    | error e => rfl
    | ok pairs => cases tail <;> rfl

/-- A map of documents is read from an outline if an object with these fields is. -/
theorem map_document_eq_ok_iff :
    map document limit o = .ok P ↔ document limit o = .ok (.object P) := by
  cases o with
  | object fields tail =>
    rw [document_object]
    cases map document limit (.object fields tail) with
    | error e => exact ⟨fun h => (nomatch h), fun h => (nomatch h)⟩
    | ok pairs => simp [Except.map]
  -- Anything else is refused as a map, and what it is read as is no object.
  | list items tail =>
    refine ⟨fun h => (nomatch h), fun h => ?_⟩
    cases limit with
    | zero => cases h
    | succ limit =>
      obtain ⟨_, _, h⟩ := Outline.exists_of_bind_eq_ok h
      obtain ⟨_, _, h⟩ := Outline.exists_of_bind_eq_ok h
      cases h
  | number value | text value =>
    refine ⟨fun h => (nomatch h), fun h => ?_⟩
    obtain ⟨_, _, h⟩ := Outline.exists_of_bind_eq_ok h
    cases h
  | null | bool b | broken place failure => exact ⟨fun h => (nomatch h), fun h => (nomatch h)⟩

theorem readText_map_document_eq_ok_iff :
    (map document).readText s = .ok P ↔ Document.read s = .ok (.object P) := by
  rw [Document.read, readText_eq_ok_iff, readText_eq_ok_iff, map_document_eq_ok_iff]

end Decoder

namespace Parameter

/-- Parameters are read from the text of an object, and from no other. -/
theorem readAll_eq_ok_iff {s : List Char} {parameters : List (String × Parameter)} :
    readAll s = .ok parameters ↔
      ∃ P, Document.read s = .ok (.object P) ∧ parameters = ofFields P := by
  simp only [← Decoder.readText_map_document_eq_ok_iff]
  rw [readAll]
  cases (Decoder.map .document).readText s with
  | error e => simp [Except.map]
  | ok P => simp [Except.map, eq_comm]

theorem lookup_ofFields (P : List (String × Document)) (name : String) :
    (ofFields P).lookup name = (P.lookup name).map ofDocument := by
  induction P with
  | nil => rfl
  | cons field rest ih =>
    rw [ofFields, List.map_cons, Keyed.lookup_cons, Keyed.lookup_cons, ← ofFields, ih]
    split_ifs <;> rfl

end Parameter

/-! ### Expressions and values -/

/-- The document is an object whose field `sql` holds the text of an expression. -/
def Document.IsExpression (d : Document) (text : String) : Prop :=
  ∃ fields, d = .object fields ∧ fields.lookup "sql" = some (.text text)

namespace Parameter

variable {d : Document} {text : String}

theorem ofDocument_of_isExpression (h : d.IsExpression text) : ofDocument d = .sql text := by
  obtain ⟨fields, rfl, hsql⟩ := h
  simp only [ofDocument, hsql]

theorem ofDocument_of_not_isExpression (h : ∀ text, ¬ d.IsExpression text) :
    ofDocument d = .value (.ofDocument d) := by
  unfold ofDocument
  split
  case h_1 fields =>
    split
    case h_1 text hsql => exact absurd ⟨fields, rfl, hsql⟩ (h text)
    case h_2 => rfl
  case h_2 => rfl

end Parameter

namespace Value

theorem toDocuments_eq_map (vs : List Value) : toDocuments vs = vs.map toDocument := by
  induction vs with
  | nil => rfl
  | cons v vs ih => rw [toDocuments, ih, List.map_cons]

theorem map_toDocument_ofDocuments (ds : List Document) :
    (ofDocuments ds).map toDocument = ds := by
  rw [← toDocuments_eq_map, toDocuments_ofDocuments]

/-- A document is a list of values if it is a list. -/
theorem ofDocument_eq_array_iff {d : Document} {vs : List Value} :
    ofDocument d = .array vs ↔ ∃ ds, d = .list ds ∧ vs = ofDocuments ds := by
  cases d with
  | list ds => simp [ofDocument, eq_comm]
  | number n =>
    rw [ofDocument]
    cases Quantity.ofNumber n <;> simp [Quantity.toValue]
  | _ => simp [ofDocument]

end Value

/-! ### The documents of a piece -/

/-- What a placeholder turns into, given the document of its name, and the documents that it hands
over. -/
inductive Placeholder.Filled (p : Placeholder) :
    Option Document → List Char → List Document → Prop
  | unbound : Filled p none p.text []
  | spliced {d : Document} {text : String} (h : d.IsExpression text) :
      Filled p (some d) text.toList []
  | items (ds : List Document) (h : p.spread = true) :
      Filled p (some (.list ds)) (markers ds.length) ds
  | single {d : Document} (hvalue : ∀ text, ¬ d.IsExpression text)
      (h : p.spread = true → ∀ ds, d ≠ .list ds) : Filled p (some d) ['?'] [d]

/-- What a piece turns into, given documents by names, and the documents that it hands over. -/
inductive Piece.Filled (P : List (String × Document)) : Piece → List Char → List Document → Prop
  | char (c : Char) : Filled P (.char c) [c] []
  | placeholder {p : Placeholder} {text : List Char} {ds : List Document}
      (h : p.Filled (P.lookup (String.ofList p.name)) text ds) : Filled P (.placeholder p) text ds

/-- A document is the text of at most one expression. -/
theorem Document.IsExpression.unique {d : Document} {s t : String} (hs : d.IsExpression s)
    (ht : d.IsExpression t) : s = t := by
  obtain ⟨fields, rfl, hs⟩ := hs
  obtain ⟨_, ⟨⟩, ht⟩ := ht
  exact Document.text.inj (Option.some.inj (hs.symm.trans ht))

theorem Placeholder.Filled.unique {p : Placeholder} {d : Option Document} {s t : List Char}
    {ds es : List Document} (hs : p.Filled d s ds) (ht : p.Filled d t es) : s = t ∧ ds = es := by
  cases hs with
  | unbound =>
    cases ht
    exact ⟨rfl, rfl⟩
  | spliced hs =>
    cases ht with
    | spliced ht => exact ⟨congrArg String.toList (hs.unique ht), rfl⟩
    | items => obtain ⟨_, ⟨⟩, _⟩ := hs
    | single hvalue => exact absurd hs (hvalue _)
  | items ds hspread =>
    cases ht with
    | spliced ht => obtain ⟨_, ⟨⟩, _⟩ := ht
    | items => exact ⟨rfl, rfl⟩
    | single _ hscalar => exact absurd rfl (hscalar hspread ds)
  | single hvalue hscalar =>
    cases ht with
    | spliced ht => exact absurd ht (hvalue _)
    | items _ hspread => exact absurd rfl (hscalar hspread _)
    | single => exact ⟨rfl, rfl⟩

/-- What a placeholder is rewritten to, and its values as documents. -/
theorem Placeholder.Rewritten.filled {p : Placeholder} {d : Option Document} {text : List Char}
    {values : List Value} (h : p.Rewritten (d.map Parameter.ofDocument) text values) :
    p.Filled d text (values.map Value.toDocument) := by
  cases d with
  | none =>
    cases h
    exact .unbound
  | some d =>
    rw [Option.map_some] at h
    by_cases hexpression : ∃ text, d.IsExpression text
    · obtain ⟨text, htext⟩ := hexpression
      rw [Parameter.ofDocument_of_isExpression htext] at h
      cases h
      exact .spliced htext
    · have hvalue := not_exists.mp hexpression
      rw [Parameter.ofDocument_of_not_isExpression hvalue] at h
      generalize hv : Value.ofDocument d = v at h
      cases h with
      | items vs hspread =>
        -- Only a list is turned into a list, so the values are split where the documents are.
        obtain ⟨ds, rfl, rfl⟩ := Value.ofDocument_eq_array_iff.mp hv
        have hlength := congrArg List.length (Value.map_toDocument_ofDocuments ds)
        rw [List.length_map] at hlength
        rw [hlength, Value.map_toDocument_ofDocuments]
        exact .items ds hspread
      | single _ hscalar =>
        rw [List.map_singleton, ← hv, Value.toDocument_ofDocument]
        refine .single hvalue fun hspread ds hds => ?_
        exact hscalar hspread _ (hv.symm.trans (Value.ofDocument_eq_array_iff.mpr ⟨ds, hds, rfl⟩))

namespace Piece

variable {P : List (String × Document)} {p : Piece} {text : List Char} {ds : List Document}

/-- What binding turns a piece into, with its values as documents. -/
def fill (P : List (String × Document)) (p : Piece) : List Char × List Document :=
  let bound := Bound.ofPiece (Parameter.ofFields P) p
  (bound.text, bound.values.map Value.toDocument)

theorem filled_fill (P : List (String × Document)) (p : Piece) :
    p.Filled P (p.fill P).1 (p.fill P).2 := by
  have hrewritten := rewritten_ofPiece (Parameter.ofFields P) p
  cases p with
  | char c => exact .char c
  | placeholder p =>
    obtain ⟨⟩ | ⟨hplaceholder⟩ := hrewritten
    rw [Parameter.lookup_ofFields] at hplaceholder
    exact .placeholder hplaceholder.filled

/-- Binding turns a piece into what it should, and into nothing else. -/
theorem filled_iff : p.Filled P text ds ↔ p.fill P = (text, ds) := by
  constructor
  · intro h
    have hfill := filled_fill P p
    cases h with
    | char c => rfl
    | placeholder h =>
      obtain ⟨⟩ | ⟨hplaceholder⟩ := hfill
      obtain ⟨htext, hds⟩ := hplaceholder.unique h
      exact Prod.ext htext hds
  · intro h
    have hfill := filled_fill P p
    rwa [h] at hfill

theorem forall₂_filled_iff {pieces : List Piece} {filled : List (List Char × List Document)} :
    List.Forall₂ (fun p f => p.Filled P f.1 f.2) pieces filled ↔
      filled = pieces.map (fill P) := by
  simp only [filled_iff]
  rw [eq_comm, ← List.forall₂_eq_eq_eq, List.forall₂_map_left_iff]

end Piece

/-! ### The output -/

theorem bind_ofFields_sql (template : List Char) (P : List (String × Document)) :
    (bind template (Parameter.ofFields P) []).sql =
      ((Template.pieces template).map (Piece.fill P)).flatMap Prod.fst := by
  rw [bind_sql, List.flatMap_map]
  rfl

theorem bind_ofFields_values (template : List Char) (P : List (String × Document)) :
    (bind template (Parameter.ofFields P) []).values.map Value.toDocument =
      ((Template.pieces template).map (Piece.fill P)).flatMap Prod.snd := by
  rw [bind_values, NativeKey.sort_nil, List.map_nil, List.nil_append, List.map_flatMap,
    List.flatMap_map]
  rfl

/-- The report of a template whose parameters can be read. -/
theorem CommandLine.Invocation.run_bind {i : Invocation} {template parameters : String}
    (hcommand : i.command = .bind template parameters) {bound : List (String × Parameter)}
    (hread : Parameter.readAll parameters.toList = .ok bound) (files : Files) :
    i.run files = .binding template.toList bound := by
  rw [run, report?, hcommand]
  simp only [hread]
  rfl

/-- **Bound documents.**  A template is cut into its leftmost greedy matches and the characters
between them, in the only way there is, and each piece is filled in the only way there is.  With the
fields of an object for parameters, the text of the bound statement and its values as documents are
those of the pieces, from left to right; and where the object is read from a text, the program
prints just these. -/
theorem bind_documents (template : String) (P : List (String × Document)) :
    ∃ (pieces : List Piece) (filled : List (List Char × List Document)),
      (∀ ps, Template.Segmented template.toList ps ↔ ps = pieces) ∧
      (∀ fs, List.Forall₂ (fun p f => p.Filled P f.1 f.2) pieces fs ↔ fs = filled) ∧
      (bind template.toList (Parameter.ofFields P) []).sql = filled.flatMap Prod.fst ∧
      (bind template.toList (Parameter.ofFields P) []).values.map Value.toDocument =
        filled.flatMap Prod.snd ∧
      ∀ parameters : String, Document.read parameters.toList = .ok (.object P) →
        Parameter.readAll parameters.toList = .ok (Parameter.ofFields P) ∧
        ∀ (i : CommandLine.Invocation) (files : CommandLine.Files),
          i.command = .bind template parameters →
            (i.run files).error = none ∧
            (i.run files).output = String.ofList (filled.flatMap Prod.fst) ++ "\n" ++
              (Document.list (filled.flatMap Prod.snd)).compact ++ "\n" := by
  refine ⟨Template.pieces template.toList, _, fun ps => Template.segmented_iff,
    fun fs => Piece.forall₂_filled_iff, bind_ofFields_sql _ P, bind_ofFields_values _ P,
    fun parameters hread => ?_⟩
  have hreadAll := Parameter.readAll_eq_ok_iff.mpr ⟨P, hread, rfl⟩
  refine ⟨hreadAll, fun i files hcommand => ?_⟩
  rw [CommandLine.Invocation.run_bind hcommand hreadAll, ← bind_ofFields_sql,
    ← bind_ofFields_values]
  exact ⟨rfl, rfl⟩

/-- The largest integer, a list in a list and an object in a list arrive as they are, and of the
objects only the one with a text in the field `sql` is an expression. -/
theorem bind_documents_nested :
    let largest := Document.number (.integer (.ofUInt64 18446744073709551615))
    let items := [Document.list [.null], .object [("sql", .text "x")]]
    let counted := Document.object [("sql", .bool true)]
    let P := [("a", largest), ("b", .list items), ("c", counted),
      ("d", .object [("sql", .text "NOW()")])]
    let i : CommandLine.Invocation :=
      ⟨none, none, .mysql, false,
        .bind ":a, :...b, :b, :...c, :d, ':e' 10:30 :..f" (Document.object P).compact⟩
    (i.run fun _ => .error .missing).error = none ∧
      (i.run fun _ => .error .missing).output =
        "?, ?, ?, ?, ?, NOW(), ':e' 10:30 :..f\n" ++
          (Document.list (largest :: items ++ [.list items, counted])).compact ++ "\n" := by
  intro largest items counted P i
  have hone : ∀ field : String × Document, Keyed.Ascending [field] := fun field =>
    ⟨fun _ h => absurd h List.not_mem_nil, trivial⟩
  have hwell : (Document.object P).WellFormed :=
    ⟨⟨by decide, by decide, by decide, hone _⟩, trivial,
      ⟨⟨trivial, trivial⟩, ⟨hone _, trivial, trivial⟩, trivial⟩, ⟨hone _, trivial, trivial⟩,
      ⟨hone _, trivial, trivial⟩, trivial⟩
  have hfree : (Document.object P).FloatFree :=
    ⟨trivial, ⟨⟨trivial, trivial⟩, ⟨trivial, trivial⟩, trivial⟩, ⟨trivial, trivial⟩,
      ⟨trivial, trivial⟩, trivial⟩
  have hread : Document.read (Document.object P).compact.toList = .ok (.object P) := by
    rw [Document.compact, String.toList_ofList, Document.read_render hwell hfree]
    rfl
  have hbound : (bind ":a, :...b, :b, :...c, :d, ':e' 10:30 :..f".toList
      (Parameter.ofFields P) []).values =
        Value.ofDocuments (largest :: items ++ [.list items, counted]) := by
    rw [bind_values, NativeKey.sort_nil]
    rfl
  obtain ⟨pieces, filled, -, -, hsql, hvalues, hrun⟩ :=
    bind_documents ":a, :...b, :b, :...c, :d, ':e' 10:30 :..f" P
  obtain ⟨herror, houtput⟩ := (hrun _ hread).2 i (fun _ => .error .missing) rfl
  have htext : filled.flatMap Prod.fst = "?, ?, ?, ?, ?, NOW(), ':e' 10:30 :..f".toList :=
    hsql.symm.trans (by rfl)
  rw [hbound, Value.map_toDocument_ofDocuments] at hvalues
  rw [htext, ← hvalues] at houtput
  exact ⟨herror, houtput⟩

end TableMapping
