import TableMapping.Proofs.KeyedLists
import TableMapping.Proofs.Query.Isolation

/-!
# The parameters that a template names

A template names what stands in the placeholders that it is cut into.  The bound statement depends on
the parameters of these names, and on no others; and where none of them is there, the template stays
as it is, whatever looks like a placeholder in it.  So nothing is lost when a template without
parameters is not even looked at.

## Main definitions

* `Template.Mentions` : a name stands in a placeholder of a template.
* `Template.names` : the names of a template, from left to right.

## Main results

* `bind_congr` : parameters that agree on the names of a template give the same statement.
* `bind_of_unnamed` : without any parameter of such a name the template is the statement.
* `mentions_iff_bind_ne` : each of the names counts.
* `bind_named` : all of it.
-/

namespace TableMapping

/-! ### Names -/

/-- The name in a placeholder. -/
def Piece.name? : Piece → Option String
  | char _ => none
  | placeholder p => some (String.ofList p.name)

namespace Template

/-- The name stands in a placeholder that the template is cut into. -/
def Mentions (template : List Char) (name : String) : Prop :=
  ∃ pieces p, Segmented template pieces ∧ Piece.placeholder p ∈ pieces ∧ String.ofList p.name = name

/-- The names in the placeholders of a template. -/
def names (template : List Char) : List String := (pieces template).filterMap Piece.name?

theorem mem_names_iff {template : List Char} {name : String} :
    name ∈ names template ↔
      ∃ p, Piece.placeholder p ∈ pieces template ∧ String.ofList p.name = name := by
  rw [names, List.mem_filterMap]
  constructor
  · rintro ⟨piece, hpiece, hname⟩
    cases piece with
    | char c => cases hname
    | placeholder p => exact ⟨p, hpiece, Option.some.inj hname⟩
  · rintro ⟨p, hp, rfl⟩
    exact ⟨.placeholder p, hp, rfl⟩

/-- The names of a template are those that the scan finds. -/
theorem mentions_iff {template : List Char} {name : String} :
    Mentions template name ↔ name ∈ names template := by
  rw [mem_names_iff]
  constructor
  · rintro ⟨ps, p, hps, hp, hname⟩
    exact ⟨p, segmented_iff.mp hps ▸ hp, hname⟩
  · rintro ⟨p, hp, hname⟩
    exact ⟨_, p, segmented_pieces template, hp, hname⟩

end Template

open Template (Mentions)

variable {template : List Char} {parameters parameters₁ parameters₂ : List (String × Parameter)}

/-! ### Statements -/

theorem bind_eq (template : List Char) (parameters : List (String × Parameter))
    (native : List (String × Value)) :
    bind template parameters native =
      ⟨(Template.pieces template).flatMap fun p => (Bound.ofPiece parameters p).text,
        (NativeKey.sort native).map Prod.snd ++
          (Template.pieces template).flatMap fun p => (Bound.ofPiece parameters p).values⟩ := by
  rw [← bind_sql, ← bind_values]

/-- What a piece turns into depends on the parameter of its name. -/
theorem ofPiece_congr
    (h : ∀ name, Mentions template name → parameters₁.lookup name = parameters₂.lookup name)
    {p : Piece} (hp : p ∈ Template.pieces template) :
    Bound.ofPiece parameters₁ p = Bound.ofPiece parameters₂ p := by
  cases p with
  | char c => rfl
  | placeholder p =>
    have hname := h _ (Template.mentions_iff.mpr (Template.mem_names_iff.mpr ⟨p, hp, rfl⟩))
    rw [Bound.ofPiece, Bound.ofPiece, hname]

/-- Parameters that agree on the names of a template give the same statement. -/
theorem bind_congr
    (h : ∀ name, Mentions template name → parameters₁.lookup name = parameters₂.lookup name)
    (native : List (String × Value)) :
    bind template parameters₁ native = bind template parameters₂ native := by
  have hpieces : ∀ p ∈ Template.pieces template,
      Bound.ofPiece parameters₁ p = Bound.ofPiece parameters₂ p := fun _ hp => ofPiece_congr h hp
  rw [bind_eq, bind_eq, List.flatMap_congr fun p hp => congrArg Bound.text (hpieces p hp),
    List.flatMap_congr fun p hp => congrArg Bound.values (hpieces p hp)]

/-- Without parameters the template is not changed, and there are no values but the native ones. -/
theorem bind_nil (template : List Char) (native : List (String × Value)) :
    bind template [] native = ⟨template, (NativeKey.sort native).map Prod.snd⟩ := by
  simp only [bind_eq, Bound.text_ofPiece_nil, Bound.values_ofPiece_nil, Template.flatMap_text_pieces]
  simp

theorem bind_of_unnamed (h : ∀ name, Mentions template name → parameters.lookup name = none)
    (native : List (String × Value)) :
    bind template parameters native = ⟨template, (NativeKey.sort native).map Prod.snd⟩ := by
  rw [← bind_nil]
  exact bind_congr h native

/-- A placeholder whose name stands for the null hands the null over. -/
theorem values_ofPiece_null (p : Placeholder) :
    (Bound.ofPiece [(String.ofList p.name, .value .null)] (.placeholder p)).values = [.null] := by
  rw [Bound.ofPiece, Keyed.lookup_cons, if_pos rfl]
  exact (Bound.ofPlaceholder_of_ne_array p (by simp)).2

/-- A parameter alone makes a difference if and only if the template names it. -/
theorem mentions_iff_bind_ne {name : String} (native : List (String × Value)) :
    Mentions template name ↔
      ∃ parameter, bind template [(name, parameter)] native ≠ bind template [] native := by
  constructor
  · intro h
    obtain ⟨p, hp, rfl⟩ := Template.mem_names_iff.mp (Template.mentions_iff.mp h)
    refine ⟨.value .null, fun heq => ?_⟩
    rw [bind_nil, bind_eq] at heq
    have hvalues := List.append_right_eq_self.mp (congrArg Statement.values heq)
    have hnone := List.flatMap_eq_nil_iff.mp hvalues _ hp
    exact absurd ((values_ofPiece_null p).symm.trans hnone) (List.cons_ne_nil _ _)
  · rintro ⟨parameter, hne⟩
    by_contra hunnamed
    refine hne (bind_congr (fun other hother => ?_) native)
    have hother' : other ≠ name := by
      rintro rfl
      exact hunnamed hother
    rw [Keyed.lookup_cons, if_neg hother']

/-- **Only the parameters that a template names matter**, and each of them does.  Two maps that agree
on the names of the template give the same statement, whatever else is in them and whether they are
empty or not.  If none of the names is supplied, the statement is the template, with the native values
and no others. -/
theorem bind_named (template : List Char) (native : List (String × Value)) :
    (∀ parameters₁ parameters₂ : List (String × Parameter),
      (∀ name, Mentions template name → parameters₁.lookup name = parameters₂.lookup name) →
      bind template parameters₁ native = bind template parameters₂ native) ∧
    (∀ parameters : List (String × Parameter),
      (∀ name, Mentions template name → parameters.lookup name = none) →
      bind template parameters native = ⟨template, (NativeKey.sort native).map Prod.snd⟩) ∧
    ∀ name, Mentions template name ↔
      ∃ parameter, bind template [(name, parameter)] native ≠ bind template [] native :=
  ⟨fun _ _ h => bind_congr h native, fun _ h => bind_of_unnamed h native,
    fun _ => mentions_iff_bind_ne native⟩

/-- A time, two colons, points without a letter and a spread have names in them, and neither the start
of one of these names is supplied for it nor a name with the points of a spread. -/
theorem bind_named_literals :
    let template := "'10:30' a::int :.. :...ids :ids. ::".toList
    let ids := ("ids", Parameter.value (.array [.int 1, .int 2]))
    (∀ name, Mentions template name ↔ name ∈ ["30", "int", "..", "ids", "ids."]) ∧
      bind template [("id", .sql "7"), ids] [] = bind template [ids, ("...ids", .value .null)] [] ∧
      bind template [("id", .value .null), ("...ids", .sql "?")] [("0", .int 5)] =
        ⟨template, [.int 5]⟩ := by
  intro template ids
  have hnames : ∀ name, Mentions template name ↔ name ∈ ["30", "int", "..", "ids", "ids."] := by
    have hfound : Template.names template = ["30", "int", "..", "ids", "ids."] := by decide
    intro name
    rw [Template.mentions_iff, hfound]
  refine ⟨hnames, (bind_named template []).1 _ _ ?_, ?_⟩
  · simp [hnames, ids, List.lookup_cons]
  · rw [(bind_named template [("0", .int 5)]).2.1 _ (by simp [hnames, List.lookup_cons])]
    simp [NativeKey.sort]

end TableMapping
