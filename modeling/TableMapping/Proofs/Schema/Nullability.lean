import Mathlib.Data.List.Find
import TableMapping.Proofs.Schema.Locality

/-!
# Rules for the null

The rule for the null decides about one attribute and is asked for nothing else: a drift in an attribute
before that one stays as it is whatever the rule says, and the attributes after it are looked at only if
the rule accepts the two columns.  So with a laxer rule a drift in that attribute may turn into a later
one or disappear, and nothing else becomes of any drift.

## Main definitions

* `Nullability.Covers` : a rule that accepts whatever another one accepts.
* `Attribute.beforeNullable`, `Attribute.afterNullable` : the attributes on both sides of the null.
* `Schema.Eased` : what may become of a drift under a laxer rule.

## Main results

* `Schema.find?_differs` : the place of the rule among the comparisons.
* `Schema.attributeAmong?_eased` : one column under two rules.
* `Schema.changedColumns_laxer` : the columns that have drifted under two rules.
-/

namespace TableMapping

/-- A rule accepts every pair of columns that another one accepts. -/
def Nullability.Covers (lax tight : Nullability) : Prop :=
  ∀ c l, tight c l = true → lax c l = true

/-- The rule that exempts the primary key and lets the server accept more accepts whatever is equal. -/
theorem Nullability.lenient_covers_strict : Covers .lenient .strict := by
  intro c l h
  have hequal : (c.isNullable == l.isNullable) = true := h
  rw [lenient, hequal, Bool.or_true, Bool.true_or]

namespace Attribute

/-- The attributes that are compared before the null. -/
def beforeNullable : List Attribute :=
  [name, type, length, width, zerofill, unsigned, expression, storage, precision, scale, comment,
    default, members, onUpdate, primary]

/-- The attributes that are compared after the null. -/
def afterNullable : List Attribute := [unique, generated]

theorem all_eq_append : all = beforeNullable ++ nullable :: afterNullable := rfl

end Attribute

namespace Schema

variable {flavor : Flavor} {agree tight lax : Nullability} {e : Entity} {live : List LiveColumn}
  {c : Column} {l : LiveColumn} {clause : Option (List Char)}

/-! ### The place of the rule -/

/-- The rule is asked for no other attribute. -/
theorem differs_eq_strict {a : Attribute} (h : a ≠ .nullable) :
    differs flavor agree e c l clause a = differs flavor .strict e c l clause a := by
  cases a with
  | nullable => exact absurd rfl h
  | _ => rfl

theorem find?_differs_eq_strict {attributes : List Attribute} (h : .nullable ∉ attributes) :
    attributes.find? (differs flavor agree e c l clause) =
      attributes.find? (differs flavor .strict e c l clause) :=
  List.find?_congr fun _ ha => differs_eq_strict (ne_of_mem_of_not_mem ha h)

/-- The first attribute that differs is one before the null, or else the null if the rule does not
accept the two columns, or else one after it. -/
theorem find?_differs :
    Attribute.all.find? (differs flavor agree e c l clause) =
      (Attribute.beforeNullable.find? (differs flavor .strict e c l clause)).or
        (if agree c l then Attribute.afterNullable.find? (differs flavor .strict e c l clause)
          else some .nullable) := by
  rw [Attribute.all_eq_append, List.find?_append, List.find?_cons,
    find?_differs_eq_strict (by decide), find?_differs_eq_strict (by decide), differs]
  cases agree c l <;> rfl

/-! ### One column under two rules -/

/-- What may become of a drift under a laxer rule for the null. -/
inductive Eased : Option Attribute → Option Attribute → Prop
  | same (change : Option Attribute) : Eased change change
  | nullable {change : Option Attribute}
      (h : ∀ a ∈ change, a = .nullable ∨ a = .unique ∨ a = .generated) :
      Eased (some .nullable) change

namespace Eased

variable {a b : Attribute} {before after : Option Attribute}

theorem isSome_of_isSome (h : Eased before after) (hafter : after.isSome = true) :
    before.isSome = true := by
  cases h with
  | same => exact hafter
  | nullable => rfl

theorem eq_nullable (h : Eased (some a) none) : a = .nullable := by
  cases h
  rfl

theorem eq_or_later (h : Eased (some a) (some b)) :
    a ≠ .nullable ∧ b = a ∨ a = .nullable ∧ (b = .nullable ∨ b = .unique ∨ b = .generated) := by
  cases h with
  | same =>
    by_cases ha : a = .nullable
    · exact .inr ⟨ha, .inl ha⟩
    · exact .inl ⟨ha, rfl⟩
  | nullable hb => exact .inr ⟨rfl, hb b rfl⟩

end Eased

theorem find?_differs_eased (h : lax.Covers tight) :
    Eased (Attribute.all.find? (differs flavor tight e c l clause))
      (Attribute.all.find? (differs flavor lax e c l clause)) := by
  rw [find?_differs, find?_differs]
  cases Attribute.beforeNullable.find? (differs flavor .strict e c l clause) with
  | some a => exact .same (some a)
  | none =>
    -- Nothing before the null differs, so that the rules decide.
    rw [Option.none_or, Option.none_or]
    by_cases htight : tight c l = true
    · rw [if_pos htight, if_pos (h c l htight)]
      exact .same _
    · rw [if_neg htight]
      refine .nullable fun a ha => ?_
      split at ha
      case isTrue => exact .inr (by simpa [Attribute.afterNullable] using List.mem_of_find?_eq_some ha)
      case isFalse => exact .inl (Option.some.inj ha).symm

/-- The rule has no part in whether a default can be written. -/
theorem attributeAmong?_eased (h : lax.Covers tight) :
    Eased (attributeAmong? flavor tight e live c) (attributeAmong? flavor lax e live c) := by
  rw [attributeAmong?, attributeAmong?, driftAmong, driftAmong]
  cases counterpart? live c with
  | none => exact .same none
  | some l =>
    dsimp only
    rw [drift, drift]
    cases c.defaultClause flavor with
    | error problem => exact .same none
    | ok clause => exact find?_differs_eased h

/-- What has drifted under a rule has drifted under a stricter one. -/
theorem Drifted.of_covers (h : lax.Covers tight) (hc : Drifted flavor lax e live c) :
    Drifted flavor tight e live c :=
  drifted_iff.mpr ((attributeAmong?_eased h).isSome_of_isSome (drifted_iff.mp hc))

theorem DriftedIn.eq_nullable {a : Attribute} (h : lax.Covers tight)
    (ha : DriftedIn flavor tight e live c a) (hc : ¬ Drifted flavor lax e live c) :
    a = .nullable := by
  have heased : Eased (attributeAmong? flavor tight e live c) (attributeAmong? flavor lax e live c) :=
    attributeAmong?_eased h
  rw [attributeAmong?_eq_some_iff.mpr ha, Option.not_isSome_iff_eq_none.mp (mt drifted_iff.mpr hc)]
    at heased
  exact heased.eq_nullable

theorem DriftedIn.eq_or_later {a b : Attribute} (h : lax.Covers tight)
    (ha : DriftedIn flavor tight e live c a) (hb : DriftedIn flavor lax e live c b) :
    a ≠ .nullable ∧ b = a ∨ a = .nullable ∧ (b = .nullable ∨ b = .unique ∨ b = .generated) := by
  have heased : Eased (attributeAmong? flavor tight e live c) (attributeAmong? flavor lax e live c) :=
    attributeAmong?_eased h
  rw [attributeAmong?_eq_some_iff.mpr ha, attributeAmong?_eq_some_iff.mpr hb] at heased
  exact heased.eq_or_later

/-! ### All columns -/

/-- Whether a comparison gives an answer does not depend on the rule. -/
theorem exists_changedColumns_iff :
    (∃ columns, changedColumns flavor agree e live = .ok columns) ↔ Writable e live := by
  simp only [changedColumns_eq_ok_iff, exists_and_left, exists_eq, and_true]

/-- **A laxer rule only takes away what has drifted in the null alone.**  Both rules give an answer if
and only if the defaults can be written.  The columns that have drifted under the laxer rule are some of
those that have under the other one, in the same order.  A column that is no longer among them has
drifted in the null under the other rule, and one that still is has drifted in the same attribute as
before, unless that is the null, which may give way to one of the two attributes after it. -/
theorem changedColumns_laxer (h : lax.Covers tight) (flavor : Flavor) (e : Entity)
    (live : List LiveColumn) :
    ((∃ columns, changedColumns flavor tight e live = .ok columns) ↔ Writable e live) ∧
    ((∃ kept, changedColumns flavor lax e live = .ok kept) ↔ Writable e live) ∧
    ∀ columns kept, changedColumns flavor tight e live = .ok columns →
      changedColumns flavor lax e live = .ok kept →
      kept.Sublist columns ∧
      (∀ c ∈ columns, c ∉ kept → DriftedIn flavor tight e live c .nullable) ∧
      ∀ c ∈ kept, ∃ a b, DriftedIn flavor tight e live c a ∧ DriftedIn flavor lax e live c b ∧
        (a ≠ .nullable ∧ b = a ∨
          a = .nullable ∧ (b = .nullable ∨ b = .unique ∨ b = .generated)) := by
  refine ⟨exists_changedColumns_iff, exists_changedColumns_iff, fun columns kept htight hlax => ?_⟩
  obtain ⟨-, rfl⟩ := changedColumns_eq_ok_iff.mp htight
  obtain ⟨-, rfl⟩ := changedColumns_eq_ok_iff.mp hlax
  refine ⟨List.monotone_filter_right _ fun c hc => ?_, fun c hc hdropped => ?_, fun c hc => ?_⟩
  · exact decide_eq_true (Drifted.of_covers h (of_decide_eq_true hc))
  · obtain ⟨hmem, hc⟩ := List.mem_filter.mp hc
    obtain ⟨a, ha⟩ := of_decide_eq_true hc
    have hnot : ¬ Drifted flavor lax e live c := fun hlax =>
      hdropped (List.mem_filter.mpr ⟨hmem, decide_eq_true hlax⟩)
    exact ha.eq_nullable h hnot ▸ ha
  · obtain ⟨b, hb⟩ := of_decide_eq_true (List.mem_filter.mp hc).2
    obtain ⟨a, ha⟩ := Drifted.of_covers h ⟨b, hb⟩
    exact ⟨a, b, ha, hb, ha.eq_or_later h hb⟩

/-- The lenient rule exempts the primary key, lets a uniqueness that the server adds show behind the
null, and still refuses a column that the server does not let be null. -/
theorem changedColumns_laxer_lenient :
    let id := { Column.new "id" (.dialect .int) with isNullable := false, isPrimary := true }
    let code := { Column.new "code" (.dialect .text) with isNullable := false }
    let note := Column.new "note" (.dialect .text)
    let kind := { Column.new "kind" (.dialect .text) with isNullable := false }
    let e : Entity := { Entity.new "stock" with columns := [id, code, note, kind] }
    let live :=
      [{ LiveColumn.new "id" "int" with isNullable := true, isPrimary := true },
        { LiveColumn.new "code" "text" with isNullable := true, isUnique := true },
        { LiveColumn.new "note" "text" with isNullable := false },
        { LiveColumn.new "kind" "blob" with isNullable := true }]
    changedColumns .mysql .strict e live = .ok [id, code, note, kind] ∧
      changedColumns .mysql .lenient e live = .ok [code, note, kind] ∧
      DriftedIn .mysql .strict e live id .nullable ∧
      DriftedIn .mysql .strict e live code .nullable ∧
      DriftedIn .mysql .lenient e live code .unique := by
  intro id code note kind e live
  obtain ⟨-, -, hboth⟩ := changedColumns_laxer Nullability.lenient_covers_strict .mysql e live
  have htight : changedColumns .mysql .strict e live = .ok [id, code, note, kind] := rfl
  have hlax : changedColumns .mysql .lenient e live = .ok [code, note, kind] := rfl
  obtain ⟨-, hdropped, -⟩ := hboth _ _ htight hlax
  have hid : id ∉ [code, note, kind] := fun hmem =>
    absurd (List.mem_map_of_mem (f := Column.name) hmem) (by decide)
  exact ⟨htight, hlax, hdropped id List.mem_cons_self hid, attributeAmong?_eq_some_iff.mp rfl,
    attributeAmong?_eq_some_iff.mp rfl⟩

end Schema

end TableMapping
