import TableMapping.CommandLine.Run
import TableMapping.Proofs.KeyedLists

/-!
# Drifted columns one by one

Whether a declared column has drifted is decided by the first live column of its name, and by
nothing else among the live columns.  So the order of live columns with distinct names does not
matter, and live columns without a declared column of their name may come and go.  A comparison
gives no answer only if the default of a declared column with a counterpart cannot be written.

## Main definitions

* `Schema.FirstNamed` : the first live column of a name.
* `Schema.named` : the live columns that have the name of a declared column.
* `Schema.DriftedIn`, `Schema.Drifted` : a declared column has a counterpart and differs from it.
* `Schema.Writable` : the defaults that a comparison needs can be written.

## Main results

* `Schema.changedColumns_eq_ok_iff` : the declared columns that have drifted.
* `Schema.changedColumns_congr` : only the counterparts count.
* `Schema.comparison_output` : the rows that are printed.
* `Schema.changedColumns_local` : the columns that have drifted, whatever else is live.
-/

namespace TableMapping.Schema

variable {flavor : Flavor} {agree : Nullability} {e : Entity} {live live' : List LiveColumn}
  {c : Column} {l : LiveColumn} {a : Attribute}

/-! ### Counterparts -/

/-- A live column has a name, and none before it has that name. -/
def FirstNamed (live : List LiveColumn) (name : String) (l : LiveColumn) : Prop :=
  l.name = name ∧ ∃ before after, live = before ++ l :: after ∧ ∀ other ∈ before, other.name ≠ name

theorem counterpart?_eq_some_iff :
    counterpart? live c = some l ↔ FirstNamed live c.databaseName l := by
  rw [counterpart?, List.find?_eq_some_iff_append]
  simp only [FirstNamed, beq_iff_eq, Bool.not_eq_true', beq_eq_false_iff_ne]

theorem counterpart?_eq_none_iff :
    counterpart? live c = none ↔ ∀ l ∈ live, l.name ≠ c.databaseName := by
  rw [counterpart?, List.find?_eq_none]
  simp only [beq_iff_eq, ne_eq]

/-- The order of live columns with distinct names does not matter. -/
theorem counterpart?_perm (h : (live.map (·.name)).Nodup) (hperm : live.Perm live') (c : Column) :
    counterpart? live' c = counterpart? live c :=
  Keyed.find?_perm h hperm c.databaseName

/-- The live columns that have the name of some declared column. -/
def named (e : Entity) (live : List LiveColumn) : List LiveColumn :=
  live.filter fun l => (e.column? l.name).isSome

theorem counterpart?_named (hc : c ∈ e.columns) :
    counterpart? (named e live) c = counterpart? live c := by
  have hnamed : ∀ l : LiveColumn, l.name = c.databaseName → (e.column? l.name).isSome = true := by
    intro l hl
    rw [Entity.column?, List.find?_isSome]
    exact ⟨c, hc, beq_iff_eq.mpr hl.symm⟩
  rw [counterpart?, named, List.find?_filter, counterpart?]
  congr 1
  funext l
  rw [Bool.eq_iff_iff, decide_eq_true_iff]
  exact and_iff_right_of_imp fun hl => hnamed l (beq_iff_eq.mp hl)

/-! ### One column after the other -/

/-- A declared column has a counterpart, and `a` is the first attribute in which it differs. -/
def DriftedIn (flavor : Flavor) (agree : Nullability) (e : Entity) (live : List LiveColumn)
    (c : Column) (a : Attribute) : Prop :=
  ∃ l, FirstNamed live c.databaseName l ∧ drift flavor agree e c l = .ok (some a)

/-- A declared column has a counterpart and differs from it in some attribute. -/
def Drifted (flavor : Flavor) (agree : Nullability) (e : Entity) (live : List LiveColumn)
    (c : Column) : Prop :=
  ∃ a, DriftedIn flavor agree e live c a

/-- The default of a column can be written: it is no floating-point number that would have too many
decimals. -/
def WritableDefault (c : Column) : Prop :=
  ∀ x, c.default = some (.float x) → c.columnType.isEnum = false →
    (c.scale.getD 0).toNat ≤ DefaultValue.decimalLimit

/-- The defaults of the declared columns with a counterpart can be written. -/
def Writable (e : Entity) (live : List LiveColumn) : Prop :=
  ∀ c ∈ e.columns, (∃ l ∈ live, l.name = c.databaseName) → WritableDefault c

/-- The attribute in which a column has drifted, if that can be told and there is one. -/
def attributeAmong? (flavor : Flavor) (agree : Nullability) (e : Entity) (live : List LiveColumn)
    (c : Column) : Option Attribute :=
  match driftAmong flavor agree e live c with
  | .ok change => change
  | .error _ => none

/-- Those of some columns that have drifted, each with its attribute. -/
def driftsAmong (flavor : Flavor) (agree : Nullability) (e : Entity) (live : List LiveColumn)
    (columns : List Column) : List (Column × Attribute) :=
  columns.filterMap fun c => (attributeAmong? flavor agree e live c).map (c, ·)

theorem driftsAmong_cons (c : Column) (columns : List Column) :
    driftsAmong flavor agree e live (c :: columns) =
      ((attributeAmong? flavor agree e live c).map (c, ·)).toList ++
        driftsAmong flavor agree e live columns := by
  rw [driftsAmong, List.filterMap_cons]
  cases attributeAmong? flavor agree e live c <;> rfl

theorem attributeAmong?_eq_some_iff :
    attributeAmong? flavor agree e live c = some a ↔ DriftedIn flavor agree e live c a := by
  simp only [DriftedIn, ← counterpart?_eq_some_iff]
  rw [attributeAmong?, driftAmong]
  cases counterpart? live c with
  | none => simp
  | some l => cases hdrift : drift flavor agree e c l <;> simp [hdrift]

theorem drifted_iff :
    Drifted flavor agree e live c ↔ (attributeAmong? flavor agree e live c).isSome = true := by
  simp only [Drifted, Option.isSome_iff_exists, attributeAmong?_eq_some_iff]

instance : Decidable (Drifted flavor agree e live c) := decidable_of_iff' _ drifted_iff

theorem exists_defaultClause_iff :
    (∃ clause, c.defaultClause flavor = .ok clause) ↔ WritableDefault c := by
  simp only [WritableDefault, Column.defaultClause]
  cases c.default with
  | none => simp
  | some d =>
    -- The limit is for floating-point numbers, and a domain has its members as texts.
    by_cases henum : c.columnType.isEnum = true
    · cases d <;> simp [henum]
    · cases d with
      | float x =>
        simp only [henum, DefaultValue.floatClause]
        by_cases hlimit : (c.scale.getD 0).toNat ≤ DefaultValue.decimalLimit
        · simp [hlimit, Except.map]
        · simp [hlimit, Except.map]
      | _ => simp [henum]

theorem exists_drift_iff :
    (∃ change, drift flavor agree e c l = .ok change) ↔ WritableDefault c := by
  have hclause : (∃ clause, c.defaultClause flavor = .ok clause) ↔ WritableDefault c :=
    exists_defaultClause_iff
  rw [drift, ← hclause]
  cases c.defaultClause flavor with
  | ok clause => exact ⟨fun _ => ⟨clause, rfl⟩, fun _ => ⟨_, rfl⟩⟩
  | error problem => exact ⟨fun ⟨_, h⟩ => (nomatch h), fun ⟨_, h⟩ => (nomatch h)⟩

theorem exists_driftAmong_iff :
    (∃ change, driftAmong flavor agree e live c = .ok change) ↔
      ((∃ l ∈ live, l.name = c.databaseName) → WritableDefault c) := by
  rw [driftAmong]
  cases hl : counterpart? live c with
  | none =>
    have hnone := counterpart?_eq_none_iff.mp hl
    exact ⟨fun _ ⟨l, hmem, hname⟩ => absurd hname (hnone l hmem), fun _ => ⟨none, rfl⟩⟩
  | some l =>
    -- Whether a default can be written does not depend on the counterpart.
    have hname := (counterpart?_eq_some_iff.mp hl).1
    have hmem := List.mem_of_find?_eq_some hl
    rw [exists_drift_iff]
    exact ⟨fun h _ => h, fun h => h ⟨l, hmem, hname⟩⟩

theorem changesAmong_cons_eq_ok_iff {columns : List Column} {found : List (Column × Attribute)} :
    changesAmong flavor agree e live (c :: columns) = .ok found ↔
      ∃ change rest, driftAmong flavor agree e live c = .ok change ∧
        changesAmong flavor agree e live columns = .ok rest ∧
        found = (change.map (c, ·)).toList ++ rest := by
  rw [changesAmong]
  constructor
  · intro h
    cases hc : driftAmong flavor agree e live c with
    | error problem => rw [hc] at h; cases h
    | ok change =>
      cases hrest : changesAmong flavor agree e live columns with
      | error problem => rw [hc, hrest] at h; cases h
      | ok rest => rw [hc, hrest] at h; cases h; exact ⟨change, rest, rfl, rfl, rfl⟩
  · rintro ⟨change, rest, hc, hrest, rfl⟩
    rw [hc, hrest]
    rfl

theorem changesAmong_eq_ok_iff {columns : List Column} {found : List (Column × Attribute)} :
    changesAmong flavor agree e live columns = .ok found ↔
      (∀ c ∈ columns, ∃ change, driftAmong flavor agree e live c = .ok change) ∧
      found = driftsAmong flavor agree e live columns := by
  induction columns generalizing found with
  | nil => simp [changesAmong, driftsAmong, eq_comm]
  | cons c columns ih =>
    have hhead (change : Option Attribute) (hc : driftAmong flavor agree e live c = .ok change) :
        attributeAmong? flavor agree e live c = change := by
      rw [attributeAmong?, hc]
    rw [changesAmong_cons_eq_ok_iff, List.forall_mem_cons, driftsAmong_cons]
    constructor
    · rintro ⟨change, rest, hc, hrest, rfl⟩
      obtain ⟨hall, rfl⟩ := ih.mp hrest
      exact ⟨⟨⟨change, hc⟩, hall⟩, by rw [hhead change hc]⟩
    · rintro ⟨⟨⟨change, hc⟩, hall⟩, rfl⟩
      exact ⟨change, _, hc, ih.mpr ⟨hall, rfl⟩, by rw [hhead change hc]⟩

theorem writable_iff :
    Writable e live ↔
      ∀ c ∈ e.columns, ∃ change, driftAmong flavor agree e live c = .ok change := by
  simp only [Writable, exists_driftAmong_iff]

theorem changes_eq_ok_iff {found : List (Column × Attribute)} :
    changes flavor agree e live = .ok found ↔
      Writable e live ∧ found = driftsAmong flavor agree e live e.columns := by
  rw [changes, changesAmong_eq_ok_iff, writable_iff]

theorem map_fst_driftsAmong (columns : List Column) :
    (driftsAmong flavor agree e live columns).map Prod.fst =
      columns.filter fun c => Drifted flavor agree e live c := by
  induction columns with
  | nil => rfl
  | cons c columns ih =>
    rw [driftsAmong_cons, List.map_append, ih, List.filter_cons]
    by_cases hc : Drifted flavor agree e live c
    · obtain ⟨a, ha⟩ := Option.isSome_iff_exists.mp (drifted_iff.mp hc)
      rw [if_pos (decide_eq_true hc), ha]
      rfl
    · have hnone := Option.not_isSome_iff_eq_none.mp (mt drifted_iff.mpr hc)
      rw [if_neg (mt of_decide_eq_true hc), hnone]
      rfl

/-- The declared columns that have drifted, in the order of their declaration. -/
theorem changedColumns_eq_ok_iff {columns : List Column} :
    changedColumns flavor agree e live = .ok columns ↔
      Writable e live ∧
        columns = e.columns.filter fun c => Drifted flavor agree e live c := by
  rw [changedColumns]
  constructor
  · intro h
    cases hfound : changes flavor agree e live with
    | error problem => rw [hfound] at h; cases h
    | ok found =>
      obtain ⟨hw, rfl⟩ := changes_eq_ok_iff.mp hfound
      rw [hfound] at h
      cases h
      exact ⟨hw, map_fst_driftsAmong e.columns⟩
  · rintro ⟨hw, rfl⟩
    rw [changes_eq_ok_iff.mpr ⟨hw, rfl⟩, ← map_fst_driftsAmong]
    rfl

theorem changesAmong_congr {columns : List Column}
    (h : ∀ c ∈ columns, counterpart? live' c = counterpart? live c) :
    changesAmong flavor agree e live' columns = changesAmong flavor agree e live columns := by
  induction columns with
  | nil => rfl
  | cons c columns ih =>
    obtain ⟨hc, hrest⟩ := List.forall_mem_cons.mp h
    rw [changesAmong, changesAmong, driftAmong, driftAmong, hc, ih hrest]

/-- Only the counterparts count. -/
theorem changedColumns_congr (h : ∀ c ∈ e.columns, counterpart? live' c = counterpart? live c) :
    changedColumns flavor agree e live' = changedColumns flavor agree e live := by
  rw [changedColumns, changedColumns, changes, changes, changesAmong_congr h]

/-! ### The printed rows -/

/-- Each column that has drifted has an attribute to print. -/
theorem forall₂_driftsAmong (columns : List Column) :
    List.Forall₂ (DriftedIn flavor agree e live)
      ((driftsAmong flavor agree e live columns).map Prod.fst)
      ((driftsAmong flavor agree e live columns).map Prod.snd) := by
  rw [List.forall₂_map_left_iff, List.forall₂_map_right_iff, List.forall₂_same]
  intro found hfound
  obtain ⟨c, -, hc⟩ := List.mem_filterMap.mp hfound
  obtain ⟨a, ha, rfl⟩ := Option.map_eq_some_iff.mp hc
  exact attributeAmong?_eq_some_iff.mp ha

/-- A comparison prints one row for each column that has drifted, with the attribute that a second
comparison of that column with its counterpart names. -/
theorem comparison_output {columns : List Column}
    (h : changedColumns flavor .strict e live = .ok columns) :
    ∃ attributes,
      List.Forall₂ (DriftedIn flavor .strict e live) columns attributes ∧
      (columns ≠ [] →
        (CommandLine.Report.comparison flavor e live).output =
          "\nChanged columns of '" ++ e.tableName ++ "':\n" ++
            String.ofList (List.replicate 60 '-') ++ "\n" ++
            String.join (List.zipWith (CommandLine.Report.driftRow flavor) columns attributes) ++
            "\n") := by
  rw [changedColumns] at h
  cases hfound : changes flavor .strict e live with
  | error problem => rw [hfound] at h; cases h
  | ok found =>
    rw [hfound] at h
    obtain rfl : found.map Prod.fst = columns := Except.ok.inj h
    refine ⟨found.map Prod.snd, ?_, fun hne => ?_⟩
    · rw [(changes_eq_ok_iff.mp hfound).2]
      exact forall₂_driftsAmong e.columns
    · rw [CommandLine.Report.comparison, hfound, List.zipWith_map, List.zipWith_self]
      cases found with
      | nil => exact absurd rfl hne
      | cons first rest => rfl

/-- **Only counterparts count.**  There is an answer if and only if the defaults of the declared columns
with a counterpart can be written.  The columns that have drifted are then told by their counterparts, in
the order of their declaration.  Other live columns do not matter, and neither does the order of live
columns with distinct names.  Under the strict rule for the null, each column that has drifted has an
attribute to print. -/
theorem changedColumns_local (flavor : Flavor) (agree : Nullability) (e : Entity)
    (live : List LiveColumn) :
    (∀ columns, changedColumns flavor agree e live = .ok columns ↔
      Writable e live ∧ columns = e.columns.filter fun c => Drifted flavor agree e live c) ∧
    (∀ live', (live.map (·.name)).Nodup → live.Perm live' →
      changedColumns flavor agree e live' = changedColumns flavor agree e live) ∧
    (∀ live', named e live' = named e live →
      changedColumns flavor agree e live' = changedColumns flavor agree e live) ∧
    ∀ columns, changedColumns flavor .strict e live = .ok columns →
      ∃ attributes,
        List.Forall₂ (DriftedIn flavor .strict e live) columns attributes ∧
        (columns ≠ [] →
          (CommandLine.Report.comparison flavor e live).output =
            "\nChanged columns of '" ++ e.tableName ++ "':\n" ++
              String.ofList (List.replicate 60 '-') ++ "\n" ++
              String.join (List.zipWith (CommandLine.Report.driftRow flavor) columns attributes) ++
              "\n") := by
  refine ⟨fun columns => changedColumns_eq_ok_iff, fun live' hnodup hperm => ?_,
    fun live' hnamed => ?_, fun columns h => comparison_output h⟩
  · exact changedColumns_congr fun c _ => counterpart?_perm hnodup hperm c
  · refine changedColumns_congr fun c hc => ?_
    rw [← counterpart?_named hc, hnamed, counterpart?_named hc]

/-- A column without a counterpart is not reported, and of two live columns of one name the first
counts. -/
theorem changedColumns_local_stock :
    let id := { Column.new "id" (.dialect .int) with isNullable := false }
    let quantity := { Column.new "quantity" (.dialect .int) with unsigned := true }
    let gone := Column.new "gone" (.dialect .text)
    let note := Column.new "note" (.dialect .text)
    let e : Entity := { Entity.new "stock" with columns := [id, quantity, gone, note] }
    let liveId := { LiveColumn.new "id" "int" with isNullable := false }
    let liveQuantity := LiveColumn.new "quantity" "int"
    let liveNote := LiveColumn.new "note" "blob"
    let live := [liveNote, liveQuantity, liveId]
    let extra := [LiveColumn.new "extra" "int", liveNote, liveQuantity, liveId]
    let doubled := live ++ [LiveColumn.new "note" "text"]
    Writable e live ∧
    changedColumns .mysql .strict e live = .ok [quantity, note] ∧
    changedColumns .mysql .strict e [liveId, liveQuantity, liveNote] = .ok [quantity, note] ∧
    changedColumns .mysql .strict e extra = .ok [quantity, note] ∧
    changedColumns .mysql .strict e doubled = .ok [quantity, note] ∧
    ∃ attributes,
      List.Forall₂ (DriftedIn .mysql .strict e live) [quantity, note] attributes := by
  intro id quantity gone note e liveId liveQuantity liveNote live extra doubled
  obtain ⟨hiff, hperm, hnamed, hprinted⟩ := changedColumns_local .mysql .strict e live
  have hlive : changedColumns .mysql .strict e live = .ok [quantity, note] := rfl
  have hdoubled : changedColumns .mysql .strict e doubled = .ok [quantity, note] := rfl
  have hnodup : (live.map (·.name)).Nodup := by decide
  have hreverse : live.Perm [liveId, liveQuantity, liveNote] := (List.reverse_perm live).symm
  obtain ⟨attributes, hattributes, -⟩ := hprinted _ hlive
  exact ⟨((hiff _).mp hlive).1, hlive, (hperm _ hnodup hreverse).trans hlive,
    (hnamed extra rfl).trans hlive, hdoubled, attributes, hattributes⟩

end TableMapping.Schema
