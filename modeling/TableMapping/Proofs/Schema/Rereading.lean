import TableMapping.Proofs.Model.ModelFiles
import TableMapping.Schema.Drift

/-!
# Drift of what has been read again

Neither the transformers of a column nor the difference between an explicit null and no default enters
into a comparison with a live column.  So an entity and a snapshot that have been written to model files
and read again are compared as before, unless the comparison of nullability looks at one of the two.

## Main results

* `Schema.drift_reread` : a column drifts in the same attribute when it has been read again.
* `Schema.changedColumns_reread` : the same columns are reported for what has been read again.
-/

namespace TableMapping.Schema

variable {flavor : Flavor} {agree : Nullability} {e : Entity} {c : Column} {l : LiveColumn}

theorem defaultClause_reread (flavor : Flavor) (c : Column) :
    c.reread.defaultClause flavor = c.defaultClause flavor := by
  rw [Column.defaultClause, Column.defaultClause, Column.reread]
  cases c.default with
  | none => rfl
  | some d => cases d <;> rfl

theorem differs_reread (hagree : agree c.reread l = agree c l) (clause : Option (List Char))
    (a : Attribute) :
    differs flavor agree e.reread c.reread l clause a = differs flavor agree e c l clause a := by
  cases a with
  | nullable => exact congrArg not hagree
  | _ => rfl

theorem drift_reread (hagree : agree c.reread l = agree c l) :
    drift flavor agree e.reread c.reread l = drift flavor agree e c l := by
  have hdiffers (clause) : differs flavor agree e.reread c.reread l clause =
      differs flavor agree e c l clause := funext (differs_reread hagree clause)
  simp only [drift, defaultClause_reread, hdiffers]

variable {live : List LiveColumn}

theorem driftAmong_reread (hagree : ∀ l ∈ live, agree c.reread l = agree c l) :
    driftAmong flavor agree e.reread live c.reread = driftAmong flavor agree e live c := by
  have hname : counterpart? live c.reread = counterpart? live c := rfl
  rw [driftAmong, driftAmong, hname]
  cases hl : counterpart? live c with
  | none => rfl
  | some l => exact drift_reread (hagree l (List.mem_of_find?_eq_some hl))

/-- The same columns are reported, with the same attributes, as they are read again. -/
theorem changesAmong_reread {columns : List Column}
    (hagree : ∀ c ∈ columns, ∀ l ∈ live, agree c.reread l = agree c l) :
    changesAmong flavor agree e.reread live (columns.map Column.reread) =
      (changesAmong flavor agree e live columns).map
        (List.map fun change => (change.1.reread, change.2)) := by
  induction columns with
  | nil => rfl
  | cons c columns ih =>
    rw [List.map_cons, changesAmong, changesAmong,
      driftAmong_reread (hagree c List.mem_cons_self),
      ih fun d hd => hagree d (List.mem_cons_of_mem c hd)]
    cases driftAmong flavor agree e live c with
    | error e => rfl
    | ok change =>
      cases changesAmong flavor agree e live columns with
      | error e => rfl
      | ok changes =>
        cases change <;> rfl

/-- **The same columns are reported** for an entity that has been read again. -/
theorem changedColumns_map_reread (hagree : ∀ c ∈ e.columns, ∀ l ∈ live, agree c.reread l = agree c l) :
    changedColumns flavor agree e.reread live =
      (changedColumns flavor agree e live).map (List.map Column.reread) := by
  have hchanges : changes flavor agree e.reread live = (changes flavor agree e live).map
      (List.map fun change => (change.1.reread, change.2)) := changesAmong_reread hagree
  rw [changedColumns, changedColumns, hchanges]
  cases changes flavor agree e live with
  | error e => rfl
  | ok found => simp [Except.map, Function.comp_def]

/-- **What is written to model files is compared as before once it has been read again.**  A snapshot is
read back as it was, from its document and from its text; an entity is read back with its columns as they
are read again, from its document and from every text of that document; and the same columns of the two
are reported for every flavor.  The comparison of nullability may be any that does not look at what a
column loses. -/
theorem changedColumns_reread (h : ∀ c ∈ e.columns, c.Rereadable) (live : List LiveColumn) :
    (Decoder.list LiveColumn.decoder).readDocument (.list (live.map LiveColumn.toDocument)) =
        .ok live ∧
      LiveColumn.readAll (Document.list (live.map LiveColumn.toDocument)).render = .ok live ∧
      Entity.readDocument e.toDocument = .ok e.reread ∧
      (∀ s, Outline.ofTokens (tokens s) = (.ofDocument e.toDocument, none) →
        Entity.read s = .ok e.reread) ∧
      ∀ flavor agree, (∀ c ∈ e.columns, ∀ l ∈ live, agree c.reread l = agree c l) →
        changedColumns flavor agree e.reread live =
          (changedColumns flavor agree e live).map (List.map Column.reread) :=
  ⟨LiveColumn.readDocument_list live, LiveColumn.readAll_render live,
    Entity.readDocument_toDocument h, fun _ => Entity.read_eq h,
    fun _ _ => changedColumns_map_reread⟩

/-- An entity with a transformer, an explicit null, a double and a computed default, and a snapshot in
which two of its columns have drifted. -/
theorem changedColumns_reread_games :
    let half : Binary64 := ⟨4602678819172646912⟩
    let started := { Column.new "startedAt" (.dialect .timestamp) with
      databaseName := "started_at", default := some (.computed "now()"), embeddedPath := ["times"] }
    let level := { Column.new "level" (.dialect .simpleEnum) with
      default := some .null, members := some [.int 1, .text "1"],
      transformers := [⟨fun _ => .null, id⟩] }
    let ratio := { Column.new "ratio" (.other "vector(3)") with default := some (.float half) }
    let e : Entity := { Entity.new "games" with columns := [started, level, ratio] }
    let live := [LiveColumn.new "started_at" "timestamp", LiveColumn.new "ratio" "vector"]
    Entity.readDocument e.toDocument = .ok e.reread ∧
      (changedColumns .mysql .strict e.reread live).map (List.map Column.name) =
        .ok ["startedAt", "ratio"] := by
  intro half started level ratio e live
  have hstarted : started.Rereadable := ⟨by decide, ⟨"TimeStamp", by decide⟩, nofun⟩
  have hlevel : level.Rereadable := ⟨by decide, ⟨"simple-enum", by decide⟩, nofun⟩
  have hratio : ratio.Rereadable := by
    refine ⟨by decide, ⟨"vector(3)", by decide⟩, fun x hx => ?_⟩
    rw [← DefaultValue.float.inj (Option.some.inj hx)]
    decide
  have hcolumns : ∀ c ∈ e.columns, c.Rereadable :=
    List.forall_mem_cons.mpr ⟨hstarted, List.forall_mem_cons.mpr ⟨hlevel,
      List.forall_mem_singleton.mpr hratio⟩⟩
  obtain ⟨-, -, hread, -, hsame⟩ := changedColumns_reread hcolumns live
  refine ⟨hread, ?_⟩
  rw [hsame .mysql .strict fun _ _ _ _ => rfl]
  decide

end TableMapping.Schema
