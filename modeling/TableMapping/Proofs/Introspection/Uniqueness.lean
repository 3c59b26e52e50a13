import Mathlib.Data.List.Nodup
import Mathlib.Data.List.Sort
import TableMapping.Entity
import TableMapping.Introspection.Catalog
import TableMapping.Proofs.KeyedLists

/-!
# Uniqueness on both sides

The catalog lists an index part by part, in any order and among the parts of the primary key.  As
long as the names of the indices are distinct and none is that of the primary key, the columns that
stand alone in a unique index of the catalog are those that do so in the definition of the table.

## Main definitions

* `Index.rows` : the rows of an index in the catalog.
* `Entity.ListedBy` : the rows list the indices of a table and nothing else but its primary key.

## Main results

* `IndexRow.mem_uniqueColumns_iff` : the columns that are unique in the catalog.
* `IndexRow.contains_uniqueColumns` : a column is unique in the catalog if it is declared so.
* `IndexRow.uniqueColumns_listedBy` : the order of the rows does not matter.
-/

namespace TableMapping

/-! ### Indices in the catalog -/

/-- The rows of an index, one for each of its columns. -/
def Index.rows (i : Index) : List IndexRow := i.columns.map fun c => ⟨i.name, some c, !i.isUnique⟩

/-- The indices of a table have distinct names, and the rows are those of the indices and any rows
of the primary key, in any order. -/
structure Entity.ListedBy (e : Entity) (rows : List IndexRow) : Prop where
  distinct : (e.indices.map (·.name)).Nodup
  secondary : ∀ i ∈ e.indices, i.name ≠ IndexRow.primaryName
  listed : ∃ primary : List IndexRow, (∀ r ∈ primary, r.indexName = IndexRow.primaryName) ∧
    rows.Perm (primary ++ e.indices.flatMap Index.rows)

theorem Index.indexName_of_mem_rows {i : Index} {r : IndexRow} (h : r ∈ i.rows) :
    r.indexName = i.name ∧ r.nonUnique = !i.isUnique := by
  obtain ⟨c, -, rfl⟩ := List.mem_map.mp h
  exact ⟨rfl, rfl⟩

/-- Among the rows of indices with distinct names those of one name are the rows of its index. -/
theorem Index.filter_flatMap_rows {indices : List Index} (hnodup : (indices.map (·.name)).Nodup)
    {i : Index} (hi : i ∈ indices) :
    (indices.flatMap rows).filter (·.indexName == i.name) = i.rows := by
  have hkept : i.rows.filter (·.indexName == i.name) = i.rows := by
    rw [List.filter_eq_self]
    intro r hr
    rw [(indexName_of_mem_rows hr).1, beq_self_eq_true]
  have hdropped : ∀ j : Index, j.name ≠ i.name → j.rows.filter (·.indexName == i.name) = [] := by
    intro j hj
    rw [List.filter_eq_nil_iff]
    intro r hr
    rw [(indexName_of_mem_rows hr).1, beq_iff_eq]
    exact hj
  induction indices with
  | nil => exact absurd hi List.not_mem_nil
  | cons j js ih =>
    rw [List.map_cons, List.nodup_cons] at hnodup
    rw [List.flatMap_cons, List.filter_append]
    rcases List.mem_cons.mp hi with rfl | hi
    · have hrest : (js.flatMap rows).filter (·.indexName == i.name) = [] := by
        rw [List.filter_flatMap, List.flatMap_eq_nil_iff]
        intro j hj
        refine hdropped j fun hname => hnodup.1 ?_
        rw [← hname]
        exact List.mem_map_of_mem hj
      rw [hkept, hrest, List.append_nil]
    · have hname : j.name ≠ i.name := by
        intro hname
        refine hnodup.1 ?_
        rw [hname]
        exact List.mem_map_of_mem hi
      rw [hdropped j hname, List.nil_append, ih hnodup.2 hi]

namespace IndexRow

/-- The parts of an index of the table are its columns, and of an index that is not unique none is
left. -/
theorem partsOf_candidates_perm {e : Entity} {rows : List IndexRow} (h : e.ListedBy rows)
    {i : Index} (hi : i ∈ e.indices) :
    (partsOf (rows.filter isCandidate) i.name).Perm
      (if i.isUnique then i.columns.map some else []) := by
  obtain ⟨primary, hprimary, hperm⟩ := h.listed
  have hnone : primary.filter (·.indexName == i.name) = [] := by
    rw [List.filter_eq_nil_iff]
    intro r hr
    rw [hprimary r hr, beq_iff_eq]
    exact fun hname => h.secondary i hi hname.symm
  have hrows : (rows.filter (·.indexName == i.name)).Perm i.rows := by
    have hfilter := hperm.filter (·.indexName == i.name)
    rwa [List.filter_append, hnone, List.nil_append, Index.filter_flatMap_rows h.distinct hi]
      at hfilter
  have hcandidates : i.rows.filter isCandidate = if i.isUnique then i.rows else [] := by
    have hcandidate : ∀ r ∈ i.rows, isCandidate r = i.isUnique := by
      intro r hr
      obtain ⟨hname, hunique⟩ := Index.indexName_of_mem_rows hr
      rw [isCandidate, hname, hunique, Bool.not_not, bne_iff_ne.mpr (h.secondary i hi),
        Bool.and_true]
    rw [List.filter_congr hcandidate]
    cases i.isUnique <;> simp
  rw [partsOf, List.filter_comm]
  have hparts := (hrows.filter isCandidate).map (·.columnName)
  rw [hcandidates] at hparts
  refine hparts.trans (List.Perm.of_eq ?_)
  split
  · rw [Index.rows, List.map_map]
    rfl
  · rfl

theorem soleColumn?_eq_some_iff {rows : List IndexRow} {name column : String} :
    soleColumn? rows name = some column ↔ partsOf rows name = [some column] := by
  rw [soleColumn?]
  split
  case h_1 c heq => simp [heq]
  case h_2 hne => simpa using fun heq => hne column heq

/-- The columns that stand alone in a unique index of the catalog are those that are the only one of
a unique index of the table. -/
theorem mem_uniqueColumns_iff {e : Entity} {rows : List IndexRow} (h : e.ListedBy rows)
    {column : String} :
    column ∈ uniqueColumns rows ↔ ∃ i ∈ e.indices, i.isUnique = true ∧ i.columns = [column] := by
  have hsole : ∀ i ∈ e.indices, soleColumn? (rows.filter isCandidate) i.name = some column ↔
      i.isUnique = true ∧ i.columns = [column] := by
    intro i hi
    have hparts := partsOf_candidates_perm h hi
    rw [soleColumn?_eq_some_iff]
    cases hunique : i.isUnique with
    | false =>
      rw [hunique] at hparts
      rw [hparts.eq_nil]
      simp
    | true =>
      rw [hunique, if_pos rfl] at hparts
      rw [and_iff_right rfl]
      constructor
      · intro heq
        rw [heq, List.singleton_perm] at hparts
        simpa using hparts.symm
      · intro heq
        rw [heq] at hparts
        exact List.perm_singleton.mp hparts
  obtain ⟨primary, hprimary, hperm⟩ := h.listed
  rw [uniqueColumns, Keyed.mem_keys_ofList, List.map_map, List.mem_map]
  simp only [List.mem_filterMap, List.mem_filter, Function.comp_apply, exists_eq_right]
  constructor
  · rintro ⟨r, ⟨hr, hcandidate⟩, hcolumn⟩
    rcases List.mem_append.mp (hperm.mem_iff.mp hr) with hr | hr
    · rw [isCandidate, hprimary r hr] at hcandidate
      simp at hcandidate
    · obtain ⟨i, hi, hri⟩ := List.mem_flatMap.mp hr
      rw [(Index.indexName_of_mem_rows hri).1] at hcolumn
      exact ⟨i, hi, (hsole i hi).mp hcolumn⟩
  · rintro ⟨i, hi, hunique, hcolumns⟩
    refine ⟨⟨i.name, some column, false⟩, ⟨hperm.mem_iff.mpr ?_, ?_⟩,
      (hsole i hi).mpr ⟨hunique, hcolumns⟩⟩
    · refine List.mem_append_right primary (List.mem_flatMap.mpr ⟨i, hi, ?_⟩)
      rw [Index.rows, hcolumns, hunique]
      exact List.mem_singleton_self _
    · simpa [isCandidate] using h.secondary i hi

/-- A column is unique in the catalog if and only if it is declared so. -/
theorem contains_uniqueColumns {e : Entity} {rows : List IndexRow} (h : e.ListedBy rows)
    (c : Column) : (uniqueColumns rows).contains c.databaseName = e.isUnique c := by
  rw [Bool.eq_iff_iff, List.contains_iff_mem, mem_uniqueColumns_iff h, Entity.isUnique,
    List.any_eq_true]
  simp only [Bool.and_eq_true, beq_iff_eq]

theorem pairwise_uniqueColumns (rows : List IndexRow) : (uniqueColumns rows).Pairwise (· < ·) :=
  Keyed.pairwise_keys (Keyed.ascending_ofList _)

/-- **Uniqueness on both sides.**  A column is unique in the catalog if and only if it is declared
so.  The order of the rows does not matter, and neither do those of the primary key. -/
theorem uniqueColumns_listedBy {e : Entity} {rows : List IndexRow} (h : e.ListedBy rows) :
    (∀ c : Column, c.databaseName ∈ uniqueColumns rows ↔ e.isUnique c = true) ∧
      ∀ rows', e.ListedBy rows' → uniqueColumns rows' = uniqueColumns rows := by
  refine ⟨fun c => ?_, fun rows' h' => ?_⟩
  · rw [← contains_uniqueColumns h c, List.contains_iff_mem]
  · refine List.Pairwise.eq_of_mem_iff (pairwise_uniqueColumns rows') (pairwise_uniqueColumns rows)
      fun column => ?_
    rw [mem_uniqueColumns_iff h', mem_uniqueColumns_iff h]

/-- Only `code` is alone in a unique index: the others are in one that is not unique, in one of two
columns, or in one that has the same column twice. -/
theorem uniqueColumns_listedBy_code :
    let e : Entity :=
      { Entity.new "words" with
        indices := [⟨"by_code", ["code"], true⟩, ⟨"by_note", ["note"], false⟩,
          ⟨"by_text", ["code", "text"], true⟩, ⟨"by_tag", ["tag", "tag"], true⟩] }
    let code := Column.new "code" (.dialect .text)
    let tag := Column.new "tag" (.dialect .text)
    let rows : List IndexRow :=
      [⟨"by_text", some "text", false⟩, ⟨"by_tag", some "tag", false⟩,
        ⟨"PRIMARY", some "note", false⟩, ⟨"by_code", some "code", false⟩,
        ⟨"by_note", some "note", true⟩, ⟨"by_text", some "code", false⟩,
        ⟨"by_tag", some "tag", false⟩]
    (code.databaseName ∈ uniqueColumns rows ↔ e.isUnique code = true) ∧
      (tag.databaseName ∈ uniqueColumns rows ↔ e.isUnique tag = true) ∧
      uniqueColumns rows = ["code"] ∧
      uniqueColumns (e.indices.flatMap Index.rows) = uniqueColumns rows := by
  intro e code tag rows
  have hdistinct : (e.indices.map (·.name)).Nodup := by decide
  have hsecondary : ∀ i ∈ e.indices, i.name ≠ primaryName := by decide
  have hrows : e.ListedBy rows :=
    ⟨hdistinct, hsecondary, [⟨"PRIMARY", some "note", false⟩], by decide, by decide⟩
  have hbare : e.ListedBy (e.indices.flatMap Index.rows) :=
    ⟨hdistinct, hsecondary, [], fun _ h => absurd h List.not_mem_nil, List.Perm.refl _⟩
  obtain ⟨hcolumns, horder⟩ := uniqueColumns_listedBy hrows
  exact ⟨hcolumns code, hcolumns tag, by decide, horder _ hbare⟩

end IndexRow

end TableMapping
