import Mathlib.Data.List.Pairwise
import TableMapping.Proofs.GeneratedMaps

/-!
# Returned columns

A server can return the generated values by the names of their columns in the database.  The values
are merged in the order of those names, which has nothing to do with the order of the columns or of
their paths.  If no path of a column starts with that of another one, though, no value is ever in the
way of another one, and each ends up at the path of its column.

## Main definitions

* `GeneratedMap.Apart` : runs of values no two of which are at comparable paths.
* `Entity.HasApartPaths` : the same for the columns of an entity.
* `Entity.returnedValues` : the run of the returned values.

## Main results

* `GeneratedMap.Apart.getPath?_eq_some_iff` : every value of such a run stands, and nothing else does.
* `Entity.generatedMap_columns` : what is returned is at the paths of its columns, and there alone.
-/

namespace TableMapping

theorem Comparable.symm {p q : List String} (h : Comparable p q) : Comparable q p := Or.symm h

/-! ### Values at paths that are apart -/

namespace GeneratedMap

/-- No two values of a run are at comparable paths. -/
def Apart (values : List (Column × Value)) : Prop :=
  values.Pairwise fun a b => ¬ Comparable a.1.path b.1.path

variable {values : List (Column × Value)}

/-- In a run that is apart no value takes away another one. -/
theorem Apart.stands_iff (h : Apart values) {path : List String} {v : Value} :
    Stands values path v ↔ ∃ c, (c, v) ∈ values ∧ c.path = path := by
  constructor
  · rintro ⟨before, c, after, rfl, hpath, -⟩
    exact ⟨c, by simp, hpath⟩
  · rintro ⟨c, hmem, hpath⟩
    obtain ⟨before, after, rfl⟩ := List.append_of_mem hmem
    refine ⟨before, c, after, rfl, hpath, fun later hlater hcomparable => ?_⟩
    have hafter := (List.pairwise_cons.mp (List.pairwise_append.mp h).2.1).1 later hlater
    exact hafter (hpath ▸ hcomparable.symm)

/-- Every value of a run that is apart stands at its path, and there is no other value. -/
theorem Apart.getPath?_eq_some_iff (h : Apart values) {path : List String} {v : Value} :
    (ofValues values).getPath? path = some v ↔ ∃ c, (c, v) ∈ values ∧ c.path = path :=
  getPath?_eq_some_iff_stands.trans h.stands_iff

/-- Only the empty run leaves the map empty. -/
theorem isEmpty_ofValues : (ofValues values).isEmpty = values.isEmpty := by
  rcases List.eq_nil_or_concat' values with rfl | ⟨before, ⟨c, v⟩, rfl⟩
  · rfl
  · have hvalue : (ofValues (before ++ [(c, v)])).getPath? c.path = some v := by
      rw [ofValues_append_singleton, getPath?_merge_ofColumn, if_pos rfl]
    have hne : (ofValues (before ++ [(c, v)])).fields ≠ [] := by
      intro hnil
      rw [getPath?, hnil, valueAt?_nil] at hvalue
      cases hvalue
    rw [isEmpty, List.isEmpty_eq_false_iff.mpr hne, List.isEmpty_eq_false_iff.mpr (by simp)]

/-- The map after a run of merged values, if there is any value. -/
def ofValues? (values : List (Column × Value)) : Option GeneratedMap :=
  if (ofValues values).isEmpty then none else some (ofValues values)

theorem ofValues?_eq_none_iff : ofValues? values = none ↔ values = [] := by
  rw [ofValues?, isEmpty_ofValues, ← List.isEmpty_iff, ite_eq_left_iff]
  simp

theorem ofValues?_eq_some {m : GeneratedMap} (h : ofValues? values = some m) :
    ofValues values = m := by
  rw [ofValues?] at h
  split at h
  · cases h
  · exact Option.some.inj h

end GeneratedMap

/-! ### Columns by their names -/

namespace Entity

/-- No path of a column starts with that of another column. -/
def HasApartPaths (e : Entity) : Prop :=
  e.columns.Pairwise fun c d => ¬ Comparable c.path d.path

instance (e : Entity) : Decidable e.HasApartPaths :=
  inferInstanceAs (Decidable (e.columns.Pairwise fun c d => ¬ Comparable c.path d.path))

variable {e : Entity} {c d : Column}

theorem HasApartPaths.eq_of_comparable (h : e.HasApartPaths) (hc : c ∈ e.columns)
    (hd : d ∈ e.columns) (hcomparable : Comparable c.path d.path) : c = d := by
  have : Std.Symm fun c d : Column => ¬ Comparable c.path d.path := ⟨fun _ _ h h' => h h'.symm⟩
  by_contra hne
  exact List.Pairwise.forall h hc hd hne hcomparable

theorem column?_eq_none_iff {name : String} :
    e.column? name = none ↔ ∀ c ∈ e.columns, c.databaseName ≠ name := by
  simp [column?, List.find?_eq_none]

/-! ### Returned values -/

/-- The returned values with the columns that have their names; those of no column are left out. -/
def returnedValues (e : Entity) (values : List (String × Value)) : List (Column × Value) :=
  values.filterMap fun pair => (e.column? pair.1).map fun c => (c, pair.2)

variable {values : List (String × Value)}

theorem returnedMap_eq : e.returnedMap values = .ofValues (e.returnedValues values) := by
  rw [returnedMap, GeneratedMap.ofValues, returnedValues, List.foldl_filterMap]
  congr 1
  funext m pair
  cases e.column? pair.1 <;> rfl

theorem mem_returnedValues_iff (h : (e.columns.map (·.databaseName)).Nodup) {v : Value} :
    (c, v) ∈ e.returnedValues values ↔ c ∈ e.columns ∧ (c.databaseName, v) ∈ values := by
  simp only [returnedValues, List.mem_filterMap, Option.map_eq_some_iff, Prod.mk.injEq]
  constructor
  · rintro ⟨⟨name, w⟩, hmem, d, hd, rfl, rfl⟩
    obtain ⟨hcolumn, rfl⟩ := (Keyed.find?_eq_some_iff_of_nodup h).mp hd
    exact ⟨hcolumn, hmem⟩
  · rintro ⟨hc, hmem⟩
    exact ⟨_, hmem, c, (Keyed.find?_eq_some_iff_of_nodup h).mpr ⟨hc, rfl⟩, rfl, rfl⟩

theorem returnedValues_eq_nil_iff :
    e.returnedValues values = [] ↔ ∀ pair ∈ values, ∀ c ∈ e.columns, c.databaseName ≠ pair.1 := by
  simp only [returnedValues, List.filterMap_eq_nil_iff, Option.map_eq_none_iff, column?_eq_none_iff]

/-- Values under distinct names are at paths that are apart. -/
theorem HasApartPaths.apart_returnedValues (hpaths : e.HasApartPaths)
    (hnames : (e.columns.map (·.databaseName)).Nodup) (hkeys : (values.map Prod.fst).Nodup) :
    GeneratedMap.Apart (e.returnedValues values) := by
  refine List.pairwise_filterMap.mpr ((List.pairwise_map.mp hkeys).imp ?_)
  intro pair pair' hne a ha b hb hcomparable
  obtain ⟨c, hc, rfl⟩ := Option.map_eq_some_iff.mp ha
  obtain ⟨d, hd, rfl⟩ := Option.map_eq_some_iff.mp hb
  obtain ⟨hcolumn, hname⟩ := (Keyed.find?_eq_some_iff_of_nodup hnames).mp hc
  obtain ⟨hcolumn', hname'⟩ := (Keyed.find?_eq_some_iff_of_nodup hnames).mp hd
  obtain rfl := hpaths.eq_of_comparable hcolumn hcolumn' hcomparable
  exact hne (hname.symm.trans hname')

/-- At the path of a column is the value under its name. -/
theorem HasApartPaths.getPath?_returnedValues (hpaths : e.HasApartPaths)
    (hnames : (e.columns.map (·.databaseName)).Nodup) (hkeys : (values.map Prod.fst).Nodup)
    (hc : c ∈ e.columns) :
    (GeneratedMap.ofValues (e.returnedValues values)).getPath? c.path =
      values.lookup c.databaseName := by
  refine Option.ext fun v => ?_
  rw [(hpaths.apart_returnedValues hnames hkeys).getPath?_eq_some_iff,
    Keyed.lookup_eq_some_iff_mem hkeys]
  constructor
  · rintro ⟨d, hmem, hpath⟩
    obtain ⟨hd, hvalue⟩ := (mem_returnedValues_iff hnames).mp hmem
    rwa [hpaths.eq_of_comparable hc hd (hpath ▸ .refl _)]
  · exact fun hvalue => ⟨c, (mem_returnedValues_iff hnames).mpr ⟨hc, hvalue⟩, rfl⟩

/-- There is no value anywhere else. -/
theorem HasApartPaths.getPath?_returnedValues_eq_none (hpaths : e.HasApartPaths)
    (hnames : (e.columns.map (·.databaseName)).Nodup) (hkeys : (values.map Prod.fst).Nodup)
    {path : List String} (hpath : ∀ c ∈ e.columns, c.path ≠ path) :
    (GeneratedMap.ofValues (e.returnedValues values)).getPath? path = none := by
  refine Option.eq_none_iff_forall_ne_some.mpr fun v hv => ?_
  obtain ⟨c, hmem, hc⟩ := (hpaths.apart_returnedValues hnames hkeys).getPath?_eq_some_iff.mp hv
  exact hpath c ((mem_returnedValues_iff hnames).mp hmem).1 hc

theorem generatedMap_columns_eq (e : Entity) (values : List (String × Value)) (index : Nat) :
    e.generatedMap (some (.columns values)) index =
      .ok (GeneratedMap.ofValues? (e.returnedValues values)) := by
  rw [GeneratedMap.ofValues?, ← returnedMap_eq]
  rfl

/-- Only the names of the columns decide which values are returned. -/
theorem returnedValues_congr {e' : Entity} (h : ∀ name, e'.column? name = e.column? name) :
    e'.returnedValues values = e.returnedValues values := by
  simp only [returnedValues, h]

/-- Values of no column are ignored. -/
theorem returnedValues_filter :
    e.returnedValues (values.filter fun pair => (e.column? pair.1).isSome) =
      e.returnedValues values := by
  rw [returnedValues, List.filterMap_filter, returnedValues]
  congr 1
  funext pair
  cases e.column? pair.1 <;> rfl

/-- **Returned columns.**  If the columns of an entity have distinct names and their paths are apart,
the returned values make a map unless none has the name of a column.  At the path of each column is
the value under its name, if there is one, and there is no value at any other path.  Values under
other names and the order of the columns make no difference. -/
theorem generatedMap_columns (hnames : (e.columns.map (·.databaseName)).Nodup)
    (hpaths : e.HasApartPaths) (hkeys : (values.map Prod.fst).Nodup) (index : Nat) :
    (∃ result, e.generatedMap (some (.columns values)) index = .ok result ∧
      (result = none ↔ ∀ pair ∈ values, ∀ c ∈ e.columns, c.databaseName ≠ pair.1) ∧
      ∀ m, result = some m →
        (∀ c ∈ e.columns, m.getPath? c.path = values.lookup c.databaseName) ∧
        ∀ path, (∀ c ∈ e.columns, c.path ≠ path) → m.getPath? path = none) ∧
    e.generatedMap (some (.columns (values.filter fun pair => (e.column? pair.1).isSome))) index =
      e.generatedMap (some (.columns values)) index ∧
    ∀ e' : Entity, e.columns.Perm e'.columns →
      e'.generatedMap (some (.columns values)) index =
        e.generatedMap (some (.columns values)) index := by
  refine ⟨⟨_, generatedMap_columns_eq e values index, ?_, fun m hm => ?_⟩, ?_, fun e' hperm => ?_⟩
  · rw [GeneratedMap.ofValues?_eq_none_iff, returnedValues_eq_nil_iff]
  · obtain rfl := GeneratedMap.ofValues?_eq_some hm
    exact ⟨fun c hc => hpaths.getPath?_returnedValues hnames hkeys hc,
      fun path hpath => hpaths.getPath?_returnedValues_eq_none hnames hkeys hpath⟩
  · rw [generatedMap_columns_eq, generatedMap_columns_eq, returnedValues_filter]
  · have hcolumn : ∀ name, e'.column? name = e.column? name := Keyed.find?_perm hnames hperm
    rw [generatedMap_columns_eq, generatedMap_columns_eq, returnedValues_congr hcolumn]

/-- Of two values for one embedded object, the one that comes first by its name is the deeper one. -/
theorem generatedMap_columns_audit :
    let version := (Column.new "version" (.dialect .int)).embeddedIn ["audit", "last"]
    let stamp := { Column.new "stamp" (.dialect .int) with
      databaseName := "audit_stamp", embeddedPath := ["audit"] }
    let e := { Entity.new "orders" with columns := [Column.new "id" (.dialect .int), stamp, version] }
    let values := [("audit_stamp", Value.int 7), ("ghost", .null), ("version", .int 1)]
    (e.columns.map (·.databaseName)).Nodup ∧ e.HasApartPaths ∧ (values.map Prod.fst).Nodup ∧
      ∃ m, e.generatedMap (some (.columns values)) 0 = .ok (some m) ∧
        m.getPath? ["audit", "last", "version"] = some (.int 1) ∧
        m.getPath? ["audit", "stamp"] = some (.int 7) ∧ m.getPath? ["id"] = none ∧
        m.getPath? ["ghost"] = none := by
  intro version stamp e values
  have hnames : (e.columns.map (·.databaseName)).Nodup := by decide
  have hpaths : e.HasApartPaths := by decide
  have hkeys : (values.map Prod.fst).Nodup := by decide
  obtain ⟨⟨result, hresult, hnone, hvalues⟩, -⟩ := generatedMap_columns hnames hpaths hkeys 0
  cases result with
  | none => exact absurd rfl (hnone.mp rfl ("version", .int 1) (by simp [values]) version (by simp [e]))
  | some m =>
    obtain ⟨hcolumns, hothers⟩ := hvalues m rfl
    exact ⟨hnames, hpaths, hkeys, m, hresult, hcolumns version (by simp [e]),
      hcolumns stamp (by simp [e]), hcolumns (Column.new "id" (.dialect .int)) (by simp [e]),
      hothers ["ghost"] (by decide)⟩

end Entity

end TableMapping
