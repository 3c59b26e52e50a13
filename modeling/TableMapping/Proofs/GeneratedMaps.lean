import Mathlib.Data.List.Induction
import TableMapping.GeneratedMap
import TableMapping.Proofs.KeyedLists

/-!
# Generated values over whole runs

The value of a column is merged into a map at the path of the column.  It stands there afterwards,
it takes away the values at all paths that start with its own and at all paths that its own starts
with, and it leaves every other value where it is.  So what stands at a path after a whole run is
decided by the last value that was merged in at a path comparable to it.

## Main definitions

* `Comparable` : one of two paths starts with the other one.
* `GeneratedMap.ofValues` : the map after a run of merged values.
* `GeneratedMap.Stands` : a value of the run that no later one takes away.
* `Document.follow?` : the document at a path.

## Main results

* `GeneratedMap.getPath?_merge_ofColumn` : the values after one more value.
* `GeneratedMap.getPath?_ofValues_iff` : the values after a run, in the map and in its document.
-/

namespace TableMapping

/-! ### Paths -/

/-- One of the paths starts with the other one, or they are the same. -/
def Comparable (p q : List String) : Prop := p <+: q ∨ q <+: p

instance (p q : List String) : Decidable (Comparable p q) :=
  inferInstanceAs (Decidable (p <+: q ∨ q <+: p))

namespace Comparable

theorem refl (p : List String) : Comparable p p := .inl (List.prefix_refl p)

theorem nil_left (q : List String) : Comparable [] q := .inl List.nil_prefix

theorem nil_right (p : List String) : Comparable p [] := .inr List.nil_prefix

theorem cons_iff {a b : String} {p q : List String} :
    Comparable (a :: p) (b :: q) ↔ a = b ∧ Comparable p q := by
  rw [Comparable, List.cons_prefix_cons, List.cons_prefix_cons, eq_comm (a := b), ← and_or_left]
  rfl

end Comparable

/-- The document at a path of names in a document. -/
def Document.follow? : Document → List String → Option Document
  | d, [] => some d
  | .object fields, name :: path =>
    match fields.lookup name with
    | some d => d.follow? path
    | none => none
  | _, _ :: _ => none

namespace GeneratedMap

/-! ### Values behind nodes -/

/-- The value at a path of properties behind a node; a generated value stands at the empty path. -/
def nodeValueAt? : GeneratedNode → List String → Option Value
  | .value v, [] => some v
  | .value _, _ :: _ => none
  | .nested fields, path => valueAt? fields path

theorem valueAt?_cons (fields : List (String × GeneratedNode)) (property : String)
    (path : List String) :
    valueAt? fields (property :: path) =
      (fields.lookup property).bind fun node => nodeValueAt? node path := by
  cases path with
  | nil =>
    rw [valueAt?]
    cases fields.lookup property with
    | none => rfl
    | some node => cases node <;> rfl
  | cons name rest =>
    rw [valueAt?]
    · cases fields.lookup property with
      | none => rfl
      | some node => cases node <;> rfl
    · exact List.cons_ne_nil name rest

theorem valueAt?_nil (path : List String) : valueAt? [] path = none := by
  cases path with
  | nil => rfl
  | cons property path => exact valueAt?_cons [] property path

/-- A node put under a property changes the values behind that property alone. -/
theorem valueAt?_insert (fields : List (String × GeneratedNode)) (key : String)
    (node : GeneratedNode) (property : String) (path : List String) :
    valueAt? (Keyed.insert key node fields) (property :: path) =
      if property = key then nodeValueAt? node path else valueAt? fields (property :: path) := by
  rw [valueAt?_cons, valueAt?_cons, Keyed.lookup_insert]
  split_ifs <;> rfl

/-- The fields of an embedded object; what is no object has none. -/
def innerFields : Option GeneratedNode → List (String × GeneratedNode)
  | some (.nested fields) => fields
  | some (.value _) => []
  | none => []

theorem valueAt?_innerFields (fields : List (String × GeneratedNode)) (property : String)
    {path : List String} (h : path ≠ []) :
    valueAt? (innerFields (fields.lookup property)) path = valueAt? fields (property :: path) := by
  obtain ⟨name, rest, rfl⟩ := List.exists_cons_of_ne_nil h
  rw [valueAt?_cons fields]
  cases fields.lookup property with
  | none => exact valueAt?_nil (name :: rest)
  | some node =>
    cases node with
    | value v => exact valueAt?_nil (name :: rest)
    | nested fields => rfl

/-! ### One more value -/

/-- A value behind a property goes into the object there; anything else that is there gives way to a
new object. -/
theorem mergeFields_fieldsAt_cons (fields : List (String × GeneratedNode)) (v : Value)
    (name property : String) (path : List String) :
    mergeFields fields (fieldsAt v name (property :: path)) =
      Keyed.insert property
        (.nested (mergeFields (innerFields (fields.lookup property)) (fieldsAt v name path)))
        fields := by
  have hfresh : mergeFields [] (fieldsAt v name path) = fieldsAt v name path := by
    cases path <;> rfl
  change Keyed.insert property (mergeNode (fields.lookup property) (.nested _)) fields = _
  cases fields.lookup property with
  | none =>
    rw [innerFields, hfresh]
    rfl
  | some node =>
    cases node with
    | value _ =>
      rw [innerFields, hfresh]
      rfl
    | nested _ => rfl

theorem valueAt?_mergeFields_fieldsAt (v : Value) (name : String) (parents : List String)
    (fields : List (String × GeneratedNode)) (path : List String) :
    valueAt? (mergeFields fields (fieldsAt v name parents)) path =
      if parents ++ [name] = path then some v
      else if Comparable (parents ++ [name]) path then none
      else valueAt? fields path := by
  induction parents generalizing fields path with
  | nil =>
    change valueAt? (Keyed.insert name (.value v) fields) path = _
    cases path with
    | nil => simp [valueAt?, Comparable.nil_right]
    | cons property rest =>
      rw [valueAt?_insert]
      simp only [List.nil_append, Comparable.cons_iff, Comparable.nil_left, and_true,
        eq_comm (a := name)]
      by_cases hproperty : property = name
      · cases rest <;> simp [hproperty, nodeValueAt?]
      · simp [hproperty, Ne.symm hproperty]
  | cons parent parents ih =>
    rw [mergeFields_fieldsAt_cons]
    cases path with
    | nil => simp [valueAt?, Comparable.nil_right]
    | cons property rest =>
      rw [valueAt?_insert]
      simp only [List.cons_append, Comparable.cons_iff, List.cons.injEq, eq_comm (a := parent)]
      by_cases hproperty : property = parent
      · simp only [hproperty, true_and, if_true, nodeValueAt?, ih]
        -- An object stands behind the property now, so there is no value at the property itself.
        by_cases hrest : rest = []
        · simp [hrest, Comparable.nil_right]
        · rw [valueAt?_innerFields fields parent hrest]
      · simp [hproperty]

/-- The value of a column stands at the path of the column, takes away the values at comparable
paths, and leaves all others. -/
theorem getPath?_merge_ofColumn (m : GeneratedMap) (c : Column) (v : Value) (path : List String) :
    (m.merge (.ofColumn c v)).getPath? path =
      if c.path = path then some v else if Comparable c.path path then none else m.getPath? path :=
  valueAt?_mergeFields_fieldsAt v c.name c.embeddedPath m.fields path

/-! ### Runs -/

/-- The map after the values of some columns have been merged in, one after the other. -/
def ofValues (values : List (Column × Value)) : GeneratedMap :=
  values.foldl (fun m pair => m.merge (.ofColumn pair.1 pair.2)) empty

/-- A value is merged in at a path, and no later one at a comparable path. -/
def Stands (values : List (Column × Value)) (path : List String) (v : Value) : Prop :=
  ∃ before c after, values = before ++ (c, v) :: after ∧ c.path = path ∧
    ∀ later ∈ after, ¬ Comparable later.1.path path

theorem ofValues_append_singleton (values : List (Column × Value)) (c : Column) (w : Value) :
    ofValues (values ++ [(c, w)]) = (ofValues values).merge (.ofColumn c w) := by
  rw [ofValues, List.foldl_append]
  rfl

/-- With one more value at the end of a run, that value stands or what stood before does. -/
theorem stands_append_singleton {values : List (Column × Value)} {c : Column} {w v : Value}
    {path : List String} :
    Stands (values ++ [(c, w)]) path v ↔
      (c.path = path ∧ w = v) ∨ (¬ Comparable c.path path ∧ Stands values path v) := by
  constructor
  · rintro ⟨before, d, after, heq, hpath, hlater⟩
    rcases List.eq_nil_or_concat after with rfl | ⟨after, last, rfl⟩
    · obtain ⟨-, hlast⟩ := List.append_inj' heq rfl
      obtain ⟨rfl, rfl⟩ := Prod.mk.inj (List.head_eq_of_cons_eq hlast)
      exact .inl ⟨hpath, rfl⟩
    · rw [List.concat_eq_append, ← List.cons_append, ← List.append_assoc] at heq
      obtain ⟨hvalues, hlast⟩ := List.append_inj' heq rfl
      obtain rfl := List.head_eq_of_cons_eq hlast
      refine .inr ⟨hlater (c, w) (by simp), before, d, after, hvalues, hpath, fun later h => ?_⟩
      exact hlater later (by simp [h])
  · rintro (⟨hpath, rfl⟩ | ⟨hlast, before, d, after, rfl, hpath, hlater⟩)
    · exact ⟨values, c, [], rfl, hpath, fun _ h => absurd h List.not_mem_nil⟩
    · refine ⟨before, d, after ++ [(c, w)], by simp, hpath, fun later h => ?_⟩
      rcases List.mem_append.mp h with h | h
      · exact hlater later h
      · rw [List.mem_singleton.mp h]
        exact hlast

/-- The value at a path after a run is the one that stands there. -/
theorem getPath?_eq_some_iff_stands {values : List (Column × Value)} {path : List String}
    {v : Value} : (ofValues values).getPath? path = some v ↔ Stands values path v := by
  induction values using List.reverseRecOn with
  | nil =>
    constructor
    · intro h
      rw [ofValues, List.foldl_nil, empty, getPath?, valueAt?_nil] at h
      cases h
    · rintro ⟨before, c, after, heq, -⟩
      exact absurd heq.symm (by simp)
  | append_singleton values last ih =>
    rw [ofValues_append_singleton, getPath?_merge_ofColumn, stands_append_singleton, ← ih]
    split_ifs with hpath hcomparable
    · simp [hpath, Comparable.refl]
    · simp [hpath, hcomparable]
    · simp [hpath, hcomparable]

/-! ### Documents -/

theorem lookup_fieldDocuments (fields : List (String × GeneratedNode)) (property : String) :
    (fieldDocuments fields).lookup property = (fields.lookup property).map nodeDocument := by
  induction fields with
  | nil => rfl
  | cons field rest ih =>
    rw [fieldDocuments, Keyed.lookup_cons, Keyed.lookup_cons, ih]
    split_ifs <;> rfl

/-- The document of a value at a path stands at that path in the document. -/
theorem follow?_fieldDocuments {fields : List (String × GeneratedNode)} {path : List String}
    {v : Value} (h : valueAt? fields path = some v) :
    (Document.object (fieldDocuments fields)).follow? path = some v.toDocument := by
  induction path generalizing fields with
  | nil => cases h
  | cons property path ih =>
    rw [valueAt?_cons] at h
    obtain ⟨node, hnode, h⟩ := Option.bind_eq_some_iff.mp h
    rw [Document.follow?, lookup_fieldDocuments, hnode]
    cases node with
    | nested inner => exact ih h
    | value w =>
      cases path with
      | nil =>
        cases h
        rfl
      | cons => cases h

/-- **Generated values over whole runs.**  After a run of merged values from an empty map, a value
is at a path if and only if it was merged in there and no later value was at a path that is the
same, starts with that path or is the start of it; and in the document of the map, the document of
the value is at that path. -/
theorem getPath?_ofValues_iff (values : List (Column × Value)) (path : List String) (v : Value) :
    ((ofValues values).getPath? path = some v ↔ Stands values path v) ∧
      ((ofValues values).getPath? path = some v →
        (ofValues values).toDocument.follow? path = some v.toDocument) :=
  ⟨getPath?_eq_some_iff_stands, follow?_fieldDocuments⟩

/-- Of an object that gives way to a value and comes back, only what is merged in later stands. -/
theorem getPath?_ofValues_audit :
    let audited := fun name => (Column.new name (.dialect .int)).embeddedIn ["audit"]
    let values := [(audited "by", Value.int 1), (Column.new "audit" (.dialect .text), .text "none"),
      (audited "at", .int 2)]
    Stands values ["audit", "at"] (.int 2) ∧ ¬ Stands values ["audit", "by"] (.int 1) ∧
      (ofValues values).getPath? ["audit", "at"] = some (.int 2) ∧
      (ofValues values).getPath? ["audit", "by"] = none ∧
      (ofValues values).toDocument.follow? ["audit", "at"] = some (Value.int 2).toDocument := by
  intro audited values
  have hstands : Stands values ["audit", "at"] (.int 2) :=
    ⟨[(audited "by", .int 1), (Column.new "audit" (.dialect .text), .text "none")], audited "at",
      [], rfl, rfl, fun _ h => absurd h List.not_mem_nil⟩
  have hat := (getPath?_ofValues_iff values _ _).1.mpr hstands
  have hby : (ofValues values).getPath? ["audit", "by"] = none := by rfl
  refine ⟨hstands, fun h => ?_, hat, hby, (getPath?_ofValues_iff values _ _).2 hat⟩
  cases hby.symm.trans ((getPath?_ofValues_iff values _ _).1.mpr h)

end GeneratedMap

end TableMapping
