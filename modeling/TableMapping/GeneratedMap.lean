import TableMapping.Entity

/-!
# Generated values

What the server generates on an insert, arranged by the properties of the application.  The
columns of one embedded object end up under one property.

## Main definitions

* `GeneratedNode` : a generated value, or an embedded object with generated values.
* `GeneratedMap` : the generated values of an entity.
* `GeneratedMap.ofColumn` : the value of one column, at its path.
* `GeneratedMap.merge` : the values of two maps, where the later ones replace the earlier.
* `GeneratedMap.getPath?` : the value at a path.
* `InsertResult`, `Entity.generatedMap` : what the server returns, and what it means for an entity.
-/

namespace TableMapping

/-- A generated value, or an embedded object. -/
inductive GeneratedNode
  | value (v : Value)
  | nested (fields : List (String × GeneratedNode))

/-- Generated values by property, in order of the names. -/
structure GeneratedMap where
  fields : List (String × GeneratedNode)

namespace GeneratedMap

/-- No generated values. -/
def empty : GeneratedMap := ⟨[]⟩

/-- Nothing was generated. -/
def isEmpty (m : GeneratedMap) : Bool := m.fields.isEmpty

/-- What stands under a property. -/
def get? (m : GeneratedMap) (property : String) : Option GeneratedNode := m.fields.lookup property

/-! ### Paths -/

/-- The fields that hold a value behind a path of embedded objects. -/
def fieldsAt (v : Value) (name : String) : List String → List (String × GeneratedNode)
  | [] => [(name, .value v)]
  | property :: path => [(property, .nested (fieldsAt v name path))]

/-- The map with the value of one column. -/
def ofColumn (c : Column) (v : Value) : GeneratedMap := ⟨fieldsAt v c.name c.embeddedPath⟩

/-- The value at a path of properties among some fields. -/
def valueAt? (fields : List (String × GeneratedNode)) : List String → Option Value
  | [] => none
  | [name] =>
    match fields.lookup name with
    | some (.value v) => some v
    | _ => none
  | property :: path =>
    match fields.lookup property with
    | some (.nested inner) => valueAt? inner path
    | _ => none

/-- The value at a path of properties. -/
def getPath? (m : GeneratedMap) (path : List String) : Option Value := valueAt? m.fields path

/-! ### Merging -/

mutual

/-- Some fields with others merged into them, one after the other. -/
def mergeFields (existing : List (String × GeneratedNode)) :
    List (String × GeneratedNode) → List (String × GeneratedNode)
  | [] => existing
  | (property, node) :: rest =>
    mergeFields (Keyed.insert property (mergeNode (existing.lookup property) node) existing) rest

/-- A node in place of another one; two embedded objects are merged. -/
def mergeNode (old : Option GeneratedNode) : GeneratedNode → GeneratedNode
  | .value v => .value v
  | .nested incoming =>
    match old with
    | some (.nested existing) => .nested (mergeFields existing incoming)
    | _ => .nested incoming

end

/-- The values of both maps, where those of `other` replace those at the same place. -/
def merge (m other : GeneratedMap) : GeneratedMap := ⟨mergeFields m.fields other.fields⟩

/-! ### Documents -/

mutual

/-- A node as a document. -/
def nodeDocument : GeneratedNode → Document
  | .value v => v.toDocument
  | .nested fields => .object (fieldDocuments fields)

/-- The fields of an object as documents. -/
def fieldDocuments : List (String × GeneratedNode) → List (String × Document)
  | [] => []
  | (property, node) :: rest => (property, nodeDocument node) :: fieldDocuments rest

end

/-- The map as a document. -/
def toDocument (m : GeneratedMap) : Document := .object (fieldDocuments m.fields)

end GeneratedMap

/-! ### Results of an insert -/

/-- What the server returns for an insert. -/
inductive InsertResult
  /-- The first number that it counted. -/
  | firstId (id : Value)
  /-- The generated values by the names of their columns in the database. -/
  | columns (values : List (String × Value))

/-- A generated column does not tell how its values come about. -/
structure MissingStrategy where
  column : String
deriving DecidableEq

/-- The wording of the error. -/
def MissingStrategy.message (e : MissingStrategy) : String :=
  "generated column '" ++ e.column ++ "' has no generation strategy"

namespace InsertResult

/-- The number of an id, unless it is zero or no number of 64 bits.  The fraction of a double is
dropped. -/
def idNumber? (id : Value) : Option UInt64 :=
  let quantity := match id with
    | .text s => Quantity.parse? s.toList
    | .int n => some (.int n)
    | .uint n => some (.uint n)
    | .float x => some (.float x)
    | _ => none
  let number : Option Int := match quantity with
    | some (.int n) => some n.toInt
    | some (.uint n) => some n.toNat
    | some (.float x) => x.truncated
    | none => none
  (number.bind uint64?).filter (· != 0)

end InsertResult

namespace Entity

/-- The id of a row of a batch: the first id and the position of the row, or the null beyond the
greatest number of 64 bits. -/
def rowId (first : UInt64) (index : Nat) : Value :=
  (uint64? (first.toNat + index)).elim .null .uint

/-- The values of the generated columns of a row: those that the server counts get the id of the
row, and every one must have a strategy. -/
def countedMap (first : UInt64) (index : Nat) :
    List Column → GeneratedMap → Except MissingStrategy GeneratedMap
  | [], m => .ok m
  | c :: rest, m =>
    match c.strategy with
    | none => .error ⟨c.name⟩
    | some .increment => countedMap first index rest (m.merge (.ofColumn c (rowId first index)))
    | some .uuid => countedMap first index rest m

/-- The returned values of an entity's columns; values of other columns are ignored. -/
def returnedMap (e : Entity) (values : List (String × Value)) : GeneratedMap :=
  values.foldl (fun m pair =>
    match e.column? pair.1 with
    | some c => m.merge (.ofColumn c pair.2)
    | none => m) .empty

/-- The generated values of the row at a position of a batch, if there are any. -/
def generatedMap (e : Entity) (result : Option InsertResult) (index : Nat) :
    Except MissingStrategy (Option GeneratedMap) := do
  let m ← match result with
    | none => pure GeneratedMap.empty
    | some (.columns values) => pure (e.returnedMap values)
    | some (.firstId id) =>
      match InsertResult.idNumber? id with
      | none => pure GeneratedMap.empty
      | some first => countedMap first index e.generatedColumns .empty
  return if m.isEmpty then none else some m

end Entity

end TableMapping
