import TableMapping.Column

/-!
# Entities

The definition of a table as the application declares it: its columns in order, and its indices.
Whether a column is unique follows from the indices and is stated nowhere else.

## Main definitions

* `Index`, `Entity` : the definitions.
* `Entity.column?` : a column by its name in the database.
* `Entity.isUnique` : whether a column is the only one of some unique index.
-/

namespace TableMapping

/-- An index over columns, by their names in the database. -/
structure Index where
  name : String
  columns : List String
  isUnique : Bool
deriving DecidableEq

/-- The definition of a table. -/
structure Entity where
  tableName : String
  database : Option String
  schema : Option String
  columns : List Column
  indices : List Index

namespace Entity

/-- A table without columns. -/
def new (tableName : String) : Entity := ⟨tableName, none, none, [], []⟩

/-- The first column with a name in the database. -/
def column? (e : Entity) (databaseName : String) : Option Column :=
  e.columns.find? (·.databaseName == databaseName)

/-- The columns whose values are generated. -/
def generatedColumns (e : Entity) : List Column := e.columns.filter (·.isGenerated)

/-- Whether `c` is the only column of some unique index. -/
def isUnique (e : Entity) (c : Column) : Bool :=
  e.indices.any fun i => i.isUnique && i.columns == [c.databaseName]

end Entity

end TableMapping
