import TableMapping.Keyed

/-!
# Catalog rows

What the server's catalog holds about the columns and the indices of a table, row by row.

## Main definitions

* `ColumnRow`, `IndexRow` : the rows.
* `IndexRow.uniqueColumns` : the columns that stand alone in a unique index.
-/

namespace TableMapping

/-- A row about a column. -/
structure ColumnRow where
  columnName : String
  dataType : String
  columnType : String
  isNullable : String
  columnDefault : Option String
  columnKey : String
  extra : String
  characterMaximumLength : Option Int
  numericPrecision : Option Int
  numericScale : Option Int
  datetimePrecision : Option Int
  columnComment : Option String
  generationExpression : Option String

/-- A row about one column of an index, or about a part of an index that is no column. -/
structure IndexRow where
  indexName : String
  columnName : Option String
  nonUnique : Bool
deriving DecidableEq

namespace IndexRow

/-- The name of the primary key. -/
def primaryName : String := "PRIMARY"

/-- Whether a row belongs to a unique index other than the primary key. -/
def isCandidate (r : IndexRow) : Bool := !r.nonUnique && r.indexName != primaryName

/-- The parts of an index, as columns where they are columns. -/
def partsOf (rows : List IndexRow) (name : String) : List (Option String) :=
  (rows.filter (·.indexName == name)).map (·.columnName)

/-- The column of an index with a single part. -/
def soleColumn? (rows : List IndexRow) (name : String) : Option String :=
  match partsOf rows name with
  | [some column] => some column
  | _ => none

/-- The columns that stand alone in a unique index other than the primary key, in order of their
names. -/
def uniqueColumns (rows : List IndexRow) : List String :=
  let candidates := rows.filter isCandidate
  let columns := candidates.filterMap fun r => soleColumn? candidates r.indexName
  (Keyed.ofList (columns.map fun c => (c, ()))).map (·.1)

end IndexRow

end TableMapping
