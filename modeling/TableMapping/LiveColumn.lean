/-!
# Live columns

A column as the server reports it.

## Main definitions

* `LiveColumn` : the report, and `LiveColumn.blank` the one that says nothing.
-/

namespace TableMapping

/-- What the server reports about a column.  The length is empty if the type has none. -/
structure LiveColumn where
  name : String
  columnType : String
  length : String
  width : Option UInt32
  precision : Option UInt32
  scale : Option UInt32
  isNullable : Bool
  isPrimary : Bool
  isUnique : Bool
  isGenerated : Bool
  default : Option String
  members : Option (List String)
  comment : Option String
  onUpdate : Option String
  zerofill : Bool
  unsigned : Bool
  expression : Option String
  storage : Option String
deriving DecidableEq

namespace LiveColumn

/-- A report in which everything is absent. -/
def blank : LiveColumn :=
  { name := ""
    columnType := ""
    length := ""
    width := none
    precision := none
    scale := none
    isNullable := false
    isPrimary := false
    isUnique := false
    isGenerated := false
    default := none
    members := none
    comment := none
    onUpdate := none
    zerofill := false
    unsigned := false
    expression := none
    storage := none }

/-- A nullable column of a name and a type. -/
def new (name columnType : String) : LiveColumn :=
  { blank with name := name, columnType := columnType, isNullable := true }

end LiveColumn

end TableMapping
