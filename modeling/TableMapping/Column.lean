import TableMapping.ColumnType
import TableMapping.Value

/-!
# Columns

The definition of a column as the application declares it: its name on both sides, its type and
sizes, its default, and what else belongs to its definition on the server.

## Main definitions

* `GenerationStrategy`, `EnumMember`, `DefaultValue`, `Transformer` : parts of a definition.
* `Column` : the definition, and `Column.new` the one with nothing but a name and a type.
* `Column.path` : where the value of the column stands among the properties of the application.
-/

namespace TableMapping

/-- How the values of a generated column come about. -/
inductive GenerationStrategy
  /-- The server counts. -/
  | increment
  /-- The application makes unique identifiers. -/
  | uuid
deriving DecidableEq

/-- The names of the strategies. -/
def GenerationStrategy.name : GenerationStrategy → String
  | increment => "increment"
  | uuid => "uuid"

/-- All strategies. -/
def GenerationStrategy.all : List GenerationStrategy := [.increment, .uuid]

/-- A member of the domain of a column. -/
inductive EnumMember
  | int (n : Int64)
  | text (s : String)
deriving DecidableEq

/-- The text by which the server knows a member. -/
def EnumMember.spelling : EnumMember → String
  | int n => String.ofList (intText n.toInt)
  | text s => s

/-- The declared default of a column. -/
inductive DefaultValue
  /-- Explicitly none. -/
  | null
  | bool (b : Bool)
  | integer (n : Int64)
  | float (x : Binary64)
  | text (s : String)
  | list (items : List String)
  /-- An expression for the server to evaluate.  It is made by a producer that is called at each use, and
  that is taken to give the same text at every call. -/
  | computed (sql : String)

/-- A conversion that a column applies beyond that of its type. -/
structure Transformer where
  toDatabase : Value → Value
  fromDatabase : Value → Value

/-- The definition of a column.  The path names the embedded object that holds the column. -/
structure Column where
  name : String
  databaseName : String
  columnType : ColumnType
  length : Option UInt32
  width : Option UInt32
  precision : Option UInt32
  scale : Option UInt32
  isNullable : Bool
  isPrimary : Bool
  isGenerated : Bool
  strategy : Option GenerationStrategy
  default : Option DefaultValue
  members : Option (List EnumMember)
  comment : Option String
  transformers : List Transformer
  onUpdate : Option String
  zerofill : Bool
  unsigned : Bool
  expression : Option String
  storage : Option String
  isArray : Bool
  embeddedPath : List String

namespace Column

/-- A nullable column of the same name on both sides. -/
def new (name : String) (columnType : ColumnType) : Column :=
  { name := name
    databaseName := name
    columnType := columnType
    length := none
    width := none
    precision := none
    scale := none
    isNullable := true
    isPrimary := false
    isGenerated := false
    strategy := none
    default := none
    members := none
    comment := none
    transformers := []
    onUpdate := none
    zerofill := false
    unsigned := false
    expression := none
    storage := none
    isArray := false
    embeddedPath := [] }

/-- The property path of the column's value. -/
def path (c : Column) : List String := c.embeddedPath ++ [c.name]

/-! ### Definitions step by step -/

/-- A column that refuses the null. -/
def notNull (c : Column) : Column := { c with isNullable := false }

/-- A column of the primary key, which refuses the null. -/
def primary (c : Column) : Column := { c with isPrimary := true, isNullable := false }

/-- A column whose values come about by a strategy. -/
def generated (c : Column) (s : GenerationStrategy) : Column :=
  { c with isGenerated := true, strategy := some s }

/-- A column that the server computes, and how it stores what it computes. -/
def computedAs (c : Column) (expression storage : String) : Column :=
  { c with expression := some expression, storage := some storage }

/-- A column inside an embedded object. -/
def embeddedIn (c : Column) (path : List String) : Column := { c with embeddedPath := path }

/-- A column with one more conversion, applied after the others on the way to the database. -/
def transformedBy (c : Column) (t : Transformer) : Column :=
  { c with transformers := c.transformers ++ [t] }

end Column

end TableMapping
