import TableMapping.Text.Case

/-!
# Column types

A column is declared with a type of the server's dialect, with one of five names of the
application's own, or with a type that the mapping has no rules for.

## Main definitions

* `DialectType`, `ApplicationType` : the types with rules.
* `ColumnType` : the types of columns.
* `ColumnType.spelling`, `ColumnType.ofSpelling` : types as they are written.
-/

namespace TableMapping

/-- A type of the server's dialect, or one that the mapping stores in such a type. -/
inductive DialectType
  | bit | int | integer | tinyint | smallint | mediumint | bigint | float | double
  | doublePrecision | real | decimal | dec | numeric | fixed | bool | boolean | date | datetime
  | timestamp | time | year | char | nchar | nationalChar | varchar | nvarchar | nationalVarchar
  | text | tinytext | mediumtext | longtext | blob | tinyblob | mediumblob | longblob | binary
  | varbinary | enum | set | json | uuid | inet4 | inet6 | geometry | point | linestring | polygon
  | multipoint | multilinestring | multipolygon | geometrycollection | simpleArray | simpleJson
  | simpleEnum
deriving DecidableEq

namespace DialectType

/-- The spelling of a dialect type, in lower case. -/
def spelling : DialectType → String
  | bit => "bit"
  | int => "int"
  | integer => "integer"
  | tinyint => "tinyint"
  | smallint => "smallint"
  | mediumint => "mediumint"
  | bigint => "bigint"
  | float => "float"
  | double => "double"
  | doublePrecision => "double precision"
  | real => "real"
  | decimal => "decimal"
  | dec => "dec"
  | numeric => "numeric"
  | fixed => "fixed"
  | bool => "bool"
  | boolean => "boolean"
  | date => "date"
  | datetime => "datetime"
  | timestamp => "timestamp"
  | time => "time"
  | year => "year"
  | char => "char"
  | nchar => "nchar"
  | nationalChar => "national char"
  | varchar => "varchar"
  | nvarchar => "nvarchar"
  | nationalVarchar => "national varchar"
  | text => "text"
  | tinytext => "tinytext"
  | mediumtext => "mediumtext"
  | longtext => "longtext"
  | blob => "blob"
  | tinyblob => "tinyblob"
  | mediumblob => "mediumblob"
  | longblob => "longblob"
  | binary => "binary"
  | varbinary => "varbinary"
  | enum => "enum"
  | set => "set"
  | json => "json"
  | uuid => "uuid"
  | inet4 => "inet4"
  | inet6 => "inet6"
  | geometry => "geometry"
  | point => "point"
  | linestring => "linestring"
  | polygon => "polygon"
  | multipoint => "multipoint"
  | multilinestring => "multilinestring"
  | multipolygon => "multipolygon"
  | geometrycollection => "geometrycollection"
  | simpleArray => "simple-array"
  | simpleJson => "simple-json"
  | simpleEnum => "simple-enum"

/-- All dialect types. -/
def all : List DialectType := [
  .bit, .int, .integer, .tinyint, .smallint, .mediumint, .bigint, .float, .double,
  .doublePrecision, .real, .decimal, .dec, .numeric, .fixed, .bool, .boolean, .date, .datetime,
  .timestamp, .time, .year, .char, .nchar, .nationalChar, .varchar, .nvarchar, .nationalVarchar,
  .text, .tinytext, .mediumtext, .longtext, .blob, .tinyblob, .mediumblob, .longblob, .binary,
  .varbinary, .enum, .set, .json, .uuid, .inet4, .inet6, .geometry, .point, .linestring, .polygon,
  .multipoint, .multilinestring, .multipolygon, .geometrycollection, .simpleArray, .simpleJson,
  .simpleEnum]

end DialectType

/-- A name of the application's own for a kind of column. -/
inductive ApplicationType
  | boolean
  | number
  | string
  | date
  | buffer
deriving DecidableEq

namespace ApplicationType

/-- The spelling of the name, with a capital. -/
def spelling : ApplicationType → String
  | boolean => "Boolean"
  | number => "Number"
  | string => "String"
  | date => "Date"
  | buffer => "Buffer"

/-- All names of the application's own. -/
def all : List ApplicationType := [boolean, number, string, date, buffer]

end ApplicationType

/-- The declared type of a column. -/
inductive ColumnType
  | dialect (t : DialectType)
  | application (t : ApplicationType)
  /-- A type without rules, kept as it was spelled. -/
  | other (name : String)
deriving DecidableEq

namespace ColumnType

/-- The spelling of a type. -/
def spelling : ColumnType → String
  | dialect t => t.spelling
  | application t => t.spelling
  | other name => name

/-- The type of a spelling: a name of the application's own in its exact letter case, a dialect type
in any. -/
def ofSpelling (s : String) : ColumnType :=
  match ApplicationType.all.find? (·.spelling == s) with
  | some t => application t
  | none =>
    let lower := String.ofList (Text.asciiLower s.toList)
    match DialectType.all.find? (·.spelling == lower) with
    | some t => dialect t
    | none => other s

/-- The types whose columns hold one of a set of members. -/
def isEnum : ColumnType → Bool
  | dialect .enum | dialect .simpleEnum => true
  | _ => false

/-- The types whose columns hold truth values. -/
def isBoolean : ColumnType → Bool
  | application .boolean | dialect .bool | dialect .boolean => true
  | _ => false

end ColumnType

end TableMapping
