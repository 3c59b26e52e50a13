import TableMapping.Entity
import TableMapping.Model.ColumnFile

/-!
# Entities in model files

An entity is written as an object.  A column that is read without a name in the database has its
property name there.

## Main definitions

* `Entity.toDocument`, `Entity.decoder` : entities as documents.
* `Entity.read`, `Entity.readDocument` : reads an entity and fills in the names of its columns.
-/

namespace TableMapping

/-- An index as a document. -/
def Index.toDocument (i : Index) : Document :=
  .object [
    ("name", .text i.name),
    ("columns", .list (i.columns.map .text)),
    ("is_unique", .bool i.isUnique)]

namespace Index

/-- The fields of an index; its name and its columns must be there. -/
def recordFields : List (RecordField Index) := [
  .of .always "name" .text fun a i => { i with name := a },
  .of .always "columns" (.list .text) fun a i => { i with columns := a },
  .of .optional "is_unique" .bool fun a i => { i with isUnique := a }]

/-- An index. -/
def decoder : Decoder Index := .record recordFields ⟨"", [], false⟩

end Index

namespace Entity

/-- An entity as a document. -/
def toDocument (e : Entity) : Document :=
  .object [
    ("table_name", .text e.tableName),
    ("database", .ofOption .text e.database),
    ("schema", .ofOption .text e.schema),
    ("columns", .list (e.columns.map Column.toDocument)),
    ("indices", .list (e.indices.map Index.toDocument))]

/-- The fields of an entity in the order of its list form. -/
def recordFields : List (RecordField Entity) := [
  .of .optional "table_name" .text fun a e => { e with tableName := a },
  .of .optional "database" (.option .text) fun a e => { e with database := a },
  .of .optional "schema" (.option .text) fun a e => { e with schema := a },
  .of .optional "columns" (.list Column.decoder) fun a e => { e with columns := a },
  .of .optional "indices" (.list Index.decoder) fun a e => { e with indices := a }]

/-- An entity, with nothing but what is written. -/
def decoder : Decoder Entity := .record recordFields (.new "")

/-- Gives each column without a name in the database its property name. -/
def fillNames (e : Entity) : Entity :=
  { e with
    columns := e.columns.map fun c =>
      if c.databaseName.isEmpty then { c with databaseName := c.name } else c }

/-- Reads an entity from the text of a document. -/
def read (s : List Char) : Except ReadError Entity := (decoder.readText s).map fillNames

/-- Reads an entity from a document. -/
def readDocument (d : Document) : Except ReadError Entity := (decoder.readDocument d).map fillNames

end Entity

end TableMapping
