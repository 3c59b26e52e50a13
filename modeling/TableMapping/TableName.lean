import TableMapping.Entity
import TableMapping.Document.Decoder
import TableMapping.Text.Search

/-!
# Table names

A table is known by a database and a name.  A written name may have the database in front of it,
with a point between them, and there may be a default database.

## Main definitions

* `TablePath` : where a table is.
* `TableReference`, `ForeignKey`, `TableTarget` : what a table can be found from.
* `TablePath.ofName`, `TableTarget.resolve` : the place of a table.
* `TablePath.written` : the place as a written name.
* `quoteIdentifier`, `readIdentifier?` : names between backquotes.
-/

namespace TableMapping

/-- Where a table is. -/
structure TablePath where
  database : Option String
  schema : Option String
  tableName : String
deriving DecidableEq

/-- The written name of a table or of a view, with what is known besides. -/
structure TableReference where
  name : String
  database : Option String
  schema : Option String
deriving DecidableEq

/-- A foreign key, perhaps with a name of its own: the written name of the table that it refers to, with
what is known of that table besides. -/
structure ForeignKey where
  name : Option String
  referencedTable : String
  referencedDatabase : Option String
  referencedSchema : Option String
deriving DecidableEq

/-- What a table can be found from; a foreign key stands for the table that it refers to. -/
inductive TableTarget
  | table (r : TableReference)
  | view (r : TableReference)
  | foreignKey (k : ForeignKey)
  | entity (e : Entity)
  | name (s : String)

/-- The database and the table of a written name: the text before the first point, unless it is
empty, and the text up to the next one. -/
def splitTableName (s : String) : Option String × String :=
  match Text.splitOn '.' s.toList with
  | database :: table :: _ =>
    (if database.isEmpty then none else some (String.ofList database), String.ofList table)
  | _ => (none, s)

/-- The place of a table with a written name.  A database that is known besides the name comes before the
one in the name, and that one before the default database. -/
def TablePath.ofName (defaultDatabase : Option String) (name : String)
    (database schema : Option String) : TablePath :=
  let (inName, table) := splitTableName name
  ⟨database <|> inName <|> defaultDatabase, schema, table⟩

/-- The place of a table. -/
def TableTarget.resolve (defaultDatabase : Option String) : TableTarget → TablePath
  | table r => .ofName defaultDatabase r.name r.database r.schema
  | view r => .ofName defaultDatabase r.name r.database r.schema
  | foreignKey k =>
    .ofName defaultDatabase k.referencedTable k.referencedDatabase k.referencedSchema
  | entity e => ⟨e.database <|> defaultDatabase, e.schema, e.tableName⟩
  | name s => .ofName defaultDatabase s none none

/-- A table with its database in front; a schema is left out. -/
def qualifiedName (table : String) (_schema database : Option String) : String :=
  match database with
  | some d => d ++ "." ++ table
  | none => table

/-- The place of a table as a written name. -/
def TablePath.written (p : TablePath) : String := qualifiedName p.tableName p.schema p.database

/-! ### Quoted names -/

/-- The quote around names. -/
def backquote : Char := '\x60'

/-- A name between backquotes, with each backquote inside written twice. -/
def quoteIdentifier (name : List Char) : List Char :=
  backquote :: (name.flatMap (fun c => if c = backquote then [backquote, backquote] else [c]) ++
    [backquote])

/-- The rest of a name whose opening backquote has been read, and what follows it.  Two backquotes
stand for one, and the first one that stands alone closes the name. -/
def readQuotedName? : List Char → Option (List Char × List Char)
  | [] => none
  | '\x60' :: '\x60' :: s => (readQuotedName? s).map fun (name, rest) => (backquote :: name, rest)
  | '\x60' :: s => some ([], s)
  | c :: s => (readQuotedName? s).map fun (name, rest) => (c :: name, rest)

/-- A name between backquotes at the start of a text, and what follows it. -/
def readIdentifier? : List Char → Option (List Char × List Char)
  | '\x60' :: s => readQuotedName? s
  | _ => none

/-! ### Reading -/

namespace TableReference

/-- The fields of a table or a view; its name must be there. -/
def recordFields : List (RecordField TableReference) := [
  .of .always "name" .text fun a r => { r with name := a },
  .of .named "database" (.option .text) fun a r => { r with database := a },
  .of .named "schema" (.option .text) fun a r => { r with schema := a }]

/-- A table or a view. -/
def decoder : Decoder TableReference := .record recordFields ⟨"", none, none⟩

end TableReference

namespace ForeignKey

/-- The fields of a foreign key; the name of the table must be there. -/
def recordFields : List (RecordField ForeignKey) := [
  .of .named "name" (.option .text) fun a k => { k with name := a },
  .of .always "referenced_table_name" .text fun a k => { k with referencedTable := a },
  .of .named "referenced_database" (.option .text) fun a k => { k with referencedDatabase := a },
  .of .named "referenced_schema" (.option .text) fun a k => { k with referencedSchema := a }]

/-- A foreign key. -/
def decoder : Decoder ForeignKey := .record recordFields ⟨none, "", none, none⟩

end ForeignKey

end TableMapping
