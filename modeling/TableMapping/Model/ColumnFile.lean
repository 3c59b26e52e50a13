import TableMapping.Column
import TableMapping.Document.Decoder

/-!
# Columns in model files

A column is written as an object with all its fields.  When it is read, every field may be left out.
A default is written as the document of its value, and an expression as an object with the field
`sql`; the transformers of a column are functions and are not written.

## Main definitions

* `DefaultValue.toDocument`, `DefaultValue.decoder` : defaults as documents.
* `Column.toDocument`, `Column.decoder` : columns as documents.
-/

namespace TableMapping

/-! ### Writing -/

/-- A member as a document. -/
def EnumMember.toDocument : EnumMember → Document
  | int n => .number (.integer (.ofInt64 n))
  | text s => .text s

/-- A default as a document. -/
def DefaultValue.toDocument : DefaultValue → Document
  | null => .null
  | bool b => .bool b
  | integer n => .number (.integer (.ofInt64 n))
  | float x => (Value.float x).toDocument
  | text s => .text s
  | list items => .list (items.map .text)
  | computed sql => .object [("sql", .text sql)]

/-- A column as a document. -/
def Column.toDocument (c : Column) : Document :=
  .object [
    ("name", .text c.name),
    ("database_name", .text c.databaseName),
    ("type", .text c.columnType.spelling),
    ("length", .ofOption .ofUInt32 c.length),
    ("width", .ofOption .ofUInt32 c.width),
    ("precision", .ofOption .ofUInt32 c.precision),
    ("scale", .ofOption .ofUInt32 c.scale),
    ("is_nullable", .bool c.isNullable),
    ("is_primary", .bool c.isPrimary),
    ("is_generated", .bool c.isGenerated),
    ("generation_strategy", .ofOption (fun s => .text s.name) c.strategy),
    ("default", .ofOption DefaultValue.toDocument c.default),
    ("enum", .ofOption (fun ms => .list (ms.map EnumMember.toDocument)) c.members),
    ("comment", .ofOption .text c.comment),
    ("on_update", .ofOption .text c.onUpdate),
    ("zerofill", .bool c.zerofill),
    ("unsigned", .bool c.unsigned),
    ("as_expression", .ofOption .text c.expression),
    ("generated_type", .ofOption .text c.storage),
    ("is_array", .bool c.isArray),
    ("embedded_path", .list (c.embeddedPath.map .text))]

/-! ### Reading -/

/-- A member: an integer of 64 bits, or a text. -/
def EnumMember.decoder : Decoder EnumMember := fun limit o => do
  match ← o.document limit with
  | .number (.integer n) =>
    match n.toInt64? with
    | some i => return .int i
    | none => throw .unfit
  | .text s => return .text s
  | _ => throw .unfit

/-- The default of a document: an integer beyond the signed ones is taken for a double, and the
items of a list for their texts. -/
def DefaultValue.ofDocument : Document → Except ReadError DefaultValue
  | .null => .ok .null
  | .bool b => .ok (.bool b)
  | .number (.integer n) =>
    match n.toInt64? with
    | some i => .ok (.integer i)
    | none => .ok (.float (Binary64.ofInt n.val))
  | .number (.float x _) => .ok (.float x)
  | .text s => .ok (.text s)
  | .list items =>
    .ok (.list (items.map fun d => String.ofList (Value.ofDocument d).stringify))
  | .object fields =>
    match fields.lookup "sql" with
    | some (.text sql) => .ok (.computed sql)
    | _ => .error .unfitDefault

/-- A default. -/
def DefaultValue.decoder : Decoder DefaultValue := fun limit o => do
  DefaultValue.ofDocument (← o.document limit)

/-- A strategy by its name. -/
def GenerationStrategy.decoder : Decoder GenerationStrategy :=
  .variant (GenerationStrategy.all.map fun s => (s.name, s))

/-- A type by its spelling. -/
def ColumnType.decoder : Decoder ColumnType := fun limit o =>
  (Decoder.text limit o).map ColumnType.ofSpelling

namespace Column

/-- The column that a document without fields stands for. -/
def blank : Column := .new "" (.application .string)

/-- The fields of a column in the order of its list form. -/
def recordFields : List (RecordField Column) := [
  .of .optional "name" .text fun a c => { c with name := a },
  .of .optional "database_name" .text fun a c => { c with databaseName := a },
  .of .optional "type" ColumnType.decoder fun a c => { c with columnType := a },
  .of .optional "length" (.option .uint32) fun a c => { c with length := a },
  .of .optional "width" (.option .uint32) fun a c => { c with width := a },
  .of .optional "precision" (.option .uint32) fun a c => { c with precision := a },
  .of .optional "scale" (.option .uint32) fun a c => { c with scale := a },
  .of .optional "is_nullable" .bool fun a c => { c with isNullable := a },
  .of .optional "is_primary" .bool fun a c => { c with isPrimary := a },
  .of .optional "is_generated" .bool fun a c => { c with isGenerated := a },
  .of .optional "generation_strategy" (.option GenerationStrategy.decoder)
    fun a c => { c with strategy := a },
  .of .optional "default" (.option DefaultValue.decoder) fun a c => { c with default := a },
  .of .optional "enum" (.option (.list EnumMember.decoder)) fun a c => { c with members := a },
  .of .optional "comment" (.option .text) fun a c => { c with comment := a },
  .of .optional "on_update" (.option .text) fun a c => { c with onUpdate := a },
  .of .optional "zerofill" .bool fun a c => { c with zerofill := a },
  .of .optional "unsigned" .bool fun a c => { c with unsigned := a },
  .of .optional "as_expression" (.option .text) fun a c => { c with expression := a },
  .of .optional "generated_type" (.option .text) fun a c => { c with storage := a },
  .of .optional "is_array" .bool fun a c => { c with isArray := a },
  .of .optional "embedded_path" (.list .text) fun a c => { c with embeddedPath := a }]

/-- A column, with nothing but what is written. -/
def decoder : Decoder Column := .record recordFields blank

end Column

end TableMapping
