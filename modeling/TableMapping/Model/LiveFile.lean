import TableMapping.LiveColumn
import TableMapping.Document.Decoder

/-!
# Snapshots of live columns

A snapshot is a list of live columns, each an object with all its fields.  When it is read, every
field may be left out.

## Main definitions

* `LiveColumn.toDocument`, `LiveColumn.decoder` : live columns as documents.
* `LiveColumn.readAll` : reads a snapshot.
-/

namespace TableMapping.LiveColumn

/-- A live column as a document. -/
def toDocument (l : LiveColumn) : Document :=
  .object [
    ("name", .text l.name),
    ("type", .text l.columnType),
    ("length", .text l.length),
    ("width", .ofOption .ofUInt32 l.width),
    ("precision", .ofOption .ofUInt32 l.precision),
    ("scale", .ofOption .ofUInt32 l.scale),
    ("is_nullable", .bool l.isNullable),
    ("is_primary", .bool l.isPrimary),
    ("is_unique", .bool l.isUnique),
    ("is_generated", .bool l.isGenerated),
    ("default", .ofOption .text l.default),
    ("enum", .ofOption (fun ms => .list (ms.map .text)) l.members),
    ("comment", .ofOption .text l.comment),
    ("on_update", .ofOption .text l.onUpdate),
    ("zerofill", .bool l.zerofill),
    ("unsigned", .bool l.unsigned),
    ("as_expression", .ofOption .text l.expression),
    ("generated_type", .ofOption .text l.storage)]

/-- The fields of a live column in the order of its list form. -/
def recordFields : List (RecordField LiveColumn) := [
  .of .optional "name" .text fun a l => { l with name := a },
  .of .optional "type" .text fun a l => { l with columnType := a },
  .of .optional "length" .text fun a l => { l with length := a },
  .of .optional "width" (.option .uint32) fun a l => { l with width := a },
  .of .optional "precision" (.option .uint32) fun a l => { l with precision := a },
  .of .optional "scale" (.option .uint32) fun a l => { l with scale := a },
  .of .optional "is_nullable" .bool fun a l => { l with isNullable := a },
  .of .optional "is_primary" .bool fun a l => { l with isPrimary := a },
  .of .optional "is_unique" .bool fun a l => { l with isUnique := a },
  .of .optional "is_generated" .bool fun a l => { l with isGenerated := a },
  .of .optional "default" (.option .text) fun a l => { l with default := a },
  .of .optional "enum" (.option (.list .text)) fun a l => { l with members := a },
  .of .optional "comment" (.option .text) fun a l => { l with comment := a },
  .of .optional "on_update" (.option .text) fun a l => { l with onUpdate := a },
  .of .optional "zerofill" .bool fun a l => { l with zerofill := a },
  .of .optional "unsigned" .bool fun a l => { l with unsigned := a },
  .of .optional "as_expression" (.option .text) fun a l => { l with expression := a },
  .of .optional "generated_type" (.option .text) fun a l => { l with storage := a }]

/-- A live column. -/
def decoder : Decoder LiveColumn := .record recordFields blank

/-- Reads a snapshot from the text of a document. -/
def readAll (s : List Char) : Except ReadError (List LiveColumn) :=
  (Decoder.list decoder).readText s

end TableMapping.LiveColumn
