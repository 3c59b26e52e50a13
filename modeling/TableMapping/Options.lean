import TableMapping.Document.Decoder
import TableMapping.Flavor

/-!
# Options and capabilities

What a mapping is set up with, and what it cannot do.

## Main definitions

* `Options` : the default database and the flavor of the server.
* `Capability`, `Unsupported` : what no server of this family has, with what to use in its place.
* `ConnectionRole.select` : the role of a connection, if it can be had.
-/

namespace TableMapping

/-- What a mapping is set up with. -/
structure Options where
  database : Option String
  flavor : Flavor
deriving DecidableEq

namespace Options

/-- No default database, and the first flavor. -/
def blank : Options := ⟨none, .mysql⟩

/-- Options as a document. -/
def toDocument (o : Options) : Document :=
  .object [("database", .ofOption .text o.database), ("flavor", .text o.flavor.name)]

/-- The fields of options in the order of their list form. -/
def recordFields : List (RecordField Options) := [
  .of .optional "database" (.option .text) fun a o => { o with database := a },
  .of .optional "flavor" (.variant (Flavor.all.map fun f => (f.name, f)))
    fun a o => { o with flavor := a }]

/-- Options. -/
def decoder : Decoder Options := .record recordFields blank

end Options

/-- Something that a server may be asked for. -/
inductive Capability
  | replication
  | schemas
  | sequences
deriving DecidableEq

namespace Capability

/-- What a capability is called. -/
def label : Capability → String
  | replication => "replica connections"
  | schemas => "schema-qualified table names"
  | sequences => "sequences"

/-- What to use in the place of a capability. -/
def alternative : Capability → String
  | replication => "ConnectionRole::Primary"
  | schemas => "database-qualified table names"
  | sequences => "auto-increment columns"

end Capability

/-- A capability was asked for that no server of this family has. -/
structure Unsupported where
  capability : Capability
deriving DecidableEq

/-- The wording of the error. -/
def Unsupported.message (e : Unsupported) : String :=
  e.capability.label ++ " are not supported by the MySQL driver; use " ++
    e.capability.alternative ++ " instead"

/-- Asks for a capability; there is none of them. -/
def Capability.require (c : Capability) : Except Unsupported Unit := .error ⟨c⟩

/-- Which server a statement is sent to. -/
inductive ConnectionRole
  | primary
  | replica
deriving DecidableEq

/-- The role of a connection, if it can be had. -/
def ConnectionRole.select : ConnectionRole → Except Unsupported ConnectionRole
  | primary => .ok .primary
  | replica => Capability.replication.require.map fun _ => .replica

end TableMapping
