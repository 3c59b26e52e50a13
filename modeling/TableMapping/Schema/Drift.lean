import TableMapping.Entity
import TableMapping.LiveColumn
import TableMapping.Schema.CanonicalType
import TableMapping.Schema.DefaultClause

/-!
# Drift

A column has drifted if the server reports another definition than the declared one.  The attributes
are compared one after the other, and the first one that differs is named.  Only columns on both
sides are compared, and a column whose default cannot be written is compared with nothing, even if
an attribute before the default differs.

## Main definitions

* `Attribute` : the attributes.
* `Nullability` : when a declared and a live column agree about the null.
* `Schema.differs` : whether an attribute differs.
* `Schema.drift` : the first attribute that differs.
* `Schema.changes` : the declared columns that have drifted, with those attributes.
* `Schema.changedColumns` : the declared columns that have drifted.
-/

namespace TableMapping

/-- An attribute in which a declared and a live column can differ. -/
inductive Attribute
  | name
  | type
  | length
  | width
  | zerofill
  | unsigned
  | expression
  | storage
  | precision
  | scale
  | comment
  | default
  | members
  | onUpdate
  | primary
  | nullable
  | unique
  | generated
deriving DecidableEq

namespace Attribute

/-- The attributes in the order in which they are compared. -/
def all : List Attribute :=
  [name, type, length, width, zerofill, unsigned, expression, storage, precision, scale, comment,
    default, members, onUpdate, primary, nullable, unique, generated]

/-- The name of an attribute in reports. -/
def label : Attribute → String
  | name => "name"
  | type => "type"
  | length => "length"
  | width => "width"
  | zerofill => "zerofill"
  | unsigned => "unsigned"
  | expression => "as_expression"
  | storage => "generated_type"
  | precision => "precision"
  | scale => "scale"
  | comment => "comment"
  | default => "default"
  | members => "enum"
  | onUpdate => "on_update"
  | primary => "primary"
  | nullable => "nullable"
  | unique => "unique"
  | generated => "generated"

end Attribute

/-- When a declared and a live column agree about the null. -/
abbrev Nullability := Column → LiveColumn → Bool

/-- Both accept the null or neither does. -/
def Nullability.strict : Nullability := fun c l => c.isNullable == l.isNullable

/-- A live column may also accept the null when the declared one does not, and of the primary key
nothing is asked. -/
def Nullability.lenient : Nullability := fun c l =>
  c.isPrimary || c.isNullable == l.isNullable || l.isNullable

namespace Schema

/-- Two domains with as many members, where every declared one is live; and always the same if one
side has no domain. -/
def sameMembers (live : Option (List String)) (desired : Option (List EnumMember)) : Bool :=
  match live, desired with
  | some ls, some ds => ls.length == ds.length && ds.all fun m => ls.contains m.spelling
  | _, _ => true

/-- What a column does to its value on every update, in one spelling. -/
def updateClause? (flavor : Flavor) (s : Option String) : Option (List Char) :=
  s.map fun s => Timestamp.canonical flavor s.toList

/-- Whether a declared column of an entity differs from a live one in an attribute; the server
reports `clause` for the declared default. -/
def differs (flavor : Flavor) (agree : Nullability) (e : Entity) (c : Column) (l : LiveColumn)
    (clause : Option (List Char)) : Attribute → Bool
  | .name => l.name != c.databaseName
  | .type => l.columnType != c.typeName flavor
  | .length => l.length != c.lengthText
  | .width => l.width != c.displayWidth
  | .zerofill => l.zerofill != c.zerofill
  | .unsigned => l.unsigned != c.unsigned
  | .expression => l.expression != c.expression
  | .storage => l.storage != c.storage
  | .precision => c.precision.isSome && l.precision != c.precision
  | .scale => c.scale.isSome && l.scale != c.scale
  | .comment => storedComment? l.comment != storedComment? c.comment
  | .default => !sameDefault clause (l.default.map String.toList)
  | .members => !sameMembers l.members c.members
  | .onUpdate => updateClause? flavor l.onUpdate != updateClause? flavor c.onUpdate
  | .primary => l.isPrimary != c.isPrimary
  | .nullable => !agree c l
  | .unique => l.isUnique != e.isUnique c
  | .generated => c.strategy != some .uuid && l.isGenerated != c.isGenerated

/-- The first attribute in which a declared column differs from a live one. -/
def drift (flavor : Flavor) (agree : Nullability) (e : Entity) (c : Column) (l : LiveColumn) :
    Except TooManyDecimals (Option Attribute) :=
  (c.defaultClause flavor).map fun clause =>
    Attribute.all.find? (differs flavor agree e c l clause)

/-- The first live column with the name of a declared one. -/
def counterpart? (live : List LiveColumn) (c : Column) : Option LiveColumn :=
  live.find? (·.name == c.databaseName)

/-- The first attribute in which a declared column differs from its counterpart, if it has one. -/
def driftAmong (flavor : Flavor) (agree : Nullability) (e : Entity) (live : List LiveColumn)
    (c : Column) : Except TooManyDecimals (Option Attribute) :=
  match counterpart? live c with
  | some l => drift flavor agree e c l
  | none => .ok none

/-- Those of some columns that have drifted, with the first attribute that differs. -/
def changesAmong (flavor : Flavor) (agree : Nullability) (e : Entity) (live : List LiveColumn) :
    List Column → Except TooManyDecimals (List (Column × Attribute))
  | [] => .ok []
  | c :: rest => do
    let change ← driftAmong flavor agree e live c
    let changes ← changesAmong flavor agree e live rest
    return (change.map fun a => (c, a)).toList ++ changes

/-- The declared columns that have drifted, in the order of their declaration, with the first
attribute that differs. -/
def changes (flavor : Flavor) (agree : Nullability) (e : Entity) (live : List LiveColumn) :
    Except TooManyDecimals (List (Column × Attribute)) :=
  changesAmong flavor agree e live e.columns

/-- The declared columns that have drifted, in the order of their declaration. -/
def changedColumns (flavor : Flavor) (agree : Nullability) (e : Entity) (live : List LiveColumn) :
    Except TooManyDecimals (List Column) :=
  (changes flavor agree e live).map fun found => found.map Prod.fst

end Schema

end TableMapping
