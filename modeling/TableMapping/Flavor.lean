import TableMapping.Text.Case

/-!
# Server flavors

The two families of servers that the mapping knows.  They store documents in different types and
report current timestamps and literal defaults in different ways.

## Main definitions

* `Flavor` : the flavors.
* `Flavor.name`, `Flavor.ofName` : their names, which are read in any ASCII letter case.
-/

namespace TableMapping

/-- A server family. -/
inductive Flavor
  | mysql
  | mariadb
deriving DecidableEq, Inhabited

/-- A name that is no flavor's, in lower case. -/
structure UnknownFlavor where
  name : String
deriving DecidableEq

/-- The wording of the error. -/
def UnknownFlavor.message (e : UnknownFlavor) : String := "unknown server flavor: " ++ e.name

namespace Flavor

/-- The name of a flavor. -/
def name : Flavor → String
  | mysql => "mysql"
  | mariadb => "mariadb"

/-- All flavors. -/
def all : List Flavor := [mysql, mariadb]

/-- The flavor of a name in any ASCII letter case. -/
def ofName (s : String) : Except UnknownFlavor Flavor :=
  let lower := String.ofList (Text.asciiLower s.toList)
  match all.find? (·.name == lower) with
  | some flavor => .ok flavor
  | none => .error ⟨lower⟩

end Flavor

end TableMapping
