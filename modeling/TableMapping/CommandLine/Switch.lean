/-!
# Switches

The command line has a level before the command and one for each command.  A switch belongs to one
level, except for the one that asks for help.

## Main definitions

* `Verb` : the commands by name.
* `Switch` : the switches, with `Switch.letter`, `Switch.word` and `Switch.takesValue`.
* `Switch.belongsTo` : the levels of a switch.
-/

namespace TableMapping.CommandLine

/-- A command by name. -/
inductive Verb
  | diff
  | introspect
  | bind
  | help
deriving DecidableEq

namespace Verb

/-- The name of a command. -/
def name : Verb → String
  | diff => "diff"
  | introspect => "introspect"
  | bind => "bind"
  | help => "help"

/-- All commands. -/
def all : List Verb := [diff, introspect, bind, help]

/-- The command of a name. -/
def ofName? (s : String) : Option Verb := all.find? (·.name == s)

/-- How many arguments a command takes besides switches. -/
def arity : Verb → Nat
  | introspect | bind => 1
  | diff | help => 0

end Verb

/-- A switch of the command line. -/
inductive Switch
  | databaseUrl
  | database
  | flavor
  | verbose
  | entity
  | live
  | params
  | help
  | version
deriving DecidableEq

namespace Switch

/-- The letter of a switch, after one dash. -/
def letter : Switch → Char
  | databaseUrl => 'u'
  | database => 'd'
  | flavor => 'f'
  | verbose => 'v'
  | entity => 'e'
  | live => 'l'
  | params => 'p'
  | help => 'h'
  | version => 'V'

/-- The word of a switch, after two dashes. -/
def word : Switch → String
  | databaseUrl => "database-url"
  | database => "database"
  | flavor => "flavor"
  | verbose => "verbose"
  | entity => "entity"
  | live => "live"
  | params => "params"
  | help => "help"
  | version => "version"

/-- Whether a switch is followed by a value. -/
def takesValue : Switch → Bool
  | verbose | help | version => false
  | _ => true

/-- Whether a switch may occur at a level: before the command, or behind it. -/
def belongsTo (level : Option Verb) : Switch → Bool
  | databaseUrl | database | flavor | verbose | version => level.isNone
  | entity | live => level == some .diff
  | params => level == some .bind
  | help => true

/-- All switches. -/
def all : List Switch :=
  [databaseUrl, database, flavor, verbose, entity, live, params, help, version]

/-- The switch of a letter at a level. -/
def ofLetter? (level : Option Verb) (c : Char) : Option Switch :=
  all.find? fun s => s.letter == c && s.belongsTo level

/-- The switch of a word at a level. -/
def ofWord? (level : Option Verb) (w : String) : Option Switch :=
  all.find? fun s => s.word == w && s.belongsTo level

end Switch

end TableMapping.CommandLine
