import TableMapping.CommandLine.Switch
import TableMapping.Flavor
import TableMapping.Text.Search

/-!
# Requests

The arguments of the command line are read one after the other.  A switch is a dash and a letter or
two dashes and a word; letters can share a dash.  Its value is the next argument, or follows in the
same one, behind an equals sign or, after a letter, at once.  An argument that begins with a dash is
no value, and after two dashes alone nothing is a switch any more.  No switch occurs twice.

What asks for help ends the reading, so that help can come before an error further on.  A value that
is an argument of its own counts as further on than a command right behind it.

## Main definitions

* `Invocation`, `Command` : what is to be done.
* `UsageError` : why the arguments ask for nothing that can be done.
* `Reading` : arguments under way, with one step for each argument.
* `Request.read` : what the arguments ask for.
-/

namespace TableMapping.CommandLine

/-! ### What can be asked for -/

/-- A command with its arguments. -/
inductive Command
  /-- Compares an entity file with a snapshot, or with a server. -/
  | diff (entity : String) (live : Option String)
  /-- Shows the live columns of a table. -/
  | introspect (table : String)
  /-- Rewrites a template and binds its parameters. -/
  | bind (template parameters : String)
deriving DecidableEq

/-- A command and the settings that it runs with. -/
structure Invocation where
  databaseUrl : Option String
  database : Option String
  flavor : Flavor
  verbose : Bool
  command : Command
deriving DecidableEq

/-- What the arguments ask for. -/
inductive Request
  | run (i : Invocation)
  /-- Help about the whole program, or about a command. -/
  | help (topic : Option Verb)
  | version
deriving DecidableEq

/-- Why the arguments ask for nothing that can be done. -/
inductive UsageError
  | unknownSwitch (argument : String)
  | unexpectedArgument (argument : String)
  | missingValue (s : Switch)
  | unexpectedValue (s : Switch)
  | unfitValue (s : Switch)
  | repeated (s : Switch)
  | missingCommand
  | unknownCommand (name : String)
  | missingArgument (name : String)
deriving DecidableEq

/-- The wording of the error. -/
def UsageError.message : UsageError → String
  | unknownSwitch argument => "unknown option " ++ argument
  | unexpectedArgument argument => "unexpected argument " ++ argument
  | missingValue s => "a value is missing for --" ++ s.word
  | unexpectedValue s => "no value is expected for --" ++ s.word
  | unfitValue s => "the value is not valid for --" ++ s.word
  | repeated s => "there can be only one --" ++ s.word
  | missingCommand => "a command is missing"
  | unknownCommand name => "unknown command " ++ name
  | missingArgument name => "a value is missing for " ++ name

/-- What ends the reading before the last argument. -/
inductive Stop
  | usage (e : UsageError)
  | help (topic : Option Verb)
  | version

/-! ### Reading -/

/-- What the next argument can be. -/
inductive Mode
  /-- A switch, a command or another argument. -/
  | free
  /-- The value of a switch. -/
  | value (s : Switch)
  /-- No switch. -/
  | plain

/-- Arguments under way: the command if there was one, and the switches and other arguments so far,
latest first.  What is wrong with the last value before the command is told late: only when no
command follows, or in the end. -/
structure Reading where
  mode : Mode
  verb : Option Verb
  switches : List (Switch × String)
  words : List String
  late : Option UsageError

namespace Reading

/-- Before the first argument. -/
def start : Reading := ⟨.free, none, [], [], none⟩

/-- Whether a switch accepts a value: a flavor must be known, and a path must not be empty. -/
def accepts (s : Switch) (value : String) : Bool :=
  match s with
  | .flavor => (Flavor.ofName value).isOk
  | .entity | .live => !value.isEmpty
  | _ => true

/-- A switch with its value, which is empty if it takes none. -/
def set (r : Reading) (s : Switch) (value : String) : Except UsageError Reading :=
  if (r.switches.lookup s).isSome then .error (.repeated s)
  else if accepts s value then
    .ok { r with mode := .free, switches := (s, value) :: r.switches }
  else .error (.unfitValue s)

/-- A switch with a value in the same argument, or without a value. -/
def setNow (r : Reading) (s : Switch) (value : String) : Except Stop Reading :=
  (r.set s value).mapError .usage

/-- A switch with a value that is an argument of its own. -/
def setLate (r : Reading) (s : Switch) (value : String) : Except Stop Reading :=
  match r.verb, r.set s value with
  | none, .error e => .ok { r with mode := .free, late := some e }
  | _, result => result.mapError .usage

/-- A switch without a value. -/
def flag (r : Reading) (s : Switch) : Except Stop Reading :=
  match s with
  | .help => .error (.help r.verb)
  | .version => .error .version
  | s => r.setNow s ""

/-- The letters behind a dash. -/
def letters (r : Reading) : List Char → Except Stop Reading
  | [] => .ok r
  | c :: rest =>
    match Switch.ofLetter? r.verb c with
    | none => .error (.usage (.unknownSwitch (String.ofList ['-', c])))
    | some s =>
      if s.takesValue then
        match rest with
        | [] => .ok { r with mode := .value s }
        | '=' :: value => r.setNow s (String.ofList value)
        | value => r.setNow s (String.ofList value)
      else do (← r.flag s).letters rest

/-- The word behind two dashes, with a value behind an equals sign or without one. -/
def word (r : Reading) (argument : List Char) : Except Stop Reading :=
  let (name, value) := match Text.splitFirst ['='] argument with
    | some (name, value) => (name, some (String.ofList value))
    | none => (argument, none)
  match Switch.ofWord? r.verb (String.ofList name) with
  | none => .error (.usage (.unknownSwitch (String.ofList ('-' :: '-' :: name))))
  | some s =>
    match s.takesValue, value with
    | true, some value => r.setNow s value
    | true, none => .ok { r with mode := .value s }
    | false, some _ => .error (.usage (.unexpectedValue s))
    | false, none => r.flag s

/-- An argument that is no switch: the command, or one of its arguments.  The topics of help are
looked at in the end. -/
def plain (r : Reading) (argument : String) : Except Stop Reading :=
  match r.verb with
  | some .help => .ok { r with words := argument :: r.words }
  | some verb =>
    if r.words.length < verb.arity then .ok { r with words := argument :: r.words }
    else .error (.usage (.unexpectedArgument argument))
  | none => .error (.usage (.unknownCommand argument))

/-- A switch or another argument, but not the command. -/
def free (r : Reading) (argument : String) : Except Stop Reading :=
  match argument.toList with
  | ['-', '-'] => .ok { r with mode := .plain }
  | '-' :: '-' :: name => r.word name
  | '-' :: c :: rest => r.letters (c :: rest)
  | _ => r.plain argument

/-- One argument. -/
def step (r : Reading) (argument : String) : Except Stop Reading :=
  match r.mode, r.verb, argument.toList with
  | .plain, _, _ | _, some .help, _ => r.plain argument
  | .value s, _, '-' :: _ :: _ => .error (.usage (.missingValue s))
  | .value s, _, _ => r.setLate s argument
  | .free, some _, _ => r.free argument
  | .free, none, _ =>
    match Verb.ofName? argument, r.late with
    | some verb, _ => .ok { r with verb := some verb }
    | none, some e => .error (.usage e)
    | none, none => r.free argument

/-- The topic that help was asked about. -/
def topic : List String → Except UsageError (Option Verb)
  | [] => .ok none
  | [name] =>
    match Verb.ofName? name with
    | some verb => .ok (some verb)
    | none => .error (.unknownCommand name)
  | _ :: name :: _ => .error (.unknownCommand name)

/-- A part that must have been given. -/
def required (name : String) : Option String → Except UsageError String
  | some value => .ok value
  | none => .error (.missingArgument name)

/-- The command of a finished reading, except for help. -/
def command (r : Reading) : Except UsageError Command :=
  match r.verb with
  | some .diff => do
    let entity ← required "--entity" (r.switches.lookup .entity)
    return .diff entity (r.switches.lookup .live)
  | some .introspect => do return .introspect (← required "TABLE" r.words.head?)
  | some .bind => do
    let template ← required "SQL" r.words.head?
    return .bind template ((r.switches.lookup .params).getD "\x7b\x7d")
  | some .help | none => .error .missingCommand

/-- What a finished reading asks for, given the address of the server from the environment. -/
def request (environment : Option String) (r : Reading) : Except UsageError Request :=
  match r.mode, r.verb, r.late with
  | .value s, _, _ => .error (.missingValue s)
  | _, some .help, _ => (topic r.words.reverse).map .help
  | _, _, some e => .error e
  | _, _, none => do
    let command ← r.command
    return .run {
      databaseUrl := r.switches.lookup .databaseUrl <|> environment
      database := r.switches.lookup .database
      flavor :=
        ((r.switches.lookup .flavor).bind fun name => (Flavor.ofName name).toOption).getD .mysql
      verbose := (r.switches.lookup .verbose).isSome
      command := command }

end Reading

/-- What the arguments ask for, given the address of the server from the environment. -/
def Request.read (environment : Option String) (arguments : List String) :
    Except UsageError Request :=
  match arguments.foldlM Reading.step Reading.start with
  | .ok r => r.request environment
  | .error (.help topic) => .ok (.help topic)
  | .error .version => .ok .version
  | .error (.usage e) => .error e

end TableMapping.CommandLine
