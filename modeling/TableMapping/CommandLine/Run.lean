import TableMapping.CommandLine.Event
import TableMapping.CommandLine.Help
import TableMapping.CommandLine.Request
import TableMapping.Model.EntityFile
import TableMapping.Model.LiveFile
import TableMapping.Query.Binding
import TableMapping.Schema.Drift

/-!
# Running a request

What the program answers to the arguments of its command line, as a function of the files that it
finds.  It has no client for a server, so that nothing can be fetched from one.

## Main definitions

* `FileFailure`, `RunError` : why a request cannot be carried out.
* `Outcome` : an exit code with what is written to both outputs.
* `Invocation.files` : the files that an invocation looks into.
* `Invocation.run`, `answer` : the outcome of an invocation, and of any arguments.
-/

namespace TableMapping.CommandLine

/-! ### Failures -/

/-- Why a file cannot be read. -/
inductive FileFailure
  /-- The system refuses, for a reason with a number. -/
  | system (reason : String) (code : Nat)
  /-- The file is no text. -/
  | notText
deriving DecidableEq

namespace FileFailure

/-- There is no such file. -/
def missing : FileFailure := system "No such file or directory" 2

/-- A part of the path before the last one is a file. -/
def notDirectory : FileFailure := system "Not a directory" 20

/-- The path names a directory. -/
def isDirectory : FileFailure := system "Is a directory" 21

/-- The wording of the failure. -/
def message : FileFailure → String
  | system reason code =>
    reason ++ " (os error " ++ String.ofList (natText code) ++ ")"
  | notText => "stream did not contain valid UTF-8"

end FileFailure

/-- The contents of files by their paths. -/
abbrev Files := String → Except FileFailure String

/-- Why a request cannot be carried out. -/
inductive RunError
  | file (f : FileFailure)
  /-- A file does not hold what it should. -/
  | unreadable (path : String) (e : ReadError)
  /-- The parameters of a template cannot be read. -/
  | parameters (e : ReadError)
  /-- A server is needed, but no address of one is given. -/
  | noServer
  /-- A server is needed, but cannot be reached. -/
  | unreachable
  /-- The default of a declared column cannot be written. -/
  | unwritable (e : TooManyDecimals)
deriving DecidableEq

namespace RunError

/-- The wording of the error. -/
def message : RunError → String
  | file f => "IO error: " ++ f.message
  | unreadable path _ => "Failed to parse '" ++ path ++ "'"
  | parameters _ => "Serialization error"
  | noServer => "a database URL is required (--database-url or DATABASE_URL)"
  | unreachable => "connecting to the database"
  | unwritable e => e.message

/-- What stands in front of the wording.  A default that cannot be written is told in the same way
as arguments that cannot be read. -/
def heading : RunError → String
  | unwritable _ => "error: "
  | _ => "Error: "

/-- The exit code after the error. -/
def code : RunError → Nat
  | unwritable _ => 101
  | _ => 1

end RunError

/-! ### Reports -/

/-- What an invocation tells and prints: its events and its output, and the error it ends with. -/
structure Report where
  events : List Event
  output : String
  error : Option RunError

namespace Report

/-- A report of a failure. -/
def failure (e : RunError) : Report := ⟨[], "", some e⟩

/-- The event of a declared column that has drifted. -/
def driftEvent (e : Entity) (c : Column) (a : Attribute) : Event :=
  { level := .debug
    message := "column definition drifted"
    fields := [("table", e.tableName), ("column", c.databaseName), ("attribute", a.label)] }

/-- The row of a declared column that has drifted. -/
def driftRow (flavor : Flavor) (c : Column) (a : Attribute) : String :=
  " " ++ Help.pad 24 c.databaseName ++ " " ++ Help.pad 24 (c.fullType flavor) ++ " " ++ a.label ++
    "\n"

/-- The events of comparing some columns: one for each that has drifted, up to the first column that
cannot be compared. -/
def driftEvents (flavor : Flavor) (e : Entity) (live : List LiveColumn) : List Column → List Event
  | [] => []
  | c :: rest =>
    match Schema.driftAmong flavor .strict e live c with
    | .ok change => (change.map (driftEvent e c)).toList ++ driftEvents flavor e live rest
    | .error _ => []

/-- The comparison of an entity with live columns. -/
def comparison (flavor : Flavor) (e : Entity) (live : List LiveColumn) : Report :=
  match Schema.changes flavor .strict e live with
  | .error problem => ⟨driftEvents flavor e live e.columns, "", some (.unwritable problem)⟩
  | .ok [] => ⟨[⟨.info, "Table '" ++ e.tableName ++ "' is in sync.", []⟩], "", none⟩
  | .ok changes =>
    { events := driftEvents flavor e live e.columns
      output :=
        "\nChanged columns of '" ++ e.tableName ++ "':\n" ++
          String.ofList (List.replicate 60 '-') ++ "\n" ++
          String.join (changes.map fun (c, a) => driftRow flavor c a) ++ "\n"
      error := none }

/-- The event of a notice about a placeholder. -/
def noticeEvent : Notice → Event
  | .unbound p =>
    ⟨.debug, "no parameter bound, keeping literal text",
      [("placeholder", String.ofList p.text)]⟩
  | .spreadOfScalar name =>
    ⟨.warn, "list expansion of a non-list value, binding it once",
      [("parameter", String.ofList name)]⟩

/-- A template with its parameters bound. -/
def binding (template : List Char) (parameters : List (String × Parameter)) : Report :=
  let statement := bind template parameters []
  { events := (bindNotices template parameters).map noticeEvent
    output := String.ofList statement.sql ++ "\n" ++
      (Document.list (statement.values.map Value.toDocument)).compact ++ "\n"
    error := none }

end Report

/-! ### Invocations -/

namespace Invocation

/-- The files that an invocation looks into. -/
def files (i : Invocation) : List String :=
  match i.command with
  | .diff entity live => entity :: live.toList
  | _ => []

/-- Reads a file with a reader of its text. -/
def readFile {α : Type} (files : Files) (path : String)
    (read : List Char → Except ReadError α) : Except RunError α := do
  let text ← (files path).mapError .file
  (read text.toList).mapError (.unreadable path)

/-- What a server would have to be asked for. -/
def fetch {α : Type} (i : Invocation) : Except RunError α :=
  if i.databaseUrl.isSome then .error .unreachable else .error .noServer

/-- The report of an invocation, or why it fails. -/
def report? (files : Files) (i : Invocation) : Except RunError Report :=
  match i.command with
  | .diff entityPath livePath => do
    let entity ← readFile files entityPath Entity.read
    let live ← match livePath with
      | some path => readFile files path LiveColumn.readAll
      | none => i.fetch
    return .comparison i.flavor entity live
  | .introspect _ => i.fetch
  | .bind template parameters => do
    let parameters ← (Parameter.readAll parameters.toList).mapError .parameters
    return .binding template.toList parameters

/-- The report of an invocation. -/
def run (files : Files) (i : Invocation) : Report :=
  match i.report? files with
  | .ok report => report
  | .error e => .failure e

end Invocation

/-! ### Outcomes -/

/-- An exit code, and what is written to the standard output and to the error output. -/
structure Outcome where
  code : Nat
  output : String
  error : String
deriving DecidableEq

/-- The outcome of a report: the events come before the rest of the output. -/
def Outcome.ofReport (verbose : Bool) (r : Report) : Outcome where
  code := match r.error with
    | some e => e.code
    | none => 0
  output := String.join ((r.events.filter (·.isShown verbose)).map Event.line) ++ r.output
  error := match r.error with
    | some e => e.heading ++ e.message ++ "\n"
    | none => ""

/-- The outcome of a request, given the address of the server from the environment. -/
def Request.outcome (environment : Option String) (files : Files) : Request → Outcome
  | .run i => .ofReport i.verbose (i.run files)
  | .help topic => ⟨0, Help.text environment topic, ""⟩
  | .version => ⟨0, Help.versionText, ""⟩

/-- What the program answers to the arguments of its command line. -/
def answer (environment : Option String) (files : Files) (arguments : List String) : Outcome :=
  match Request.read environment arguments with
  | .ok request => request.outcome environment files
  | .error e => ⟨2, "", "error: " ++ e.message ++ "\n"⟩

end TableMapping.CommandLine
