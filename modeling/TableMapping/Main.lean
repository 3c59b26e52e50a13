import TableMapping.CommandLine.Run

/-!
# The program

Reads the files that the arguments name, and writes what the command line answers.
-/

namespace TableMapping.CommandLine

/-- The failure of a file that a system error stands for. -/
def FileFailure.ofError : IO.Error → FileFailure
  | .noFileOrDirectory _ _ _ => .missing
  | .permissionDenied _ code reason => .system reason code.toNat
  | .inappropriateType _ code reason => .system reason code.toNat
  | .resourceExhausted _ code reason => .system reason code.toNat
  | e => .system e.toString 0

/-- Reads a file as text. -/
def readTextFile (path : String) : IO (Except FileFailure String) := do
  try
    let bytes ← IO.FS.readBinFile path
    match String.fromUTF8? bytes with
    | some text => return .ok text
    | none => return .error .notText
  catch e => return .error (.ofError e)

/-- The contents of the files that a request looks into. -/
def Request.readFiles : Request → IO (List (String × Except FileFailure String))
  | .run i => i.files.mapM fun path => return (path, ← readTextFile path)
  | _ => return []

/-- Answers the arguments, and returns the exit code. -/
def respond (arguments : List String) : IO UInt32 := do
  let environment ← IO.getEnv "DATABASE_URL"
  let contents ← match Request.read environment arguments with
    | .ok request => request.readFiles
    | .error _ => pure []
  let outcome := answer environment (fun path => (contents.lookup path).getD (.error .missing))
    arguments
  (← IO.getStdout).putStr outcome.output
  (← IO.getStderr).putStr outcome.error
  return UInt32.ofNat outcome.code

end TableMapping.CommandLine

/-- Answers the arguments of the command line. -/
def main (arguments : List String) : IO UInt32 := TableMapping.CommandLine.respond arguments
