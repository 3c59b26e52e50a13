import TableMapping.Number.Layout

/-!
# Events

What the program tells about its work while it runs: one line for each event, with a level in front
and fields behind the message.

## Main definitions

* `Level`, `Event` : the events.
* `Event.isShown` : whether an event is worth a line.
* `Event.line` : the line of an event.
-/

namespace TableMapping.CommandLine

/-- How much an event matters. -/
inductive Level
  | debug
  | info
  | warn
deriving DecidableEq

/-- The name of a level, as wide as the widest of them. -/
def Level.label : Level → String
  | debug => "DEBUG"
  | info => " INFO"
  | warn => " WARN"

/-- Something that happened. -/
structure Event where
  level : Level
  message : String
  fields : List (String × String)
deriving DecidableEq

namespace Event

/-- Events of the lowest level are shown on demand only. -/
def isShown (verbose : Bool) (e : Event) : Bool := verbose || e.level != .debug

/-- A number in hexadecimal. -/
def hexText (n : Nat) : List Char := Nat.toDigits 16 n

/-- A character of a message.  Those that a terminal would take for a command are spelled out. -/
def spell (c : Char) : List Char :=
  let n := c.toNat
  if n = 0x1b ∨ n = 0x7f then '\\' :: 'x' :: hexText n
  else if n = 0x07 ∨ n = 0x08 ∨ n = 0x0c then '\\' :: 'x' :: '0' :: hexText n
  else if 0x80 ≤ n ∧ n ≤ 0x9f then '\\' :: 'u' :: '\x7b' :: (hexText n ++ ['\x7d'])
  else [c]

/-- The line of an event. -/
def line (e : Event) : String :=
  e.level.label ++ " " ++ String.ofList (e.message.toList.flatMap spell) ++
    String.join (e.fields.map fun (name, value) => " " ++ name ++ "=" ++ value) ++ "\n"

end Event

end TableMapping.CommandLine
