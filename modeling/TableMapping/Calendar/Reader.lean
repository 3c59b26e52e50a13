import TableMapping.Calendar.Instant
import TableMapping.Number.Power
import TableMapping.Text.Blank
import TableMapping.Text.Search

/-!
# Reading dates and times

Two notations are read.  The strict one has fields of fixed width, a `T` or a blank before the
time, and an offset from UTC or a `Z` after it.  The loose one has no offset; its fields may be
shorter and follow blanks, its seconds may be missing, and a date alone stands for its midnight.
A second 60 is a leap second, and of a fraction nine digits count.

## Main definitions

* `readDate?` : a date in the loose notation.
* `readStrict?`, `readLoose?` : an instant in either notation.
* `hasUtcMarker` : whether a text says that it is UTC, or by how much it differs.
* `readUtc?` : an instant in the first notation that fits, UTC unless it has an offset.
-/

namespace TableMapping

open Text (trim trimStart trimEnd)

/-! ### Parts -/

/-- A number of at least one digit and at most `most`. -/
def readUpTo (most : Nat) (s : List Char) : Option (Nat × List Char) :=
  let digits := (s.take most).takeWhile Char.isDigit
  if digits.isEmpty then none else some (Nat.ofDigitChars 10 digits 0, s.drop digits.length)

/-- A number of exactly `width` digits. -/
def readExactly (width : Nat) (s : List Char) : Option (Nat × List Char) :=
  let digits := (s.take width).takeWhile Char.isDigit
  if digits.length < width then none else some (Nat.ofDigitChars 10 digits 0, s.drop width)

/-- The character `c`. -/
def readChar (c : Char) : List Char → Option (List Char)
  | [] => none
  | d :: s => if d = c then some s else none

/-- One or two digits after blanks. -/
def readField (s : List Char) : Option (Nat × List Char) := readUpTo 2 (trimStart s)

/-- A year: any number of digits after a sign, and up to four without one. -/
def readYear (s : List Char) : Option (Int × List Char) :=
  match trimStart s with
  | '-' :: s => (readUpTo s.length s).map fun (n, rest) => (-(n : Int), rest)
  | '+' :: s => (readUpTo s.length s).map fun (n, rest) => ((n : Int), rest)
  | s => (readUpTo 4 s).map fun (n, rest) => ((n : Int), rest)

/-- The nanoseconds of a fraction after its point; all digits are taken and nine of them count. -/
def readFraction (s : List Char) : Option (Nat × List Char) :=
  let digits := s.takeWhile Char.isDigit
  let counted := digits.take 9
  if digits.isEmpty then none
  else some (Nat.ofDigitChars 10 counted 0 * tenPow (9 - counted.length), s.dropWhile Char.isDigit)

/-- A fraction with its point, or nothing. -/
def readOptionalFraction : List Char → Option (Nat × List Char)
  | '.' :: s => readFraction s
  | s => some (0, s)

/-- The time of day of its fields, where the second 60 stands for a leap second. -/
def clockOf? (hour minute second nano : Nat) : Option Clock :=
  if second = 60 then Clock.of? hour minute 59 (nano + nanosPerSecond)
  else if nano < nanosPerSecond then Clock.of? hour minute second nano
  else none

/-! ### Loose notation -/

/-- A date at the start of a text. -/
def readDatePart (s : List Char) : Option (Date × List Char) := do
  let (year, s) ← readYear s
  let (month, s) ← readField (← readChar '-' s)
  let (day, s) ← readField (← readChar '-' s)
  return (← Date.of? year month day, s)

/-- A date and nothing else. -/
def readDate? (s : List Char) : Option Date := do
  let (date, s) ← readDatePart s
  if s.isEmpty then some date else none

/-- Hours, minutes, seconds and their fraction, and nothing else. -/
def readFullClock? (s : List Char) : Option Clock := do
  let (hour, s) ← readField s
  let (minute, s) ← readField (← readChar ':' s)
  let (second, s) ← readField (← readChar ':' s)
  let (nano, s) ← readOptionalFraction s
  if s.isEmpty then clockOf? hour minute second nano else none

/-- Hours and minutes, and nothing else. -/
def readShortClock? (s : List Char) : Option Clock := do
  let (hour, s) ← readField s
  let (minute, s) ← readField (← readChar ':' s)
  if s.isEmpty then clockOf? hour minute 0 0 else none

/-- A date, then what `separate` takes, then a time that `clock?` reads. -/
def readParts? (separate : List Char → Option (List Char)) (clock? : List Char → Option Clock)
    (s : List Char) : Option Instant := do
  let (date, s) ← readDatePart s
  let clock ← clock? (← separate s)
  return ⟨date, clock⟩

/-- Blanks between a date and a time; there may be none. -/
def separateByBlanks (s : List Char) : Option (List Char) := some (trimStart s)

/-- A date and a time without offset, or a date alone. -/
def readLoose? (s : List Char) : Option Instant :=
  readParts? separateByBlanks readFullClock? s <|>
  readParts? (readChar 'T') readFullClock? s <|>
  readParts? separateByBlanks readShortClock? s <|>
  readParts? (readChar 'T') readShortClock? s <|>
  (readDate? s).map Instant.ofDate

/-! ### Strict notation -/

/-- The sign of an offset, also the typographic minus. -/
def readOffsetSign : List Char → Option (Bool × List Char)
  | [] => none
  | c :: s =>
    if c = '+' then some (false, s)
    else if c = '-' ∨ c.toNat = 0x2212 then some (true, s)
    else none

/-- The minutes by which a local time is ahead of UTC. -/
def readOffset (s : List Char) : Option (Int × List Char) :=
  match s with
  | 'Z' :: s => some (0, s)
  | 'z' :: s => some (0, s)
  | s => do
    let (behind, s) ← readOffsetSign s
    let (hours, s) ← readExactly 2 s
    let (minutes, s) ← readExactly 2 (← readChar ':' s)
    let ahead : Int := hours * 60 + minutes
    if hours < 24 ∧ minutes < 60 then some (if behind then -ahead else ahead, s) else none

/-- The mark between date and time. -/
def readTimeMark : List Char → Option (List Char)
  | [] => none
  | c :: s => if c = 'T' ∨ c = 't' ∨ c = ' ' then some s else none

/-- A date and a time with an offset, in fields of fixed width. -/
def readStrict? (s : List Char) : Option Instant := do
  let (year, s) ← readExactly 4 s
  let (month, s) ← readExactly 2 (← readChar '-' s)
  let (day, s) ← readExactly 2 (← readChar '-' s)
  let (hour, s) ← readExactly 2 (← readTimeMark s)
  let (minute, s) ← readExactly 2 (← readChar ':' s)
  let (second, s) ← readExactly 2 (← readChar ':' s)
  let (nano, s) ← readOptionalFraction s
  let (ahead, s) ← readOffset s
  let date ← Date.of? year month day
  let clock ← clockOf? hour minute second nano
  if s.isEmpty then Instant.minusMinutes? ahead ⟨date, clock⟩ else none

/-! ### UTC -/

/-- Whether the last word of a text that is a time ends in a `Z` or has a sign in it. -/
def hasUtcMarker (s : List Char) : Bool :=
  let s := trimEnd s
  match s.getLast? with
  | none => false
  | some last =>
    if last = 'Z' ∨ last = 'z' then true
    else match Text.afterLast (fun c => c = ' ' || c = 'T') s with
      | none => false
      | some time => time.contains '+' || time.contains '-'

/-- A text without one `Z` at its end. -/
def withoutMarker (s : List Char) : List Char :=
  match s.getLast? with
  | none => s
  | some last => if last = 'Z' ∨ last = 'z' then s.dropLast else s

/-- The instant of a text in strict notation, or else in loose notation and UTC. -/
def readUtc? (s : List Char) : Option Instant :=
  let s := trim s
  readStrict? s <|> readLoose? (withoutMarker s)

end TableMapping
