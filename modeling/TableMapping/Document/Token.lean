import TableMapping.Document.Lexeme
import TableMapping.Document.Quoted
import TableMapping.Text.Utf8

/-!
# Tokens of a document's text

The text of a document is cut into tokens in one pass over its characters.  A fault ends the tokens.
What is wrong with a text can depend on whether its value is asked for: a part that nobody asks for
is skipped, and a skipped text may hold halves of surrogate pairs, and a skipped number may be out
of range.

## Main definitions

* `ReadError` : why the text of a document cannot be read as what it should be.
* `Failure` : what is wrong with a place in the text, for who asks for the value and who does not.
* `FaultPlace` : what a fault is in the middle of.
* `Token` : the tokens.
* `Scan` : a scan under way, with one step for each character.
* `tokens` : the tokens of a text.
-/

namespace TableMapping

/-- Why the text of a document cannot be read as what it should be. -/
inductive ReadError
  /-- The text is not that of a document. -/
  | malformed
  /-- The text ends inside a document. -/
  | truncated
  /-- The document does not have the shape that was asked for. -/
  | unfit
  /-- An object stands for a default, but without the text of an expression. -/
  | unfitDefault
deriving DecidableEq

/-- The wording of the one error that this library words itself. -/
def ReadError.message? : ReadError → Option String
  | .unfitDefault => some "object defaults must be of the form \x7b\"sql\": \"...\"\x7d"
  | _ => none

/-- What is wrong at a place of the text, if the value there is read and if it is skipped. -/
structure Failure where
  whenRead : ReadError
  whenSkipped : ReadError

/-- Not the text of a document, whoever asks. -/
def Failure.malformed : Failure := ⟨.malformed, .malformed⟩

/-- An end inside a document, whoever asks. -/
def Failure.truncated : Failure := ⟨.truncated, .truncated⟩

/-- What a fault is in the middle of. -/
inductive FaultPlace
  /-- Nothing: no token begins here. -/
  | between
  /-- The word for the null. -/
  | null
  /-- Another word, or a numeral. -/
  | scalar
  | text
deriving DecidableEq

/-- A token of a document's text.  The content of a text is absent if it holds half a surrogate
pair, and the value of a number if it is out of range. -/
inductive Token
  | openList
  | closeList
  | openObject
  | closeObject
  | comma
  | colon
  | null
  | bool (b : Bool)
  | number (value : Option Number)
  | text (content : Option String)
  /-- A fault; the last token of all. -/
  | fault (place : FaultPlace) (failure : Failure)

/-! ### Numerals -/

/-- What a numeral under way has got to. -/
inductive NumeralPhase
  | sign
  | leadingZero
  | whole
  | point
  | part
  | mark
  | markSign
  | power
deriving DecidableEq

/-- A numeral under way; digits are held latest first. -/
structure NumeralScan where
  phase : NumeralPhase
  negative : Bool
  whole : List Char
  part : List Char
  down : Bool
  power : List Char

namespace NumeralScan

/-- A numeral that begins with a minus sign. -/
def minus : NumeralScan := ⟨.sign, true, [], [], false, []⟩

/-- A numeral that begins with a digit. -/
def digit (negative : Bool) (c : Char) : NumeralScan :=
  ⟨if c = '0' then .leadingZero else .whole, negative, [c], [], false, []⟩

/-- Whether a numeral may end here. -/
def complete (n : NumeralScan) : Bool :=
  match n.phase with
  | .leadingZero | .whole | .part | .power => true
  | .sign | .point | .mark | .markSign => false

/-- The numeral as it stands. -/
def lexeme (n : NumeralScan) : Lexeme :=
  { negative := n.negative
    whole := n.whole.reverse
    part := if n.part.isEmpty then none else some n.part.reverse
    exponent := if n.power.isEmpty then none else some (n.down, n.power.reverse) }

/-- The numeral with one more character, unless the character does not belong to it. -/
def next? (n : NumeralScan) (c : Char) : Option NumeralScan :=
  let marks := c = 'e' ∨ c = 'E'
  match n.phase with
  | .sign => if c.isDigit then some (digit n.negative c) else none
  | .leadingZero =>
    if c = '.' then some { n with phase := .point }
    else if marks then some { n with phase := .mark } else none
  | .whole =>
    if c.isDigit then some { n with whole := c :: n.whole }
    else if c = '.' then some { n with phase := .point }
    else if marks then some { n with phase := .mark } else none
  | .point => if c.isDigit then some { n with phase := .part, part := [c] } else none
  | .part =>
    if c.isDigit then some { n with part := c :: n.part }
    else if marks then some { n with phase := .mark } else none
  | .mark =>
    if c = '+' then some { n with phase := .markSign }
    else if c = '-' then some { n with phase := .markSign, down := true }
    else if c.isDigit then some { n with phase := .power, power := [c] } else none
  | .markSign => if c.isDigit then some { n with phase := .power, power := [c] } else none
  | .power => if c.isDigit then some { n with power := c :: n.power } else none

end NumeralScan

/-! ### Texts -/

/-- Where a text under way stands with respect to an escape. -/
inductive EscapePhase
  | plain
  | backslash
  /-- Between the `u` of an escape and the last of its digits, which are held latest first. -/
  | digits (taken : List Char)

/-- A text under way.  The content is held latest first, `lead` is a first half of a surrogate pair
that waits for the second, and `broken` tells that a half stands alone. -/
structure TextScan where
  content : List Char
  lead : Option Nat
  broken : Bool
  phase : EscapePhase

namespace TextScan

/-- A text after its opening quote. -/
def start : TextScan := ⟨[], none, false, .plain⟩

/-- A character that is no half of a pair; a half that waits is left alone. -/
def push (t : TextScan) (c : Char) : TextScan :=
  { content := c :: t.content, lead := none, broken := t.broken || t.lead.isSome, phase := .plain }

/-- One unit from four hexadecimal digits: a character, or half a surrogate pair. -/
def pushUnit (t : TextScan) (n : Nat) : TextScan :=
  let trails := 0xdc00 ≤ n ∧ n ≤ 0xdfff
  let leads := 0xd800 ≤ n ∧ n ≤ 0xdbff
  match t.lead with
  | some high =>
    if trails then
      { t with
        content := Char.ofNat (0x10000 + (high - 0xd800) * 0x400 + (n - 0xdc00)) :: t.content
        lead := none
        phase := .plain }
    else { t with lead := none, broken := true, phase := .plain }
  | none =>
    if trails then { t with broken := true, phase := .plain }
    else if leads then { t with lead := some n, phase := .plain }
    else t.push (Char.ofNat n)

/-- The token of a text at its closing quote. -/
def token (t : TextScan) : Token :=
  .text (if t.broken || t.lead.isSome then none else some (String.ofList t.content.reverse))

end TextScan

/-! ### The scan -/

/-- What the scan is in the middle of. -/
inductive ScanMode
  | between
  /-- Inside a word, with the letters still to come. -/
  | word (next : Char) (rest : List Char) (token : Token)
  | numeral (n : NumeralScan)
  | text (t : TextScan)
  | stopped

/-- A scan under way, with the tokens so far, latest first. -/
structure Scan where
  mode : ScanMode
  found : List Token

namespace Scan

/-- The scan before the first character. -/
def start : Scan := ⟨.between, []⟩

/-- Adds a token and goes on between tokens. -/
def emit (s : Scan) (t : Token) : Scan := ⟨.between, t :: s.found⟩

/-- Ends the tokens with a fault. -/
def stop (s : Scan) (place : FaultPlace) (f : Failure) : Scan :=
  ⟨.stopped, .fault place f :: s.found⟩

/-- The four blank characters of a document's text. -/
def isSpace (c : Char) : Bool := c == ' ' || c == '\n' || c == '\t' || c == '\r'

/-- A character between tokens. -/
def begin (s : Scan) (c : Char) : Scan :=
  if isSpace c then ⟨.between, s.found⟩
  else if c = '\x22' then ⟨.text .start, s.found⟩
  else if c = ',' then s.emit .comma
  else if c = ':' then s.emit .colon
  else if c = '[' then s.emit .openList
  else if c = ']' then s.emit .closeList
  else if c = '\x7b' then s.emit .openObject
  else if c = '\x7d' then s.emit .closeObject
  else if c = '-' then ⟨.numeral .minus, s.found⟩
  else if c.isDigit then ⟨.numeral (.digit false c), s.found⟩
  else if c = 'n' then ⟨.word 'u' ['l', 'l'] .null, s.found⟩
  else if c = 't' then ⟨.word 'r' ['u', 'e'] (.bool true), s.found⟩
  else if c = 'f' then ⟨.word 'a' ['l', 's', 'e'] (.bool false), s.found⟩
  else s.stop .between .malformed

/-- A character inside a text. -/
def inText (s : Scan) (t : TextScan) (c : Char) : Scan :=
  match t.phase with
  | .digits taken =>
    let taken := c :: taken
    if Text.utf8Size taken < 4 then ⟨.text { t with phase := .digits taken }, s.found⟩
    else match Quoted.hexValue? taken.reverse with
      | some n => ⟨.text (t.pushUnit n), s.found⟩
      | none => s.stop .text .malformed
  | .backslash =>
    if c = 'u' then ⟨.text { t with phase := .digits [] }, s.found⟩
    else match Quoted.unescape? c with
      | some e => ⟨.text (t.push e), s.found⟩
      | none => s.stop .text .malformed
  | .plain =>
    if c = '\x22' then s.emit t.token
    else if c = '\\' then ⟨.text { t with phase := .backslash }, s.found⟩
    else if c.toNat < 32 then s.stop .text .malformed
    else ⟨.text (t.push c), s.found⟩

/-- A character inside a numeral.  A zero is not followed by another digit. -/
def inNumeral (s : Scan) (n : NumeralScan) (c : Char) : Scan :=
  match n.next? c with
  | some n => ⟨.numeral n, s.found⟩
  | none =>
    if n.complete && !(n.phase = .leadingZero && c.isDigit) then
      begin (s.emit (.number n.lexeme.value?)) c
    else s.stop .scalar .malformed

/-- The letters of a word still to come after one of them. -/
def spell (s : Scan) (rest : List Char) (token : Token) : Scan :=
  match rest with
  | [] => s.emit token
  | next :: rest => ⟨.word next rest token, s.found⟩

/-- What a fault in the spelling of a word is in the middle of. -/
def placeOf : Token → FaultPlace
  | .null => .null
  | _ => .scalar

/-- One character of the text. -/
def step (s : Scan) (c : Char) : Scan :=
  match s.mode with
  | .between => s.begin c
  | .word next rest token =>
    if c = next then s.spell rest token else s.stop (placeOf token) .malformed
  | .numeral n => s.inNumeral n c
  | .text t => s.inText t c
  | .stopped => s

/-- The tokens at the end of the text, latest first. -/
def finish (s : Scan) : List Token :=
  match s.mode with
  | .between | .stopped => s.found
  | .word _ _ token => .fault (placeOf token) .truncated :: s.found
  | .numeral n =>
    if n.complete then .number n.lexeme.value? :: s.found
    else .fault .scalar ⟨.truncated, .malformed⟩ :: s.found
  | .text t => .fault .text ⟨if t.broken then .malformed else .truncated, .truncated⟩ :: s.found

end Scan

/-- The tokens of a text. -/
def tokens (s : List Char) : List Token := (s.foldl Scan.step Scan.start).finish.reverse

end TableMapping
