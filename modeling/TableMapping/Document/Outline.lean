import TableMapping.Document.Token

/-!
# Outlines of documents

Before the text of a document is read as anything, its tokens are arranged into an outline: the tree
of lists and objects as far as the text goes, with the place where it goes wrong.  Everything that
reads an outline walks it from left to right, so that of several things that are wrong the first
one is reported.

## Main definitions

* `FieldName`, `Outline` : the tree.
* `Outline.ofTokens` : the outline of a sequence of tokens, and what is wrong after it.
* `Outline.ofDocument` : the outline of a document.
* `Outline.skip` : a walk over a part that nobody asks for.
* `Outline.document` : the document of an outline, if it nests no deeper than a limit.
* `Outline.mismatch` : what is wrong when something of another shape was expected.
-/

namespace TableMapping

/-- The name of a field as far as the text goes.  Its content is absent if it holds half a surrogate
pair. -/
inductive FieldName
  | text (content : Option String)
  /-- A place where a name should stand. -/
  | broken (failure : Failure)

/-- A document's text as a tree.  A list or an object carries what is wrong after its last part, and
the content of a text is absent if it holds half a surrogate pair. -/
inductive Outline
  | null
  | bool (b : Bool)
  | number (value : Option Number)
  | text (content : Option String)
  | list (items : List Outline) (tail : Option Failure)
  | object (fields : List (FieldName × Outline)) (tail : Option Failure)
  /-- A place where a value should stand. -/
  | broken (place : FaultPlace) (failure : Failure)

namespace Outline

instance : Inhabited Outline := ⟨.null⟩

/-! ### From tokens -/

/-- A list or an object that is not closed yet, with its parts so far, latest first. -/
inductive Frame
  | list (done : List Outline)
  | field (done : List (FieldName × Outline)) (name : FieldName)

/-- What comes next. -/
inductive Expected
  /-- A value; or the end of a list that has just been opened. -/
  | value (opened : Bool)
  /-- A name; or the end of an object that has just been opened. -/
  | name (done : List (FieldName × Outline)) (opened : Bool)
  | colon (done : List (FieldName × Outline)) (name : FieldName)
  /-- What follows a value. -/
  | separator (value : Outline)
  /-- Nothing: the outline is settled, and so is what is wrong after it. -/
  | settled (outline : Outline) (after : Option ReadError)

/-- An arrangement under way. -/
structure Arrangement where
  expected : Expected
  frames : List Frame

namespace Arrangement

/-- The arrangement before the first token. -/
def start : Arrangement := ⟨.value false, []⟩

/-- Closes all that is open around an outline, with nothing wrong after it. -/
def enclose (o : Outline) : List Frame → Outline
  | [] => o
  | .list done :: frames => enclose (.list (o :: done).reverse none) frames
  | .field done name :: frames => enclose (.object ((name, o) :: done).reverse none) frames

/-- Settles on an outline that goes wrong. -/
def settle (a : Arrangement) (o : Outline) : Arrangement := ⟨.settled (enclose o a.frames) none, []⟩

/-- Settles on a value that goes wrong. -/
def settleValue (a : Arrangement) (place : FaultPlace) (f : Failure) : Arrangement :=
  a.settle (.broken place f)

/-- Settles on an object whose next name goes wrong; nothing stands behind that name. -/
def settleName (a : Arrangement) (done : List (FieldName × Outline)) (f : Failure) : Arrangement :=
  a.settle (.object ((.broken f, .broken .between f) :: done).reverse none)

/-- A complete value. -/
def complete (a : Arrangement) (o : Outline) : Arrangement := ⟨.separator o, a.frames⟩

/-- A token where a value is expected. -/
def takeValue (a : Arrangement) (opened : Bool) : Token → Arrangement
  | .null => a.complete .null
  | .bool b => a.complete (.bool b)
  | .number value => a.complete (.number value)
  | .text content => a.complete (.text content)
  | .openList => ⟨.value true, .list [] :: a.frames⟩
  | .openObject => ⟨.name [] true, a.frames⟩
  | .closeList =>
    match opened, a.frames with
    | true, _ :: frames => ⟨.separator (.list [] none), frames⟩
    | _, _ => a.settleValue .between .malformed
  | .fault place failure => a.settleValue place failure
  | _ => a.settleValue .between .malformed

/-- A token where a name is expected. -/
def takeName (a : Arrangement) (done : List (FieldName × Outline)) (opened : Bool) :
    Token → Arrangement
  | .text content => ⟨.colon done (.text content), a.frames⟩
  | .closeObject =>
    if opened then a.complete (.object [] none) else a.settleName done .malformed
  | .fault .text failure => a.settleName done failure
  | _ => a.settleName done .malformed

/-- A token after a value. -/
def takeSeparator (a : Arrangement) (o : Outline) (t : Token) : Arrangement :=
  match a.frames, t with
  | [], _ => ⟨.settled o (some .malformed), []⟩
  | .list done :: frames, .comma => ⟨.value false, .list (o :: done) :: frames⟩
  | .list done :: frames, .closeList => ⟨.separator (.list (o :: done).reverse none), frames⟩
  | .list done :: frames, _ =>
    settle ⟨.value false, frames⟩ (.list (o :: done).reverse (some .malformed))
  | .field done name :: frames, .comma => ⟨.name ((name, o) :: done) false, frames⟩
  | .field done name :: frames, .closeObject =>
    ⟨.separator (.object ((name, o) :: done).reverse none), frames⟩
  | .field done name :: frames, _ =>
    settle ⟨.value false, frames⟩ (.object ((name, o) :: done).reverse (some .malformed))

/-- One token. -/
def step (a : Arrangement) (t : Token) : Arrangement :=
  match a.expected with
  | .value opened => a.takeValue opened t
  | .name done opened => a.takeName done opened t
  | .colon done name =>
    let a : Arrangement := ⟨.value false, .field done name :: a.frames⟩
    match t with
    | .colon => a
    | _ => a.settleValue .between .malformed
  | .separator o => a.takeSeparator o t
  | .settled _ _ => a

/-- The outline at the end of the tokens, and what is wrong after it. -/
def finish (a : Arrangement) : Outline × Option ReadError :=
  match a.expected with
  | .value _ => (enclose (.broken .between .truncated) a.frames, none)
  | .name done _ =>
    let name := (.broken .truncated, .broken .between .truncated)
    (enclose (.object (name :: done).reverse none) a.frames, none)
  | .colon done name =>
    (enclose (.broken .between .truncated) (.field done name :: a.frames), none)
  | .separator o =>
    match a.frames with
    | [] => (o, none)
    | .list done :: frames =>
      (enclose (.list (o :: done).reverse (some .truncated)) frames, none)
    | .field done name :: frames =>
      (enclose (.object ((name, o) :: done).reverse (some .truncated)) frames, none)
  | .settled o after => (o, after)

end Arrangement

/-- The outline of a sequence of tokens, and what is wrong after it. -/
def ofTokens (ts : List Token) : Outline × Option ReadError :=
  (ts.foldl Arrangement.step Arrangement.start).finish

/-! ### From documents -/

mutual

/-- The outline of a document, in which nothing is wrong. -/
def ofDocument : Document → Outline
  | .null => .null
  | .bool b => .bool b
  | .number n => .number (some n)
  | .text s => .text (some s)
  | .list items => .list (ofItems items) none
  | .object fields => .object (ofFields fields) none

/-- The outlines of the items of a list. -/
def ofItems : List Document → List Outline
  | [] => []
  | d :: rest => ofDocument d :: ofItems rest

/-- The outlines of the fields of an object. -/
def ofFields : List (String × Document) → List (FieldName × Outline)
  | [] => []
  | (name, d) :: rest => (.text (some name), ofDocument d) :: ofFields rest

end

/-! ### Walks -/

/-- What is wrong after the last part of a list or an object. -/
def checkTail : Option Failure → Except ReadError Unit
  | none => .ok ()
  | some failure => .error failure.whenRead

/-- Walks over a name that nobody asks for. -/
def skipName : FieldName → Except ReadError Unit
  | .text _ => .ok ()
  | .broken failure => .error failure.whenSkipped

mutual

/-- Walks over a part that nobody asks for; only the arrangement of its text matters. -/
def skip : Outline → Except ReadError Unit
  | .list items tail => do skipItems items; skipTail tail
  | .object fields tail => do skipFields fields; skipTail tail
  | .broken _ failure => .error failure.whenSkipped
  | _ => .ok ()

/-- Walks over the items of a list. -/
def skipItems : List Outline → Except ReadError Unit
  | [] => .ok ()
  | o :: rest => do o.skip; skipItems rest

/-- Walks over the fields of an object. -/
def skipFields : List (FieldName × Outline) → Except ReadError Unit
  | [] => .ok ()
  | (name, o) :: rest => do skipName name; o.skip; skipFields rest

/-- What is wrong after the last part of a list or an object that is skipped. -/
def skipTail : Option Failure → Except ReadError Unit
  | none => .ok ()
  | some failure => .error failure.whenSkipped

end

/-- A part that must be there for its text to be well-formed. -/
def required {α : Type} : Option α → Except ReadError α
  | some a => .ok a
  | none => .error .malformed

/-- The text of a name. -/
def nameText : FieldName → Except ReadError String
  | .text content => required content
  | .broken failure => .error failure.whenRead

mutual

/-- The document of an outline.  Each list and object takes one from the limit, and what nests
deeper is refused; of two fields with one name the later one counts. -/
def document (limit : Nat) : Outline → Except ReadError Document
  | .null => .ok .null
  | .bool b => .ok (.bool b)
  | .number value => do return .number (← required value)
  | .text content => do return .text (← required content)
  | .list items tail =>
    match limit with
    | 0 => .error .malformed
    | limit + 1 => do
      let items ← documentItems limit items
      checkTail tail
      return .list items
  | .object fields tail =>
    match limit with
    | 0 => .error .malformed
    | limit + 1 => do
      let fields ← documentFields limit fields
      checkTail tail
      return .object (Keyed.ofList fields)
  | .broken _ failure => .error failure.whenRead

/-- The documents of the items of a list. -/
def documentItems (limit : Nat) : List Outline → Except ReadError (List Document)
  | [] => .ok []
  | o :: rest => do
    let d ← o.document limit
    let ds ← documentItems limit rest
    return d :: ds

/-- The documents of the fields of an object. -/
def documentFields (limit : Nat) :
    List (FieldName × Outline) → Except ReadError (List (String × Document))
  | [] => .ok []
  | (name, o) :: rest => do
    let name ← nameText name
    let d ← o.document limit
    let ds ← documentFields limit rest
    return (name, d) :: ds

end

/-- What is wrong when something of another shape was expected: a number or a text must still be
well-formed by itself. -/
def mismatch : Outline → ReadError
  | .number none => .malformed
  | .text none => .malformed
  | .broken _ failure => failure.whenRead
  | _ => .unfit

end Outline

end TableMapping
