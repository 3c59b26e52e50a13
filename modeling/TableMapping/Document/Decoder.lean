import TableMapping.Document.Outline

/-!
# Decoders

A decoder reads an outline as a value of some type.  Records are objects whose fields come in any
order, at most once each, among fields with other names, which are skipped; or lists of the values
of the fields in the order of their declaration.

## Main definitions

* `Decoder` : the type; a decoder knows how deep it may still go.
* `Decoder.text`, `Decoder.bool`, `Decoder.uint32`, `Decoder.option`, `Decoder.list`,
  `Decoder.variant` : the usual shapes.
* `RecordField`, `Decoder.record` : the fields of a record, and the record.
* `Decoder.readText` : reads a text, which may hold nothing else.
* `Decoder.readDocument` : reads a document.
-/

namespace TableMapping

/-- A decoder of `α`, given how many lists and objects it may enter. -/
abbrev Decoder (α : Type) := (limit : Nat) → Outline → Except ReadError α

namespace Decoder

variable {α σ : Type}

/-! ### Simple values -/

/-- Any document. -/
def document : Decoder Document := fun limit o => o.document limit

/-- A text. -/
def text : Decoder String
  | _, .text (some s) => .ok s
  | _, o => .error o.mismatch

/-- A truth value. -/
def bool : Decoder Bool
  | _, .bool b => .ok b
  | _, o => .error o.mismatch

/-- An integer of 32 bits without a sign. -/
def uint32 : Decoder UInt32
  | _, .number (some (.integer n)) =>
    match uint32? n.val with
    | some n => .ok n
    | none => .error .unfit
  | _, o => .error o.mismatch

/-- A null, or what `d` reads.  A word that begins like the null is taken for one. -/
def option (d : Decoder α) : Decoder (Option α)
  | _, .null => .ok none
  | _, .broken .null failure => .error failure.whenRead
  | limit, o => (d limit o).map some

/-- Reads each item of a list. -/
def items (d : Decoder α) (limit : Nat) : List Outline → Except ReadError (List α)
  | [] => .ok []
  | o :: rest => do
    let a ← d limit o
    let as ← items d limit rest
    return a :: as

/-- A list of what `d` reads. -/
def list (d : Decoder α) : Decoder (List α)
  | limit, .list os tail =>
    match limit with
    | 0 => .error .malformed
    | limit + 1 => do
      let as ← items d limit os
      Outline.checkTail tail
      return as
  | _, o => .error o.mismatch

/-- One of a set of names: as a text, or as the only name of an object that binds it to a null.
Whatever begins like something else is malformed, however it goes on. -/
def variant (names : List (String × α)) : Decoder α
  | _, .text content => do
    match names.lookup (← Outline.required content) with
    | some a => return a
    | none => throw .unfit
  | limit, .object fields tail =>
    match limit, fields with
    | 0, _ => .error .malformed
    | _ + 1, [] => do Outline.checkTail tail; throw .malformed
    | _ + 1, (name, value) :: rest => do
      match names.lookup (← Outline.nameText name), value with
      | none, _ => throw .unfit
      | some a, .null =>
        if rest.isEmpty then Outline.checkTail tail; return a
        else throw .malformed
      | some _, value => throw value.mismatch
  | _, .broken .between failure | _, .broken .text failure => .error failure.whenRead
  | _, _ => .error .malformed

/-! ### Records -/

end Decoder

/-- When a field of a record may be left out. -/
inductive Presence
  | optional
  /-- Only from an object, and not from a list. -/
  | named
  | always
deriving DecidableEq

/-- A field of a record `σ`: its name, when it may be left out, and how it is read into the
record. -/
structure RecordField (σ : Type) where
  name : String
  presence : Presence
  read : (limit : Nat) → Outline → Except ReadError (σ → σ)

namespace RecordField

variable {α σ : Type}

/-- A field that `d` reads and `set` puts into the record. -/
def of (presence : Presence) (name : String) (d : Decoder α) (set : α → σ → σ) : RecordField σ :=
  ⟨name, presence, fun limit o => (d limit o).map set⟩

end RecordField

namespace Decoder

variable {α σ : Type}

/-- Reads the fields of an object into a record, and tells which names occurred. -/
def namedFields (fields : List (RecordField σ)) (limit : Nat) (seen : List String) (record : σ) :
    List (FieldName × Outline) → Except ReadError (List String × σ)
  | [] => .ok (seen, record)
  | (name, o) :: rest => do
    let name ← Outline.nameText name
    match fields.find? (·.name == name) with
    | none => do
      o.skip
      namedFields fields limit seen record rest
    | some field =>
      if seen.contains name then throw .unfit
      else
        let update ← field.read limit o
        namedFields fields limit (name :: seen) (update record) rest

/-- Reads the items of a list into the fields of a record, in order. -/
def listedFields (limit : Nat) (tail : Option Failure) :
    List (RecordField σ) → List Outline → σ → Except ReadError σ
  | fields, [], record => do
    Outline.checkTail tail
    if fields.all (·.presence == .optional) then return record else throw .unfit
  | [], _ :: _, _ => .error .malformed
  | field :: fields, o :: os, record => do
    let update ← field.read limit o
    listedFields limit tail fields os (update record)

/-- A record, whose absent fields are those of `blank`. -/
def record (fields : List (RecordField σ)) (blank : σ) : Decoder σ
  | limit, .object entries tail =>
    match limit with
    | 0 => .error .malformed
    | limit + 1 => do
      let (seen, record) ← namedFields fields limit [] blank entries
      Outline.checkTail tail
      if fields.all fun f => f.presence != .always || seen.contains f.name then return record
      else throw .unfit
  | limit, .list items tail =>
    match limit with
    | 0 => .error .malformed
    | limit + 1 => listedFields limit tail fields items blank
  | _, o => .error o.mismatch

/-- Reads the entries of an object as pairs. -/
def entries (d : Decoder α) (limit : Nat) :
    List (FieldName × Outline) → Except ReadError (List (String × α))
  | [] => .ok []
  | (name, o) :: rest => do
    let name ← Outline.nameText name
    let a ← d limit o
    let pairs ← entries d limit rest
    return (name, a) :: pairs

/-- A map from names to what `d` reads; of equal names the last one counts. -/
def map (d : Decoder α) : Decoder (List (String × α))
  | limit, .object fields tail =>
    match limit with
    | 0 => .error .malformed
    | limit + 1 => do
      let pairs ← entries d limit fields
      Outline.checkTail tail
      return Keyed.ofList pairs
  | _, o => .error o.mismatch

/-! ### Reading -/

/-- How deep the documents in a text may nest. -/
def textLimit : Nat := 127

/-- Reads a text that holds one document and nothing else. -/
def readText (d : Decoder α) (s : List Char) : Except ReadError α := do
  let (o, after) := Outline.ofTokens (tokens s)
  let a ← d textLimit o
  match after with
  | none => return a
  | some e => throw e

/-- Reads a document, at whatever depth. -/
def readDocument (d : Decoder α) (doc : Document) : Except ReadError α :=
  match d doc.depth (.ofDocument doc) with
  | .ok a => .ok a
  | .error .unfitDefault => .error .unfitDefault
  | .error _ => .error .unfit

end Decoder

/-- Reads the text of a document. -/
def Document.read (s : List Char) : Except ReadError Document := Decoder.document.readText s

end TableMapping
