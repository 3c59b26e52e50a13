import TableMapping.Calendar.Reader
import TableMapping.Value

/-!
# Dates and times on the wire

Temporal values are exchanged in UTC.  A text without an offset is UTC as well, and a text that is
no date or time passes unchanged.

## Main definitions

* `Value.toInstant` : a value as the instant that is stored.
* `Value.fromWireInstant` : a stored value as an instant.
* `Value.toDateText`, `Value.toTimeText` : a value as the text of a date or of a time.
-/

namespace TableMapping.Value

/-- A value as an instant.  A date is its midnight, and a signed integer counts milliseconds. -/
def toInstant : Value → Value
  | .date d => .instant (.ofDate d)
  | .int n => match Instant.ofMillis? n.toInt with
    | some i => .instant i
    | none => .int n
  | .text s => match readUtc? s.toList with
    | some i => .instant i
    | none => .text s
  | v => v

/-- A stored value as an instant.  A text without a mark is marked as UTC before it is read. -/
def fromWireInstant : Value → Value
  | .text s =>
    let marked := if hasUtcMarker s.toList then s.toList else s.toList ++ ['Z']
    match readUtc? marked with
    | some i => .instant i
    | none => .text s
  | v => v.toInstant

/-- A value as the text of its date.  A text that is a date already is left as it is. -/
def toDateText : Value → Value
  | .date d => ofChars d.text
  | .instant i => ofChars i.date.text
  | .text s =>
    if (readDate? s.toList).isSome then .text s
    else match readUtc? s.toList with
      | some i => ofChars i.date.text
      | none => .text s
  | v => v

/-- A value as the text of its time of day. -/
def toTimeText : Value → Value
  | .time t => ofChars t.text
  | .instant i => ofChars i.clock.text
  | v => v

end TableMapping.Value
