/-!
# Member lists

The domain of a column stands in its reported type: in parentheses, each member between single
quotes, with a quote inside a member written twice.

## Main definitions

* `MemberList.read` : the members of the text between the parentheses.
* `MemberList.ofType` : the members of a reported type.
* `MemberList.quote`, `MemberList.write` : a member, and a list of members, as they are reported.
-/

namespace TableMapping.MemberList

/-- A member between its quotes. -/
def quote (member : List Char) : List Char :=
  '\x27' :: (member.flatMap (fun c => if c = '\x27' then ['\x27', '\x27'] else [c]) ++ ['\x27'])

/-- The members between parentheses, with commas between them. -/
def write (members : List (List Char)) : List Char :=
  '(' :: (List.intercalate [','] (members.map quote) ++ [')'])

/-- The members of a text between parentheses, where `current` is the member that the text begins
in, latest character first.  Outside members there are only commas and blanks. -/
def readFrom (current : Option (List Char)) : List Char → Option (List (List Char))
  | [] => if current.isNone then some [] else none
  | c :: cs =>
    match current, c, cs with
    | none, '\x27', cs => readFrom (some []) cs
    | none, c, cs => if c = ',' ∨ c = ' ' then readFrom none cs else none
    | some member, '\x27', '\x27' :: cs => readFrom (some ('\x27' :: member)) cs
    | some member, '\x27', cs => (readFrom none cs).map (member.reverse :: ·)
    | some member, c, cs => readFrom (some (c :: member)) cs

/-- The members of a text between parentheses. -/
def read (s : List Char) : Option (List (List Char)) := readFrom none s

/-- What stands between the first opening parenthesis and the last closing one. -/
def body? (columnType : List Char) : Option (List Char) :=
  match columnType.dropWhile (· != '(') with
  | [] => none
  | _ :: rest =>
    match rest.reverse.dropWhile (· != ')') with
    | [] => none
    | _ :: reversed => some reversed.reverse

/-- The members of a reported type. -/
def ofType (columnType : List Char) : Option (List (List Char)) := (body? columnType).bind read

end TableMapping.MemberList
