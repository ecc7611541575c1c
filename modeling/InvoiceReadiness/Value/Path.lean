import InvoiceReadiness.Value

/-!
# Field paths

A field of a record is named by a path: segments separated by points. A segment
names a member of an object or, if it is made of digits, the position of an item
in a list. Whatever a path cannot reach is null: a missing member, a position
beyond the end, a segment below a value that has no parts.
-/

namespace InvoiceReadiness

/-- The parts of a text between the separators; there is always at least one. -/
def splitAtChar (separator : Char) : List Char → List (List Char)
  | [] => [[]]
  | c :: rest =>
    let parts := splitAtChar separator rest
    if c == separator then [] :: parts
    else
      match parts with
      | [] => [[c]]
      | first :: more => (c :: first) :: more

/-- Whether a segment looks like the position of an item. -/
def isPosition (segment : List Char) : Bool :=
  !segment.isEmpty && segment.all isDigitLike

namespace Value

/-- The value that segments lead to from a value. -/
def follow : Value → List (List Char) → Result Value
  | v, [] => .ok v
  | object members, segment :: rest => follow (Members.get members (String.ofList segment)) rest
  | list items, segment :: rest =>
    if isPosition segment then do
      let i ← naturalOfText? segment
      follow (items[i]?.getD null) rest
    else .ok null
  | _, _ :: _ => .ok null

/-- The segments of a path; blanks around the whole path do not count. -/
def segments (path : String) : List (List Char) :=
  splitAtChar '.' (trimBlanks path.toList)

/-- The value that a path leads to. -/
def resolve (v : Value) (path : String) : Result Value :=
  v.follow (segments path)

/-- The value that a path leads to, where the path is itself data. -/
def resolveAt (v path : Value) : Result Value := do
  v.resolve (← path.asText)

end Value

/-- The value that a path leads to from a record, where the path is itself data. -/
def Record.resolveAt (r : Record) (path : Value) : Result Value :=
  r.value.resolveAt path

end InvoiceReadiness
