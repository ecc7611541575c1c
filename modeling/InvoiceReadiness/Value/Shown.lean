import InvoiceReadiness.Value

/-!
# The text of values

A value has two texts. `Value.shown` is the text on its own: a text is shown as
it is. `Value.quotedText` is the text inside a list, an object or a message that
quotes: a text stands between quotes. All other values look the same in both.

Only one thing can prevent a value from being shown: a whole number of more
digits than `maxWholeDigits`, at any depth.

Messages that are made from templates show values in a third way, `Value.plain`:
null and truth values in lower case, and binary64 numbers without a fractional
part as whole numbers.
-/

namespace InvoiceReadiness

namespace Value

mutual

/-- The text of a value inside a list, an object or a quoting message. -/
def quotedText : Value → Result String
  | null => .ok "None"
  | bool b => .ok (if b then "True" else "False")
  | number n => n.text
  | text s => .ok (quoted s)
  | list items => do
    let parts ← quotedItems items
    return "[" ++ ", ".intercalate parts ++ "]"
  | object members => do
    let parts ← quotedMembers members
    return "\x7b" ++ ", ".intercalate parts ++ "\x7d"

/-- The texts of the items of a list. -/
def quotedItems : List Value → Result (List String)
  | [] => .ok []
  | item :: rest => do
    let first ← quotedText item
    let more ← quotedItems rest
    return first :: more

/-- The texts of the members of an object. -/
def quotedMembers : List (String × Value) → Result (List String)
  | [] => .ok []
  | (name, value) :: rest => do
    let first ← quotedText value
    let more ← quotedMembers rest
    return (quoted name ++ ": " ++ first) :: more

end

/-- The text of a value on its own. -/
def shown : Value → Result String
  | text s => .ok s
  | v => v.quotedText

/-- The text of a value in a message made from a template. -/
def plain : Value → Result String
  | null => .ok "null"
  | bool b => .ok (if b then "true" else "false")
  | number (.float x) => if x.isWhole then wholeText? (x.truncate?.getD 0) else .ok x.text
  | v => v.shown

end Value

end InvoiceReadiness
