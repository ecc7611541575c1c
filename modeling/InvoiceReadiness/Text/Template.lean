import InvoiceReadiness.Value.Path
import InvoiceReadiness.Value.Shown

/-!
# Message templates

A template is text with placeholders: a field path between braces. A brace pair
with nothing in it is ordinary text, and so is a brace without a partner; an
opening brace starts a placeholder afresh if another one is open.

Filling a template replaces every placeholder once. The text that is filled in
is not searched for placeholders again.
-/

namespace InvoiceReadiness

/-- An ordinary character, or a placeholder by the text between its braces. -/
inductive Piece where
  | char (c : Char)
  | placeholder (body : List Char)

namespace Piece

/-- The template text of a piece. -/
def source : Piece → List Char
  | char c => [c]
  | placeholder body => '\x7b' :: body ++ ['\x7d']

/-- The path of a placeholder. -/
def path? : Piece → Option String
  | char _ => none
  | placeholder body => some (String.ofList (trimBlanks body))

end Piece

namespace Template

/-- The characters of a placeholder that turns out to be none. -/
def unfinished : Option (List Char) → List Piece
  | none => []
  | some body => (('\x7b' :: body.reverse).map Piece.char)

/--
The pieces of a template. The first argument is the text after an opening brace
that has not met its partner, in reverse.
-/
def piecesFrom : Option (List Char) → List Char → List Piece
  | pending, [] => unfinished pending
  | pending, c :: rest =>
    if c == '\x7b' then unfinished pending ++ piecesFrom (some []) rest
    else
      match pending with
      | none => .char c :: piecesFrom none rest
      | some body =>
        if c == '\x7d' then
          if body.isEmpty then .char '\x7b' :: .char '\x7d' :: piecesFrom none rest
          else .placeholder body.reverse :: piecesFrom none rest
        else piecesFrom (some (c :: body)) rest

/-- The pieces of a template. -/
def pieces (template : String) : List Piece :=
  piecesFrom none template.toList

/-- The paths of the placeholders of a template, in order. -/
def references (template : String) : List String :=
  (pieces template).filterMap Piece.path?

/-- The text that stands for a field without a value. -/
def undefinedText : String := "(undefined)"

/-- The value of a placeholder: from `extra` if it is there, or from the record. -/
def valueOf (record : Value) (extra : Members) (path : String) : Result Value :=
  match extra.get path with
  | .null => record.resolve path
  | v => .ok v

/-- The text that a piece is replaced by. -/
def fillPiece (record : Value) (extra : Members) : Piece → Result (List Char)
  | .char c => .ok [c]
  | .placeholder body => do
    let v ← valueOf record extra (String.ofList (trimBlanks body))
    if v.isNull then return undefinedText.toList
    let s ← v.plain
    return s.toList

/-- The template with every placeholder replaced by the text of its value. -/
def fill (template : String) (record : Value) (extra : Members) : Result String := do
  let parts ← (pieces template).mapM (fillPiece record extra)
  return String.ofList parts.flatten

/-- The template with its placeholders filled, where the template is itself data. -/
def fillValue (template : Value) (record : Value) (extra : Members) : Result String :=
  if !template.isFilled then .ok ""
  else
    match template with
    | .text s => fill s record extra
    | _ => .error .operandKind

/-- The paths of a template's placeholders, where the template is itself data. -/
def referencesOf (template : Value) : Result (List String) :=
  if !template.isFilled then .ok []
  else
    match template with
    | .text s => .ok (references s)
    | _ => .error .operandKind

end Template

end InvoiceReadiness
