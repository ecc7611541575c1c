import InvoiceReadiness.Value.Conversion

/-!
# Bodies of requests

A request carries an object. Each of its members has a shape, and a member that
does not have it makes the whole request invalid; members that nobody asks for are
ignored. Shapes are lenient where a sender could hardly mean anything else: a
number may be written as text, a truth value as a word.

A reader of a shape gives none for a value without it.
-/

namespace InvoiceReadiness.Service

/-- What reads values of a shape. -/
abbrev Shape (α : Type) := Value → Option α

namespace Shape

def text : Shape String
  | .text s => some s
  | _ => none

def object : Shape Record
  | .object members => some ⟨members⟩
  | _ => none

def listOf {α : Type} (shape : Shape α) : Shape (List α)
  | .list items => items.mapM shape
  | _ => none

/-- An object whose members all have one shape. -/
def mapOf {α : Type} (shape : Shape α) : Shape (List (String × α))
  | .object members => members.mapM fun (name, v) => (shape v).map fun a => (name, a)
  | _ => none

def nullable {α : Type} (shape : Shape α) : Shape (Option α)
  | .null => some none
  | v => (shape v).map some

/-! ## Truth values -/

def trueWords : List String := ["1", "t", "true", "y", "yes", "on"]

def falseWords : List String := ["0", "f", "false", "n", "no", "off"]

/-- The truth value that a word stands for, in either case. -/
def truthOfWord? (s : String) : Option Bool :=
  let word := String.ofList (s.toList.map Char.toLower)
  if trueWords.contains word then some true
  else if falseWords.contains word then some false
  else none

/-- A truth value, the numbers one and zero, or a word. -/
def truth : Shape Bool
  | .bool b => some b
  | .number n => if n.eq (.whole 1) then some true else if n.eq .zero then some false else none
  | .text s => truthOfWord? s
  | _ => none

/-! ## Numbers -/

/-- A text without its underscores, if none is doubled or stands at an end. -/
def withoutUnderscores? (s : List Char) : Option (List Char) :=
  if s.head? == some '_' || s.getLast? == some '_' || doubled s then none
  else some (s.filter fun c => c != '_')
where
  /-- Whether two underscores follow each other. -/
  doubled : List Char → Bool
    | c :: d :: rest => (c == '_' && d == '_') || doubled (d :: rest)
    | _ => false

/-- The number that a text of ASCII characters writes. -/
def asciiNumber? (cs : List Char) : Option Binary64 :=
  if cs.all fun c => c.toNat < 128 then unpaddedNumber? cs else none

/-- The number that a text writes; padding and underscores exclude each other. -/
def numberOfText? (s : String) : Option Binary64 :=
  (asciiNumber? (trimChars isNumberMargin s.toList)).or
    ((withoutUnderscores? s.toList).bind asciiNumber?)

/-- A number, a truth value as one or zero, or a text that writes a number. -/
def float : Shape Binary64
  | .text s => numberOfText? s
  | .number n => n.toBinary64.toOption
  | .bool b => some (.ofInt (if b then 1 else 0))
  | _ => none

/-- A text without the zeros that follow a point. -/
def withoutZeroFraction (cs : List Char) : List Char :=
  let whole := cs.takeWhile fun c => c != '.'
  let fraction := cs.drop (whole.length + 1)
  if fraction.all fun c => c == '0' then whole else cs

/-- The whole number that a text writes, a fraction of zeros allowed. -/
def wholeOfText? (s : String) : Option Int := do
  if maxWholeDigits < s.utf8ByteSize then none
  let (negative, unsigned) := takeSign (trimChars isNumberMargin s.toList)
  let digits ← withoutUnderscores? (withoutZeroFraction unsigned)
  if digits.isEmpty || !digits.all Char.isDigit then none
  let n : Int := (numberOfDigits (digits.map fun c => c.toNat - 48) : Nat)
  return if negative then -n else n

/-- Whether a binary64 number fits into sixty-four bits. -/
def fitsWord (x : Binary64) : Bool :=
  x.abs.compare? (.ofInt (twoPow 63)) == some .lt

/-- A whole number, a truth value as one or zero, or a text that writes a whole number. -/
def whole : Shape Int
  | .number (.whole n) => some n
  | .number (.float x) => if x.isWhole && fitsWord x then x.truncate? else none
  | .bool b => some (if b then 1 else 0)
  | .text s => wholeOfText? s
  | _ => none

end Shape

/-! ## Members -/

/-- A member that has to be there. -/
def required {α : Type} (body : Record) (name : String) (shape : Shape α) : Option α :=
  if body.has name then shape (body.get name) else none

/-- A member that may be left out. -/
def optional {α : Type} (body : Record) (name : String) (shape : Shape α) (fallback : α) :
    Option α :=
  if body.has name then shape (body.get name) else some fallback

end InvoiceReadiness.Service
