import InvoiceReadiness.Value.Shown

/-!
# Scalars

The values that expressions compute with: null, truth values, numbers and texts.
Lists and objects have parts that a path can reach, but no expression takes one
as a whole.

A number and a text are compared as numbers if the text writes one, so that an
amount delivered as text is ordered like an amount.
-/

namespace InvoiceReadiness

/-- A value that expressions compute with. -/
inductive Scalar where
  | null
  | bool (b : Bool)
  | number (n : Number)
  | text (s : String)
  deriving DecidableEq

/-- Truth of a number: neither zero nor a not-a-number. -/
def Number.isTruthy : Number → Result Bool
  | .whole n => if n = 0 then .ok false else (Binary64.ofInt? n).map fun _ => true
  | .float x => .ok (!x.isZero && !x.isNan)

/--
Truth of a value: null, false, zero, a not-a-number and the empty text are false.
-/
def Value.isTruthy : Value → Result Bool
  | .null => .ok false
  | .bool b => .ok b
  | .number n => n.isTruthy
  | .text s => .ok (s != "")
  | _ => .ok true

namespace Scalar

instance : Inhabited Scalar := ⟨null⟩

def value : Scalar → Value
  | null => .null
  | bool b => .bool b
  | number n => .number n
  | text s => .text s

/-- The scalar that a field's value is. -/
def ofValue : Value → Result Scalar
  | .null => .ok null
  | .bool b => .ok (bool b)
  | .number n => .ok (number n)
  | .text s => .ok (text s)
  | .list _ => .error (.expression (.unsupportedField "list"))
  | .object _ => .error (.expression (.unsupportedField "dict"))

def isTruthy (s : Scalar) : Result Bool := s.value.isTruthy

/-- The text of a scalar in a message. -/
def plain (s : Scalar) : Result String := s.value.plain

/-- The text of a scalar in a message that quotes it. -/
def quotedText (s : Scalar) : Result String := s.value.quotedText

def isNull : Scalar → Bool
  | null => true
  | _ => false

def isBool : Scalar → Bool
  | bool _ => true
  | _ => false

def isNumber : Scalar → Bool
  | number _ => true
  | _ => false

def isText : Scalar → Bool
  | text _ => true
  | _ => false

/-- The number that a text writes, unless the text is blank. -/
def numberOfText? (s : String) : Option Number :=
  if (trimBlanks s.toList).isEmpty then none else (readNumber? s).map .float

/-- A number beside a text that writes one: both as numbers. -/
def alignPair : Scalar → Scalar → Scalar × Scalar
  | number m, text t =>
    match numberOfText? t with
    | some n => (number m, number n)
    | none => (number m, text t)
  | text t, number n =>
    match numberOfText? t with
    | some m => (number m, number n)
    | none => (text t, number n)
  | x, y => (x, y)

/-- Equality that aligns a number with a text; null equals null alone. -/
def looselyEqual (x y : Scalar) : Bool :=
  if x.isNull || y.isNull then x.isNull && y.isNull
  else
    let (a, b) := alignPair x y
    a.value.same b.value

/-- Equality of scalars of the same kind. -/
def strictlyEqual (x y : Scalar) : Bool :=
  x.isBool == y.isBool && x.isNumber == y.isNumber && x.value.same y.value

/-- The order of two numbers or two texts, after aligning; no other pair has one. -/
def compare? (x y : Scalar) : Option Ordering :=
  match alignPair x y with
  | (number m, number n) => m.compare? n
  | (text s, text t) => some (Ord.compare s t)
  | _ => none

/-- The number that an arithmetic operator takes; other operands are named. -/
def numberFor (operator : String) : Scalar → Result Number
  | number n => .ok n
  | s => do
    let shown ← s.plain
    throw (.expression (.notNumeric operator shown))

end Scalar

end InvoiceReadiness
