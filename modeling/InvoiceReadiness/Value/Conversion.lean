import InvoiceReadiness.Value

/-!
# Parameters as numbers

A parameter of a check that has to be a number may be given as a number, as a
truth value, or as text that writes one. Anything else is refused.
-/

namespace InvoiceReadiness

/-- The whole number that a text writes, padding and underscores between digits allowed. -/
def readWhole? (s : String) : Result Int :=
  let (negative, unsigned) := takeSign (trimChars isNumberMargin s.toList)
  match withoutSeparators? false unsigned with
  | none => .error .notANumeral
  | some [] => .error .notANumeral
  | some digits => do
    let n ← naturalOfText? digits
    return if negative then -(n : Int) else n

namespace Value

/-- The value as a binary64 number. -/
def toBinary64 : Value → Result Binary64
  | bool b => .ok (if b then Binary64.ofInt 1 else Binary64.zero)
  | number n => n.toBinary64
  | text s =>
    match readNumber? s with
    | some x => .ok x
    | none => .error .notANumeral
  | _ => .error .operandKind

/-- The value as a whole number; a binary64 number loses its fractional part. -/
def toWhole : Value → Result Int
  | bool b => .ok (if b then 1 else 0)
  | number (.whole n) => .ok n
  | number (.float x) => x.wholePart
  | text s => readWhole? s
  | _ => .error .operandKind

end Value

end InvoiceReadiness
