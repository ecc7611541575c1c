import InvoiceReadiness.Fault
import InvoiceReadiness.Numeric.DecimalText
import InvoiceReadiness.Numeric.NumberReading

/-!
# Numbers of records

A number in a record is either a whole number of unlimited size, written
without point and exponent, or a binary64 number. The two are kept apart
because they are shown differently (`5` and `5.0`), but they are compared by
exact value.

Sums, differences and products of whole numbers are exact. If one operand is a
binary64 number, the other is rounded to one first. A quotient is always a
binary64 number; that of two whole numbers is rounded once from the exact
quotient.
-/

namespace InvoiceReadiness

/-- A whole number of unlimited size, or a binary64 number. -/
inductive Number where
  | whole (n : Int)
  | float (x : Binary64)
  deriving DecidableEq

/-- The most digits that the text of a whole number may have. -/
def maxWholeDigits : Nat := 4300

/-- The text of a whole number, if it keeps to the digit limit. -/
def wholeText? (n : Int) : Result String :=
  if tenPow maxWholeDigits ≤ n.natAbs then .error .digitLimit else .ok (wholeText n)

/-- The whole number that a list of digit values writes, if it keeps to the digit limit. -/
def wholeOfDigits? (digits : List Nat) : Result Nat :=
  if maxWholeDigits < digits.length then .error .digitLimit
  else .ok (numberOfDigits digits)

/-- The whole number that a text of decimal digits writes. -/
def naturalOfText? (cs : List Char) : Result Nat :=
  match cs.mapM decimalDigit? with
  | some digits => wholeOfDigits? digits
  | none => .error .notANumeral

/-- The nearest binary64 number to a whole number that is not too large. -/
def Binary64.ofInt? (n : Int) : Result Binary64 :=
  let x := Binary64.ofInt n
  if x.isFinite then .ok x else .error .numberTooLarge

/-- The whole part of a binary64 number. -/
def Binary64.wholePart : Binary64 → Result Int
  | nan => .error .noWholePart
  | infinite _ => .error .numberTooLarge
  | x => .ok (x.truncate?.getD 0)

namespace Number

def zero : Number := whole 0

instance : Inhabited Number := ⟨zero⟩

/-- The number as binary64. -/
def toBinary64 : Number → Result Binary64
  | whole n => Binary64.ofInt? n
  | float x => .ok x

/-- Not zero; a not-a-number is not zero. -/
def isNonzero : Number → Bool
  | whole n => n != 0
  | float x => !x.isZero

/-- A number with a finite value; a whole number must not be too large for binary64. -/
def isFinite : Number → Result Bool
  | whole n => (Binary64.ofInt? n).map fun _ => true
  | float x => .ok x.isFinite

/-! ## Order by exact value -/

/-- The exact value of a whole number, in units of `2⁻¹⁰⁷⁴`. -/
def wholeUnits (n : Int) : Int := n * unitsPerOne

/-- The order of a whole number and a binary64 number. -/
def compareWhole (n : Int) : Binary64 → Option Ordering
  | .nan => none
  | .infinite negative => some (if negative then .gt else .lt)
  | x => some (Ord.compare (wholeUnits n) x.signedUnits)

/-- The order of two numbers by exact value; a not-a-number has none. -/
def compare? : Number → Number → Option Ordering
  | whole m, whole n => some (Ord.compare m n)
  | whole m, float y => compareWhole m y
  | float x, whole n => (compareWhole n x).map Ordering.swap
  | float x, float y => x.compare? y

def eq (x y : Number) : Bool := x.compare? y == some .eq

def lt (x y : Number) : Bool := x.compare? y == some .lt

def le (x y : Number) : Bool := (x.compare? y).any fun o => o != .gt

/-! ## Arithmetic -/

/-- An operation on two whole numbers, or on two numbers as binary64. -/
def lift (onWhole : Int → Int → Int) (onFloat : Binary64 → Binary64 → Binary64) :
    Number → Number → Result Number
  | whole m, whole n => .ok (whole (onWhole m n))
  | x, y => do
    let a ← x.toBinary64
    let b ← y.toBinary64
    return float (onFloat a b)

def add : Number → Number → Result Number := lift (· + ·) Binary64.add

def sub : Number → Number → Result Number := lift (· - ·) Binary64.sub

def mul : Number → Number → Result Number := lift (· * ·) Binary64.mul

def neg : Number → Number
  | whole n => whole (-n)
  | float x => float x.neg

def abs : Number → Number
  | whole n => whole n.natAbs
  | float x => float x.abs

/-- The quotient by a divisor that is not zero. -/
def div : Number → Number → Result Number
  | whole m, whole n =>
    let x := Binary64.ofRatio ((m < 0) != (n < 0)) m.natAbs n.natAbs
    if x.isFinite then .ok (float x) else .error .numberTooLarge
  | x, y => do
    let a ← x.toBinary64
    let b ← y.toBinary64
    return float (a.div b)

/-- The remainder by a divisor that is not zero, with the sign of the dividend. -/
def remainder (x y : Number) : Result Number := do
  let a ← x.toBinary64
  let b ← y.toBinary64
  match a.remainder? b with
  | some r => return float r
  | none => throw .infiniteDividend

/-- The sum of numbers from left to right, starting from the whole number zero. -/
def sum (ns : List Number) : Result Number :=
  ns.foldlM add zero

/-- The nearest number with the given count of decimal places. -/
def roundPlaces (places : Nat) : Number → Number
  | whole n => whole n
  | float x => float (x.roundPlaces places)

/-! ## Text -/

/-- The shortest text that reads back to the number. -/
def text : Number → Result String
  | whole n => wholeText? n
  | float x => .ok x.text

/-- The text with exactly `places` decimal places. -/
def fixedText (places : Nat) (x : Number) : Result String :=
  x.toBinary64.map (Binary64.fixedText places)

end Number

end InvoiceReadiness
