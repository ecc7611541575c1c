import InvoiceReadiness.Numeric.Binary64
import InvoiceReadiness.Text.Blank
import InvoiceReadiness.Text.Digit

/-!
# Reading numbers from text

A cell that holds text counts as a number if the whole text, padding aside, is
a numeral: an optional sign, then digits with an optional point and an optional
exponent, or one of the words `inf`, `infinity` and `nan` in any case. Digits of
every script are read, and single underscores may stand between digits.

The numeral's exact value is rounded once to binary64. A numeral too large for
the format reads as an infinity and one too small as a zero, without computing
the power of ten that its exponent asks for.
-/

namespace InvoiceReadiness

/--
The binary64 number nearest to `coefficient · 10 ^ exponent`. A coefficient `c`
lies between `10 ^ (c.log2 / 4)` and `10 ^ (c.log2 / 3 + 1)`, which is close
enough to tell a numeral that is out of range from one that is computed.
-/
def Binary64.ofDecimal (negative : Bool) (coefficient : Nat) (exponent : Int) : Binary64 :=
  if coefficient = 0 then ofRatio negative 0 1
  else if 310 < exponent + (coefficient.log2 / 4 : Nat) then infinite negative
  else if exponent + (coefficient.log2 / 3 + 1 : Nat) < -330 then ofRatio negative 0 1
  else
    ofRatio negative (coefficient * tenPow exponent.toNat) (tenPow (-exponent).toNat)

/--
The text without its underscores, if each of them stands between two digits.
-/
def withoutSeparators? (afterDigit : Bool) : List Char → Option (List Char)
  | [] => some []
  | c :: rest =>
    if c == '_' then
      if afterDigit && (rest.head?.any isDecimalDigit) then withoutSeparators? false rest
      else none
    else (withoutSeparators? (isDecimalDigit c) rest).map (c :: ·)

/-- The values of the digits at the head of a text, and the text after them. -/
def takeDigits : List Char → List Nat × List Char
  | [] => ([], [])
  | c :: rest =>
    match decimalDigit? c with
    | none => ([], c :: rest)
    | some d =>
      let (more, after) := takeDigits rest
      (d :: more, after)

/-- The sign at the head of a text: whether it is a minus, and the rest. -/
def takeSign : List Char → Bool × List Char
  | '-' :: rest => (true, rest)
  | '+' :: rest => (false, rest)
  | cs => (false, cs)

/-- The words for numbers without digits. -/
def numberWord? (negative : Bool) (cs : List Char) : Option Binary64 :=
  let word := String.ofList (cs.map Char.toLower)
  if word == "inf" || word == "infinity" then some (.infinite negative)
  else if word == "nan" then some .nan
  else none

/-- An exponent part that ends the text; an empty text is the exponent zero. -/
def exponentPart? : List Char → Option Int
  | [] => some 0
  | c :: rest =>
    if c == 'e' || c == 'E' then
      let (negative, digits) := takeSign rest
      match takeDigits digits with
      | ([], _) => none
      | (ds, []) =>
        let n : Int := (numberOfDigits ds : Nat)
        some (if negative then -n else n)
      | _ => none
    else none

/-- The number that a text without padding writes. -/
def unpaddedNumber? (cs : List Char) : Option Binary64 :=
  let (negative, body) := takeSign cs
  let (whole, rest) := takeDigits body
  let (fraction, tail) :=
    match rest with
    | '.' :: after => takeDigits after
    | _ => ([], rest)
  if whole.isEmpty && fraction.isEmpty then numberWord? negative body
  else do
    let power ← exponentPart? tail
    some (Binary64.ofDecimal negative (numberOfDigits (whole ++ fraction))
      (power - fraction.length))

/-- The number that a text writes, if all of it is one numeral. -/
def readNumber? (s : String) : Option Binary64 :=
  (withoutSeparators? false (trimChars isNumberMargin s.toList)).bind unpaddedNumber?

end InvoiceReadiness
