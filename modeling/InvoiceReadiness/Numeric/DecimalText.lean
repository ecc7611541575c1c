import InvoiceReadiness.Numeric.Binary64

/-!
# The decimal text of binary64 numbers

Amounts are shown in two ways. In messages about values the text is the
**shortest** decimal that reads back to the same number; in amounts and
percentages of a report it has a **fixed** count of decimal places.

## Shortest text

For one, two, … up to seventeen significant digits, the number lies between two
neighbours on the grid of decimals with that many digits. The first grid with a
neighbour that reads back gives the digits; if both read back, the nearer is
taken, and the one with the even last digit in a tie. Seventeen digits always
suffice.

The digits are written positionally while the decimal point falls at most four
places before the first digit or sixteen after it, and with an exponent of at
least two digits otherwise. Text without an exponent always has a point.
-/

namespace InvoiceReadiness

/-- The decimal digits of a natural number, most significant first. -/
def decimalDigits (n : Nat) : List Char :=
  Nat.toDigits 10 n

/-- The text of a whole number. -/
def wholeText (n : Int) : String :=
  String.ofList (if n < 0 then '-' :: decimalDigits n.natAbs else decimalDigits n.natAbs)

/-- A positive decimal `0.d₁d₂… · 10 ^ point`. -/
structure DecimalDigits where
  digits : List Char
  point : Int

namespace Binary64

/-- The power of ten of the first significant digit of a positive count of units. -/
def leadingPower (units : Nat) : Int :=
  (decimalDigits (units * tenPow 330 / unitsPerOne)).length - 331

/-- The count of units that `coefficient · 10 ^ exponent` is read as. -/
def unitsOfDecimal (coefficient : Nat) (exponent : Int) : Nat :=
  nearestUnits (coefficient * tenPow exponent.toNat * unitsPerOne)
    (tenPow (-exponent).toNat)

/--
The coefficient on the grid `10 ^ exponent` that reads back to `units`, if one
of the two neighbours on that grid does.
-/
def coefficientOnGrid? (units : Nat) (exponent : Int) : Option Nat :=
  let num := units * tenPow (-exponent).toNat
  let den := unitsPerOne * tenPow exponent.toNat
  let below := num / den
  let belowReads := unitsOfDecimal below exponent == units
  let aboveReads := unitsOfDecimal (below + 1) exponent == units
  if belowReads && aboveReads then some (roundHalfEven num den)
  else if belowReads then some below
  else if aboveReads then some (below + 1)
  else none

/-- The digits of `coefficient · 10 ^ exponent` without trailing zeros. -/
def digitsOfDecimal (coefficient : Nat) (exponent : Int) : DecimalDigits :=
  let digits := decimalDigits coefficient
  { digits := (digits.reverse.dropWhile (· == '0')).reverse
    point := digits.length + exponent }

/-- The shortest decimal that reads back to a positive count of units. -/
def shortestDigits (units : Nat) : DecimalDigits :=
  let top := leadingPower units
  let found := (List.range 17).findSome? fun (k : Nat) =>
    (coefficientOnGrid? units (top - (k : Int))).map fun c => digitsOfDecimal c (top - (k : Int))
  found.getD ⟨['0'], 1⟩

end Binary64

/-- Text of a positive decimal, positional or with an exponent. -/
def DecimalDigits.text (d : DecimalDigits) : List Char :=
  if -4 < d.point ∧ d.point ≤ 16 then
    if d.point ≤ 0 then
      '0' :: '.' :: List.replicate (-d.point).toNat '0' ++ d.digits
    else
      let whole := d.digits.take d.point.toNat
      let fraction := d.digits.drop d.point.toNat
      whole ++ List.replicate (d.point.toNat - d.digits.length) '0' ++
        '.' :: (if fraction.isEmpty then ['0'] else fraction)
  else
    let power := d.point - 1
    let powerDigits := decimalDigits power.natAbs
    let mantissa :=
      match d.digits with
      | [] => ['0']
      | [first] => [first]
      | first :: rest => first :: '.' :: rest
    mantissa ++ 'e' :: (if power < 0 then '-' else '+') ::
      (List.replicate (2 - powerDigits.length) '0' ++ powerDigits)

namespace Binary64

private def signed (negative : Bool) (cs : List Char) : String :=
  String.ofList (if negative then '-' :: cs else cs)

/-- The shortest text that reads back to the number. -/
def text : Binary64 → String
  | nan => "nan"
  | infinite negative => signed negative ['i', 'n', 'f']
  | finite negative units _ =>
    signed negative (if units = 0 then ['0', '.', '0'] else (shortestDigits units).text)

/-- The text with exactly `places` decimal places; a tie goes to the even digit. -/
def fixedText (places : Nat) : Binary64 → String
  | nan => "nan"
  | infinite negative => signed negative ['i', 'n', 'f']
  | finite negative units _ =>
    let scaled := roundHalfEven (units * tenPow places) unitsPerOne
    let whole := decimalDigits (scaled / tenPow places)
    let fraction := decimalDigits (scaled % tenPow places)
    signed negative
      (if places = 0 then whole
       else whole ++ '.' :: (List.replicate (places - fraction.length) '0' ++ fraction))

end Binary64

end InvoiceReadiness
