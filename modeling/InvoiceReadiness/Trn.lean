import InvoiceReadiness.Text.Digit
import InvoiceReadiness.Value.Shown

/-!
# Tax registration numbers

A tax registration number is a text of fifteen decimal digits, of any script.
As everywhere where a pattern demands the end of a text, one line feed may
follow the last digit.
-/

namespace InvoiceReadiness

/-- Fifteen digits, and at most a line feed after them. -/
def isTrnText (cs : List Char) : Bool :=
  cs.length ≥ 15 && (cs.take 15).all isDecimalDigit &&
    (cs.drop 15 == [] || cs.drop 15 == ['\n'])

/-- Whether the text of a cell is a tax registration number. -/
def Value.isTrn (v : Value) : Result Bool := do
  return isTrnText (← v.shown).toList

end InvoiceReadiness
