import InvoiceReadiness.Text.Case
import InvoiceReadiness.Value.Shown

/-!
# Normal forms for matching

Invoice numbers, names and tax registration numbers are compared after leaving
out what people write differently: case, blanks and separators of an invoice
number, the spacing of a name, everything but the digits of a registration
number. A value that is not filled has the empty normal form.
-/

namespace InvoiceReadiness.Matching

/-- The separators that invoice numbers are written with. -/
def isInvoiceSeparator (c : Char) : Bool :=
  isBlankChar c || c == '-' || c == '_' || c == '/' || c == '.' || c == '\\'

/-- A text with every run of blanks made one space. -/
def collapseBlanks : List Char → List Char
  | [] => []
  | c :: rest =>
    if isBlankChar c then
      match rest with
      | [] => [' ']
      | next :: _ => if isBlankChar next then collapseBlanks rest else ' ' :: collapseBlanks rest
    else c :: collapseBlanks rest

/-- The normal form of an invoice number: lower case, without separators. -/
def invoiceForm (cs : List Char) : List Char :=
  (lowerChars cs).filter fun c => !isInvoiceSeparator c

/-- The normal form of a name: lower case, words one space apart. -/
def nameForm (cs : List Char) : List Char :=
  trimBlanks (collapseBlanks (lowerChars cs))

/-- The normal form of a registration number: its digits. -/
def trnForm (cs : List Char) : List Char :=
  cs.filter isDecimalDigit

/-- The normal form of a cell. -/
def normalized (form : List Char → List Char) (v : Value) : Result (List Char) := do
  if v.isFilled then return form (← v.shown).toList else return []

end InvoiceReadiness.Matching
