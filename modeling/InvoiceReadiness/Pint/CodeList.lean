import InvoiceReadiness.Text.Case
import InvoiceReadiness.Value.Key
import InvoiceReadiness.Value.Shown

/-!
# Code lists

The codes that invoices may use for currencies, countries, document types and
the like: the subsets of the official lists that are in use in the United Arab
Emirates. A cell is looked up without its padding and in upper case.
-/

namespace InvoiceReadiness.Pint

def currencyCodes : List String :=
  ["AED", "USD", "EUR", "GBP", "SAR", "KWD", "BHD", "OMR", "QAR", "INR",
   "PKR", "CNY", "JPY", "CHF", "CAD", "AUD", "SGD", "HKD", "EGP", "JOD"]

def countryCodes : List String :=
  ["AE", "SA", "KW", "BH", "OM", "QA", "US", "GB", "DE", "FR", "IN", "PK",
   "CN", "JP", "CH", "CA", "AU", "SG", "HK", "EG", "JO"]

def invoiceTypeCodes : List String := ["380", "381", "383", "384", "386", "389"]

def paymentMeansCodes : List String :=
  ["10", "20", "30", "31", "42", "48", "49", "57", "58", "59", "ZZZ"]

def taxCategoryCodes : List String := ["S", "Z", "E", "O", "RC"]

def unitCodes : List String :=
  ["C62", "EA", "H87", "KGM", "MTR", "LTR", "HUR", "DAY", "MON", "SET", "BX", "PR"]

def subdivisionCodes : List String :=
  ["AE-AZ", "AE-AJ", "AE-FU", "AE-SH", "AE-DU", "AE-RK", "AE-UQ"]

/-- The code lists by name. -/
def codeLists : List (String × List String) :=
  [("ISO4217", currencyCodes), ("ISO3166", countryCodes), ("UNCL1001", invoiceTypeCodes),
   ("UNCL4461", paymentMeansCodes), ("TaxCategory", taxCategoryCodes),
   ("UNECERec20", unitCodes), ("UAESubdivision", subdivisionCodes)]

/-- The codes of a list; there are none under an unknown name. -/
def codesOf (name : String) : List String :=
  ((codeLists.find? fun list => list.1 == name).map Prod.snd).getD []

/-- The codes of a list, where the name is itself data. -/
def codesOfValue (name : Value) : Result (List String) := do
  let _ ← name.key
  match name with
  | .text s => return codesOf s
  | _ => return []

/-- The form in which a cell is looked up. -/
def normalizedCode (v : Value) : Result String := do
  return upper (trim (← v.shown))

/-- Whether a cell holds a code of a list. -/
def isCodeIn (name : Value) (v : Value) : Result Bool := do
  let code ← normalizedCode v
  return (← codesOfValue name).contains code

end InvoiceReadiness.Pint
