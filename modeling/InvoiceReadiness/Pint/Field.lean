import InvoiceReadiness.Dataset
import InvoiceReadiness.Numeric.Tolerance
import InvoiceReadiness.Value.Path

/-!
# Fields of the check pack

Some fields have a second name in older exports; `canonical` gives the name that
datasets use. The name of a field tells on which kind of record it is found; only
if it does not is the scope of the check asked.
-/

namespace InvoiceReadiness.Pint

/-- The second names of fields, each with the name that datasets use. -/
def fieldAliases : List (String × String) :=
  [("seller_endpoint", "seller_electronic_address"),
   ("buyer_endpoint", "buyer_electronic_address"),
   ("seller_street", "seller_address")]

/-- The name that datasets use for a field. -/
def canonicalName (name : String) : String :=
  ((fieldAliases.find? fun entry => entry.1 == name).map Prod.snd).getD name

/-- The name that datasets use for a field, where the field is itself data. -/
def canonical (field : Value) : Result Value := do
  let _ ← field.key
  match field with
  | .text name => return .text (canonicalName name)
  | v => return v

/-- The kind of record on which a field is found, by its name and then by a scope. -/
def kindOfName (name : String) (scope : Value) : RecordKind :=
  let startsWith (start : String) : Bool := start.toList.isPrefixOf name.toList
  if startsWith "buyer_" then .buyers
  else if startsWith "line_" || name == "quantity" || name == "unit_of_measure" then .lines
  else if startsWith "seller_" || startsWith "invoice_" || name == "currency" then .headers
  else
    match scope with
    | .text "Lines" => .lines
    | .text "Party" => .buyers
    | _ => .headers

/-- The kind of record on which a field is found, where the field is itself data. -/
def kindOfField (field scope : Value) : Result RecordKind := do
  return kindOfName (← (← canonical field).asText) scope

/-- The decimal places in the shortest text of a number that is not whole. -/
def placesInText (text : List Char) : Nat :=
  if text.contains 'e' then 0
  else
    match splitAtChar '.' text with
    | _ :: places :: _ => places.length
    | _ => 0

/-- The decimal places of the number that a cell holds; zero without a number. -/
def countDecimals (v : Value) : Result Nat := do
  match v.toNumber? with
  | none => return 0
  | some n =>
    if !(← n.isFinite) then return 0
    match n with
    | .whole _ => return 0
    | .float x => return if x.isWhole then 0 else placesInText x.text.toList

end InvoiceReadiness.Pint
