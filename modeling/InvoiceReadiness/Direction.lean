import InvoiceReadiness.Dataset.Finding
import InvoiceReadiness.Severity
import InvoiceReadiness.Text.Case

/-!
# Direction of invoices

An invoice that we issued is receivable: we are the seller. An invoice that we
received is payable: we are the buyer. Whichever side is ours has to carry the
tax registration number of one of our entities; `misaligned` finds the invoices
where it does not.
-/

namespace InvoiceReadiness

/-- Whether invoices were issued or received. -/
inductive Direction where
  | receivable | payable
  deriving DecidableEq

namespace Direction

def name : Direction → String
  | receivable => "AR"
  | payable => "AP"

/-- The direction of a name; anything else counts as receivable. -/
def ofValue : Value → Direction
  | .text "AP" => payable
  | _ => receivable

/-! ## Detection -/

/-- Columns that describe a supplier, as invoices that were received have them. -/
def supplierColumns : List String :=
  ["supplier_id", "supplier_name", "vendor_id", "vendor_name"]

/-- Columns that describe a customer, as invoices that were issued have them. -/
def customerColumns : List String :=
  ["buyer_id", "buyer_name", "customer_id", "customer_name"]

/-- The number of signals among names. -/
def countSignals (signals names : List String) : Nat :=
  (signals.filter names.contains).length

/-- The direction that column names speak for; none if they speak for both alike. -/
def ofColumns? (columns : List String) : Option Direction :=
  let names := columns.map fun column => lower (trim column)
  let payables := countSignals supplierColumns names
  let receivables := countSignals customerColumns names
  if receivables < payables then some payable
  else if payables < receivables then some receivable
  else none

/-! ## Our side of an invoice -/

/-- The side of an invoice that is ours. -/
def ownParty : Direction → String
  | receivable => "Seller"
  | payable => "Buyer"

/-- The column of the tax registration number on our side. -/
def ownColumn : Direction → String
  | receivable => "seller_trn"
  | payable => "buyer_trn"

/--
The tax registration number on our side of an invoice. That of the buyer is taken
from the header, and if it is not there from the buyer whom the header names.
-/
def ownTrn (direction : Direction) (buyers : Index Record) (header : Record) :
    Result Value := do
  match direction with
  | receivable => return header.get "seller_trn"
  | payable =>
    let trn := header.get "buyer_trn"
    if trn.isFilled then return trn
    let buyer := (buyers.get? (← (header.get "buyer_id").key)).getD Record.empty
    return buyer.get "buyer_trn"

/-- The registration numbers in a list, without padding; empty ones are left out. -/
def registered (numbers : List Value) : Result (List String) := do
  let kept ← numbers.filterMapM fun v => do
    if !v.isFilled then return none
    let number := trim (← v.asText)
    return if number == "" then none else some number
  return kept

/-- Whether a registration number is one of ours. -/
def isOurs (numbers : List String) (trn : Value) : Result Bool := do
  if !trn.isFilled then return false
  let _ ← trn.key
  match trn with
  | .text s => return numbers.contains s
  | _ => return false

/-- What is reported in place of a registration number that is not there. -/
def missingTrn : Value := .text "(missing)"

/-- The texts of a list without repetitions, in the order in which they first come. -/
def distinct (texts : List String) : List String :=
  texts.foldl (fun kept s => if kept.contains s then kept else kept ++ [s]) []

/-- The invoices whose registration number on our side is none of ours. -/
def misalignedOf (direction : Direction) (ours : List String) (headers : List Record)
    (buyers : Index Record) : Result (List Finding) :=
  collect headers fun header => do
    let trn ← direction.ownTrn buyers header
    if ← isOurs ours trn then return none
    let text ← (trn.orElse missingTrn).shown
    let allowed := ", ".intercalate (distinct ours)
    let message := s!"{direction.ownParty} TRN {text} is not registered " ++
      s!"as our entity for {direction.name} direction."
    return some {
      checkId := .text "org_profile_our_entity_alignment"
      ruleId := .text "ORG-TRN-ALIGNMENT"
      checkName := .text "Our-side TRN Alignment"
      severity := .text Severity.critical.name
      message
      place := .ofHeader header
      field := .text direction.ownColumn
      expected := .text s!"one of [{allowed}]"
      actual := trn.orElse missingTrn
      direction := .text direction.name }

/--
The invoices whose registration number on our side is none of the given ones.
Without given numbers there is nothing to compare with, and nothing is reported.
-/
def misaligned (direction : Direction) (numbers : List Value) (headers : List Record)
    (buyers : Index Record) : Result (List Finding) := do
  let ours ← registered numbers
  if ours.isEmpty then return []
  direction.misalignedOf ours headers buyers

end Direction

end InvoiceReadiness
