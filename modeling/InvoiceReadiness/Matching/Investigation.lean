import InvoiceReadiness.Calendar
import InvoiceReadiness.Dataset
import InvoiceReadiness.Matching.Normal
import InvoiceReadiness.Matching.Similarity
import InvoiceReadiness.Numeric.Tolerance
import InvoiceReadiness.Value.Conversion

/-!
# Investigation of payables

Invoices that we receive are compared pairwise for signs of a problem: the same
invoice submitted twice, one invoice number written in two ways, one supplier
under two registration numbers. A match raises a `Lead` on the later invoice of
the pair, with a confidence between zero and one.

Only payables are searched; for other datasets there are no leads.
-/

namespace InvoiceReadiness.Matching

/-- The signs that a search looks for. -/
inductive SearchRule where
  | fuzzyDuplicate | invoiceNumberVariant | trnFormatSimilarity
  deriving DecidableEq

def SearchRule.name : SearchRule → String
  | fuzzyDuplicate => "fuzzy_duplicate"
  | invoiceNumberVariant => "invoice_number_variant"
  | trnFormatSimilarity => "trn_format_similarity"

def SearchRule.ofName? (name : String) : Option SearchRule :=
  [fuzzyDuplicate, invoiceNumberVariant, trnFormatSimilarity].find? fun rule => rule.name == name

/-- The parameters of a search where a check does not set them. -/
def defaultParameters : Members :=
  [("vendor_similarity_threshold", .ofFloat (Binary64.decimal 85 2)),
   ("invoice_number_similarity_threshold", .ofFloat (Binary64.decimal 9 1)),
   ("trn_distance_threshold", .ofNat 2),
   ("date_window_days", .ofNat 7),
   ("amount_tolerance", .ofFloat (Binary64.decimal 1 2))]

/-- The confidence and the message of a match. -/
abbrev Match := Binary64 × String

/-- The similarity of the suppliers' names; zero if one has none. -/
def nameSimilarity (a b : Record) : Result Binary64 := do
  let first ← normalized nameForm (a.get "seller_name")
  let second ← normalized nameForm (b.get "seller_name")
  if first.isEmpty || second.isEmpty then return Binary64.zero
  else return similarity first second

/-- One for suppliers with the same registration number, the names' similarity otherwise. -/
def supplierSimilarity (a b : Record) : Result Binary64 := do
  let first ← normalized trnForm (a.get "seller_trn")
  if first.isEmpty then nameSimilarity a b
  else if first == (← normalized trnForm (b.get "seller_trn")) then return fullScore
  else nameSimilarity a b

/-- The similarity of the invoice numbers. -/
def numberSimilarity (a b : Record) : Result Binary64 := do
  let first ← normalized invoiceForm (a.get "invoice_number")
  let second ← normalized invoiceForm (b.get "invoice_number")
  return similarity first second

/-- The date of a cell in any of the supported formats. -/
def dateOf? (v : Value) : Result (Option Date) := do
  if v.isFilled then return Date.ofAnyFormat? (← v.shown) else return none

/-- Whether a score falls short of a threshold. -/
def belowThreshold (x : Binary64) (threshold : Value) : Result Bool := do
  return x.compare? (← threshold.toBinary64) == some .lt

def matchDuplicate (earlier later params : Record) : Result (Option Match) := do
  let vendor ← supplierSimilarity earlier later
  if ← belowThreshold vendor (params.get "vendor_similarity_threshold") then return none
  match (earlier.get "total_incl_vat").toNumber?, (later.get "total_incl_vat").toNumber? with
  | some first, some second => do
    let tolerance ← (params.get "amount_tolerance").toBinary64
    if !(← first.agree second (.float tolerance)) then return none
    match ← dateOf? (earlier.get "issue_date"), ← dateOf? (later.get "issue_date") with
    | some d, some e => do
      let days := e.gap d
      if (← (params.get "date_window_days").toWhole) < days then return none
      let numbers ← numberSimilarity earlier later
      let confidence := ((vendor.add numbers).div (Binary64.ofInt 2)).roundPlaces 2
      let number ← (earlier.get "invoice_number").shown
      let amount ← second.text
      return some (confidence, s!"Possible duplicate of invoice {number}: same supplier, " ++
        s!"amount {amount} and issue dates {days} day(s) apart")
    | _, _ => return none
  | _, _ => return none

/-- The text of a cell without padding; empty if the cell is not filled. -/
def trimmedText (v : Value) : Result String := do
  return trim (← (v.orElse (.text "")).shown)

def matchNumberVariant (earlier later params : Record) : Result (Option Match) := do
  let first ← trimmedText (earlier.get "invoice_number")
  let second ← trimmedText (later.get "invoice_number")
  if first.isEmpty || second.isEmpty || first == second then return none
  let vendor ← supplierSimilarity earlier later
  if ← belowThreshold vendor (params.get "vendor_similarity_threshold") then return none
  let score ← numberSimilarity earlier later
  if ← belowThreshold score (params.get "invoice_number_similarity_threshold") then return none
  return some (score.roundPlaces 2,
    s!"Invoice number '{second}' looks like a variant of '{first}' from the same supplier")

/-- One less the share that a distance has of one more than its threshold. -/
def distanceConfidence (distance : Nat) (threshold : Int) : Result Binary64 := do
  let share ← Number.div (.whole distance) (.whole (threshold + 1))
  let rest ← (← Number.sub (.whole 1) share).toBinary64
  return if rest.compare? Binary64.zero == some .gt then rest else Binary64.zero

def matchTrnFormat (earlier later params : Record) : Result (Option Match) := do
  let first ← trimmedText (earlier.get "seller_trn")
  let second ← trimmedText (later.get "seller_trn")
  if first.isEmpty || second.isEmpty || first == second then return none
  let names ← nameSimilarity earlier later
  if ← belowThreshold names (params.get "vendor_similarity_threshold") then return none
  let threshold ← (params.get "trn_distance_threshold").toWhole
  let distance := editDistance (trnForm first.toList) (trnForm second.toList)
  if threshold < distance then return none
  let confidence ← distanceConfidence distance threshold
  let name ← (later.get "seller_name").shown
  return some (confidence.roundPlaces 2,
    s!"Supplier '{name}' appears with TRN '{second}' and '{first}' (edit distance {distance})")

/-- Whether a pair of invoices shows a sign, the earlier one first. -/
def SearchRule.matches? : SearchRule → Record → Record → Record → Result (Option Match)
  | fuzzyDuplicate => matchDuplicate
  | invoiceNumberVariant => matchNumberVariant
  | trnFormatSimilarity => matchTrnFormat

/-- A lead for a reviewer. -/
structure Lead where
  checkId : Value
  checkName : Value
  datasetType : Value
  later : Record
  earlier : Record
  message : String
  confidence : Binary64

namespace Lead

/-- The lead as an object. -/
def value (lead : Lead) : Value :=
  .object [
    ("check_id", lead.checkId),
    ("check_name", lead.checkName),
    ("dataset_type", lead.datasetType),
    ("invoice_id", lead.later.get "invoice_id"),
    ("invoice_number", lead.later.get "invoice_number"),
    ("counterparty_name", lead.later.get "seller_name"),
    ("message", .text lead.message),
    ("confidence_score", .ofFloat lead.confidence),
    ("matched_invoice_id", lead.earlier.get "invoice_id"),
    ("matched_invoice_number", lead.earlier.get "invoice_number")]

end Lead

/-- The leads on one invoice, from the invoices before it. -/
def leadsOn (rule : SearchRule) (params : Record) (make : Record → Record → Match → Lead)
    (later : Record) (before : List Record) : Result (List Lead) := do
  let found ← before.mapM fun earlier => do
    return (← rule.matches? earlier later params).map (make later earlier)
  return found.filterMap fun lead => lead

/-- The leads on each invoice of a list, after the invoices before them. -/
def leadsAmong (rule : SearchRule) (params : Record) (make : Record → Record → Match → Lead) :
    List Record → List Record → Result (List Lead)
  | _, [] => .ok []
  | before, later :: rest => do
    let here ← leadsOn rule params make later before
    let more ← leadsAmong rule params make (before ++ [later]) rest
    return here ++ more

/-- The parameters of a search: those of the check, and the defaults for the others. -/
def parametersOf (check : Record) : Result Record :=
  match (check.get "parameters").orElse (.object []) with
  | .object given => .ok ⟨given.foldl (fun all p => all.set p.1 p.2) defaultParameters⟩
  | _ => .error .operandKind

/-- The leads of a search check over the invoices of a dataset. -/
def runSearch (check : Value) (data : Dataset) (datasetType : Value) : Result (List Lead) := do
  match datasetType with
  | .text "AP" =>
    let check ← check.record
    let ruleType := check.get "rule_type"
    let _ ← ruleType.key
    let rule? := match ruleType with
      | .text name => SearchRule.ofName? name
      | _ => none
    match rule? with
    | none => return []
    | some rule =>
      let params ← parametersOf check
      let make (later earlier : Record) (found : Match) : Lead := {
        checkId := (check.get "id").orElse ruleType
        checkName := (check.get "name").orElse ruleType
        datasetType, later, earlier
        message := found.2
        confidence := found.1 }
      leadsAmong rule params make [] data.headers
  | _ => return []

end InvoiceReadiness.Matching
