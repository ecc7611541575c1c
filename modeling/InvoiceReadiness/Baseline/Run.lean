import InvoiceReadiness.Baseline.Basic

/-!
# Running the baseline checks

A check alone passes its faults on. A run of all checks keeps them apart: a
check that meets a fault reports nothing, and the others are not affected.
-/

namespace InvoiceReadiness.Baseline

/-- The text of a cell without a value. -/
def emptyText : Value := .text "(empty)"

/-! ## Buyers -/

def buyerTrnMissing (data : Dataset) : Result (List Finding) :=
  collect data.buyers fun buyer => do
    let trn := buyer.get "buyer_trn"
    if !(← trn.isBlank) then return none
    let name ← (buyer.get "buyer_name").shown
    let id ← (buyer.get "buyer_id").shown
    return some (Check.buyerTrnMissing.report s!"Buyer \"{name}\" (ID: {id}) is missing TRN"
      { Coordinates.nowhere with buyerId := buyer.get "buyer_id" } (.text "buyer_trn") .null
      (trn.orElse emptyText))

def buyerTrnFormat (data : Dataset) : Result (List Finding) :=
  collect data.buyers fun buyer => do
    let trn := buyer.get "buyer_trn"
    if ← trn.isBlank then return none
    if ← trn.isTrn then return none
    let name ← (buyer.get "buyer_name").shown
    let text ← trn.shown
    return some (Check.buyerTrnFormat.report s!"Buyer \"{name}\" has invalid TRN format: {text}"
      { Coordinates.nowhere with buyerId := buyer.get "buyer_id" } (.text "buyer_trn")
      (.text "15-digit number") trn)

/-! ## Headers -/

/-- What makes two headers the same invoice: the seller and the number, as text. -/
def invoiceKey (header : Record) : Result String := do
  let seller ← (header.get "seller_trn").shown
  let number ← (header.get "invoice_number").shown
  return s!"{seller}|{number}"

/-- Headers of the same invoice, in the order of the first of each. -/
def sameInvoices (headers : List Record) : Result (Index (List Record)) :=
  headers.foldlM (fun index header => do
    let key ← invoiceKey header
    return index.alter (.text key) (.text key) fun group => group.getD [] ++ [header])
    Index.empty

def duplicateNumber (data : Dataset) : Result (List Finding) := do
  let groups ← sameInvoices data.headers
  let found ← groups.entries.mapM fun entry => do
    let count := entry.value.length
    if count < 2 then return []
    entry.value.mapM fun header => do
      let number ← (header.get "invoice_number").shown
      let seller ← (header.get "seller_trn").shown
      return Check.duplicateNumber.report
        s!"Duplicate invoice number \"{number}\" for seller {seller}"
        { Coordinates.ofHeader header with buyerId := .null } (.text "invoice_number") .null
        (.text s!"{count} occurrences")
  return found.flatten

def headerTotals (data : Dataset) : Result (List Finding) :=
  collect data.headers fun header => do
    match (header.get "total_incl_vat").toNumber?, (header.get "total_excl_vat").toNumber?,
        (header.get "vat_total").toNumber? with
    | some incl, some excl, some vat =>
      let expected ← excl.add vat
      if ← incl.agree expected (.float monetaryTolerance) then return none
      let number ← (header.get "invoice_number").shown
      let inclText ← incl.text
      let exclText ← excl.text
      let vatText ← vat.text
      let message := s!"Invoice {number}: total_incl_vat ({inclText}) != " ++
        s!"total_excl_vat ({exclText}) + vat_total ({vatText})"
      return some (Check.headerTotals.report message (Coordinates.ofHeader header)
        (.text "total_incl_vat") (.number expected) (.number incl))
    | _, _, _ => return none

/-- The cells that every header must have. -/
def mandatoryCells : List String :=
  ["invoice_id", "invoice_number", "issue_date", "seller_trn", "currency"]

def mandatoryFields (data : Dataset) : Result (List Finding) := do
  let found ← data.headers.mapM fun header =>
    mandatoryCells.filterMapM fun cell => do
      let v := header.get cell
      if !(← v.isBlank) then return none
      let label ← ((header.get "invoice_number").orElse (header.get "invoice_id")).shown
      return some (Check.mandatoryFields.report
        s!"Invoice {label}: missing mandatory field \"{cell}\"" (Coordinates.ofHeader header)
        (.text cell) (.text "non-empty value") (v.orElse emptyText))
  return found.flatten

/-! ## Lines -/

def lineTotals (data : Dataset) : Result (List Finding) :=
  collect data.lines fun line => do
    match (line.get "quantity").toNumber?, (line.get "unit_price").toNumber?,
        (line.get "line_total_excl_vat").toNumber? with
    | some quantity, some price, some total =>
      let discount := (line.get "line_discount").amount
      let expected ← (← quantity.mul price).sub discount
      if ← total.agree expected (.float monetaryTolerance) then return none
      let number ← (line.get "line_number").shown
      let totalText ← total.text
      let quantityText ← quantity.text
      let priceText ← price.text
      let discountText ← discount.text
      let message := s!"Line {number}: line_total_excl_vat ({totalText}) != " ++
        s!"({quantityText} * {priceText}) - {discountText}"
      return some (Check.lineTotals.report message (← data.coordinates line)
        (.text "line_total_excl_vat") (.number expected) (.number total))
    | _, _, _ => return none

def vatCalculation (data : Dataset) : Result (List Finding) :=
  collect data.lines fun line => do
    match (line.get "line_total_excl_vat").toNumber?, (line.get "vat_rate").toNumber?,
        (line.get "vat_amount").toNumber? with
    | some total, some rate, some vat =>
      let expected ← total.mul (← rate.div (.whole 100))
      if ← vat.agree expected (.float monetaryTolerance) then return none
      let number ← (line.get "line_number").shown
      let vatText ← vat.text
      let totalText ← total.text
      let rateText ← rate.text
      let message := s!"Line {number}: vat_amount ({vatText}) != " ++
        s!"line_total_excl_vat ({totalText}) * vat_rate/100 ({rateText}/100)"
      let place ← data.coordinates line
      return some (Check.vatCalculation.report message place (.text "vat_amount")
        (.text (← expected.fixedText 2)) (.number vat))
    | _, _, _ => return none

def negativeTotal (data : Dataset) : Result (List Finding) :=
  collect data.lines fun line => do
    match (line.get "line_total_excl_vat").toNumber? with
    | none => return none
    | some total =>
      if Number.zero.le total then return none
      match ← data.headerFor line with
      | none => return none
      | some header =>
        if (header.get "invoice_type").same (.text "CREDIT_NOTE") then return none
        let type := (header.get "invoice_type").orElse (.text "not specified")
        let number ← (line.get "line_number").shown
        let totalText ← total.text
        let typeText ← type.shown
        let message := s!"Line {number} has negative total ({totalText}) " ++
          s!"but invoice type is \"{typeText}\""
        return some (Check.negativeTotal.report message (← data.coordinates line)
          (.text "line_total_excl_vat") (.text "CREDIT_NOTE invoice type") type)

/-! ## Across files -/

def buyerNotFound (data : Dataset) : Result (List Finding) :=
  collect data.headers fun header => do
    let buyerId := header.get "buyer_id"
    let place := { Coordinates.ofHeader header with buyerId := .null }
    if ← buyerId.isBlank then
      let number ← (header.get "invoice_number").shown
      return some (Check.buyerNotFound.report s!"Invoice {number}: buyer_id is missing" place
        (.text "buyer_id") .null emptyText)
    else if data.buyerIndex.has (← buyerId.key) then return none
    else
      let number ← (header.get "invoice_number").shown
      let text ← buyerId.shown
      return some (Check.buyerNotFound.report
        s!"Invoice {number}: buyer_id \"{text}\" not found in buyers file"
        { place with buyerId } (.text "buyer_id") .null buyerId)

/-- Whether a rate equals none of the others; a not-a-number never equals another. -/
private def isNewRate (rate : Option Number) (others : List (Option Number)) : Bool :=
  match rate with
  | none => !others.any Option.isNone
  | some n => !others.any fun other => other.any (n.eq ·)

/-- The number of different VAT rates among lines, no rate at all being one of them. -/
def countRates : List (Option Number) → Nat
  | [] => 0
  | rate :: rest => (if isNewRate rate rest then 1 else 0) + countRates rest

/-- Whether two lines have equal rates, or neither has one. -/
def sameRate : Option Number → Option Number → Bool
  | none, none => true
  | some m, some n => m.eq n
  | _, _ => false

def mixedVatRates (data : Dataset) : Result (List Finding) :=
  collect data.headers fun header => do
    let lines ← data.linesFor (header.get "invoice_id")
    let rates := countRates (lines.map fun line => (line.get "vat_rate").toNumber?)
    let taxable := lines.any fun line =>
      Number.zero.lt ((line.get "line_total_excl_vat").amount)
    let vatTotal := (header.get "vat_total").amount
    if rates < 2 || !taxable || vatTotal.isNonzero then return none
    let number ← (header.get "invoice_number").shown
    let vatText ← vatTotal.text
    let message := s!"Invoice {number} has {rates} different " ++
      s!"VAT rates but vat_total is {vatText}"
    return some (Check.mixedVatRates.report message (Coordinates.ofHeader header) (.text "vat_total")
      (.text "non-zero when multiple VAT rates exist") (.number vatTotal))

/-! ## Runs -/

/-- The findings of a check. -/
def Check.run : Check → Dataset → Result (List Finding)
  | buyerTrnMissing => Baseline.buyerTrnMissing
  | buyerTrnFormat => Baseline.buyerTrnFormat
  | duplicateNumber => Baseline.duplicateNumber
  | headerTotals => Baseline.headerTotals
  | lineTotals => Baseline.lineTotals
  | vatCalculation => Baseline.vatCalculation
  | negativeTotal => Baseline.negativeTotal
  | buyerNotFound => Baseline.buyerNotFound
  | mandatoryFields => Baseline.mandatoryFields
  | mixedVatRates => Baseline.mixedVatRates

/-- The tally of one check in a run. -/
structure Outcome where
  check : Check
  /-- The records of the category less the findings; negative if a record has several. -/
  passed : Int
  findings : List Finding

/-- The outcome as an object. -/
def Outcome.value (o : Outcome) : Value :=
  .object [
    ("check_id", .text o.check.id),
    ("check_name", .text o.check.name),
    ("severity", .text o.check.severity.name),
    ("passed", .ofInt o.passed),
    ("failed", .ofNat o.findings.length),
    ("exceptions", .list (o.findings.map Finding.value))]

/-- The outcome of a check; a fault counts as no findings. -/
def Check.outcome (check : Check) (data : Dataset) : Outcome :=
  let findings := (check.run data).toOption.getD []
  { check
    passed := ((data.records check.category.kind).length : Int) - findings.length
    findings }

/-- The outcomes of all baseline checks. -/
def runAll (data : Dataset) : List Outcome :=
  Check.all.map fun check => check.outcome data

end InvoiceReadiness.Baseline
