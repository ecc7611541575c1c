import InvoiceReadiness.Pint.HeaderProcedures

/-!
# Procedures on amounts

Totals are compared within the tolerance of the check. A total that is absent
counts as zero where it is held against a sum of lines; where an equation of
three amounts is checked, the equation is passed over if one of them is absent.
-/

namespace InvoiceReadiness.Pint

/-- The tolerance that the parameters give, or else the one for money. -/
def toleranceOf (task : Task) : Result Number := do
  match (← task.parameter "tolerance").toNumber? with
  | some n => return if n.isNonzero then n else .float monetaryTolerance
  | none => return .float monetaryTolerance

/-- What there is to say about the totals of one header. -/
def totalsCase (task : Task) (tolerance : Number) (header : Record) :
    Result (Option Case) := do
  match (header.get "total_incl_vat").toNumber?, (header.get "total_excl_vat").toNumber?,
      (header.get "vat_total").toNumber? with
  | some incl, some excl, some vat =>
    let expected ← excl.add vat
    if ← incl.agree expected tolerance then return none
    let inclText ← incl.text
    let expectedText ← expected.text
    let number ← numberText header
    let exclText ← excl.text
    let vatText ← vat.text
    let message := s!"Invoice {number}: Total with VAT ({inclText}) ≠ " ++
      s!"Excl VAT ({exclText}) + VAT ({vatText})"
    return some (← task.report {
      place := .ofHeader header
      field := .text "total_incl_vat"
      observed := inclText
      expected := expectedText
      message })
  | _, _, _ => return none

/-- The total with tax must be the total without tax and the tax. -/
def headerTotals : Procedure := fun task => do
  let tolerance ← toleranceOf task
  collect task.data.headers (totalsCase task tolerance)

/-- The sum of a column over the lines of a header. -/
def sumOfLines (data : Dataset) (header : Record) (column : String) : Result Number := do
  let lines ← data.linesFor (header.get "invoice_id")
  Number.sum (lines.map fun line => (line.get column).amount)

/-- The total without tax must be the sum over the lines. -/
def lineNetSum : Procedure := fun task => do
  let tolerance ← toleranceOf task
  collect task.data.headers fun header => do
    let sum ← sumOfLines task.data header "line_total_excl_vat"
    let total := (header.get "total_excl_vat").amount
    if ← sum.agree total tolerance then return none
    let totalText ← total.text
    let sumText ← sum.fixedText 2
    let number ← numberText header
    let message := s!"Invoice {number}: Header total ({totalText}) " ++
      s!"does not match sum of lines ({sumText})"
    return some (← task.report {
      place := .ofHeader header
      field := .text "total_excl_vat"
      observed := totalText
      expected := s!"Sum of lines: {sumText}"
      message })

/-- The tax of an invoice must be the sum over the lines. -/
def lineVatSum : Procedure := fun task => do
  let tolerance ← toleranceOf task
  collect task.data.headers fun header => do
    let sum ← sumOfLines task.data header "vat_amount"
    let total := (header.get "vat_total").amount
    if ← sum.agree total tolerance then return none
    let totalText ← total.text
    let sumText ← sum.fixedText 2
    let number ← numberText header
    let message := s!"Invoice {number}: VAT total ({totalText}) " ++
      s!"does not match sum of line VAT amounts ({sumText})"
    return some (← task.report {
      place := .ofHeader header
      field := .text "vat_total"
      observed := totalText
      expected := s!"Sum of line VAT: {sumText}"
      message })

/-- An amount must not have more decimal places than the parameters allow. -/
def maxDecimals : Procedure := fun task => do
  let field ← task.parameter "field"
  let limit ← task.parameter "max_decimals"
  if !field.isFilled || limit.isNull then return []
  collect task.data.headers fun header => do
    let v ← header.resolveAt field
    if v.isNull then return none
    let decimals ← countDecimals v
    match limit.number? with
    | none => throw .operandKind
    | some most =>
      if (Number.whole decimals).le most then return none
      let text ← v.shown
      let limitText ← limit.shown
      let number ← numberText header
      let name ← field.shown
      let message := s!"Invoice {number}: Field \"{name}\" has {decimals} " ++
        s!"decimal places, maximum allowed is {limitText}"
      return some (← task.report {
        place := .ofHeader header
        field
        observed := s!"{text} ({decimals} decimals)"
        expected := s!"Max {limitText} decimals"
        message })

/-- Whether a record states a tax category and its rate. -/
def statesTax (r : Record) (rateColumn : String) : Result Bool := do
  if ← (r.get "tax_category_code").isBlank then return false
  return !(r.get rateColumn).isNull

/-- An invoice with something to tax must state its tax categories. -/
def taxBreakdown : Procedure := fun task =>
  collect task.data.headers fun header => do
    let lines ← task.data.linesFor (header.get "invoice_id")
    let byHeader ← statesTax header "tax_category_rate"
    let byLine ← lines.anyM fun line => statesTax line "vat_rate"
    let taxable := Number.zero.lt (header.get "total_excl_vat").amount ||
      lines.any fun line => Number.zero.lt (line.get "line_total_excl_vat").amount
    if !taxable || byHeader || byLine then return none
    let number ← numberText header
    return some (← task.report {
      place := .ofHeader header
      field := .text "tax_breakdown"
      observed := "missing"
      expected := "At least one tax category breakdown"
      message := s!"Invoice {number}: Missing tax breakdown details (category/rate)" })

end InvoiceReadiness.Pint
