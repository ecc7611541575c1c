import InvoiceReadiness.Pint.AmountProcedures

/-!
# Procedures on invoice lines

A case about a line names the line and, through its header, the invoice and the
parties.
-/

namespace InvoiceReadiness.Pint

/-- The start of a message about a line: the invoice by the line's place, and the line. -/
def lineLabel (place : Coordinates) (line : Record) : Result String := do
  let invoice ← place.invoiceNumber.shown
  let number ← (line.get "line_number").shown
  return s!"Invoice {invoice}, Line {number}"

/-- The tax of a line must be its amount times its rate in percent. -/
def lineVat : Procedure := fun task => do
  let tolerance ← toleranceOf task
  collect task.data.lines fun line => do
    match (line.get "line_total_excl_vat").toNumber?, (line.get "vat_rate").toNumber?,
        (line.get "vat_amount").toNumber? with
    | some base, some rate, some vat =>
      let expected ← base.mul (← rate.div (.whole 100))
      if ← vat.agree expected tolerance then return none
      let place ← linePlace task.data line
      let vatText ← vat.text
      let baseText ← base.text
      let rateText ← rate.text
      let expectedText ← expected.fixedText 2
      let label ← lineLabel place line
      return some (← task.report {
        place
        field := .text "vat_amount"
        observed := vatText
        expected := s!"{baseText} x ({rateText}/100) = {expectedText}"
        message := s!"{label}: VAT amount ({vatText}) != Base x Rate/100 ({expectedText})" })
    | _, _, _ => return none

/-- The amount of a line must be its quantity times its price, less its discount. -/
def lineNet : Procedure := fun task => do
  let tolerance ← toleranceOf task
  collect task.data.lines fun line => do
    match (line.get "quantity").toNumber?, (line.get "unit_price").toNumber?,
        (line.get "line_total_excl_vat").toNumber? with
    | some quantity, some price, some total =>
      let discount := (line.get "line_discount").amount
      let expected ← (← quantity.mul price).sub discount
      if ← total.agree expected tolerance then return none
      let place ← linePlace task.data line
      let totalText ← total.text
      let quantityText ← quantity.text
      let priceText ← price.text
      let discountText ← discount.text
      let expectedText ← expected.fixedText 2
      let label ← lineLabel place line
      return some (← task.report {
        place
        field := .text "line_total_excl_vat"
        observed := totalText
        expected := s!"({quantityText} x {priceText}) - {discountText} = {expectedText}"
        message :=
          s!"{label}: Net amount ({totalText}) != (Qty x Price) - Discount ({expectedText})" })
    | _, _, _ => return none

/-- An invoice must have lines. -/
def hasLines : Procedure := fun task =>
  collect task.data.headers fun header => do
    if !(← task.data.linesFor (header.get "invoice_id")).isEmpty then return none
    let number ← numberText header
    let message := s!"Invoice {number}: No line items found. " ++
      "At least one line is required."
    return some (← task.report {
      place := .ofHeader header
      field := .text "lines"
      observed := "0 lines"
      expected := "≥1 line"
      message })

/-- A line must have a number. -/
def lineNumber : Procedure := fun task =>
  collect task.data.lines fun line => do
    if !(← (line.get "line_number").isBlank) then return none
    let place ← linePlace task.data line
    let label ← (place.invoiceNumber.orElse (line.get "invoice_id")).shown
    return some (← task.report {
      place
      field := .text "line_number"
      observed := emptyText
      expected := "Unique line identifier"
      message := s!"Invoice {label}, Line: Missing line identifier" })

/-- A line must have a quantity. -/
def lineQuantity : Procedure := fun task =>
  collect task.data.lines fun line => do
    if !(line.get "quantity").isNull then return none
    let place ← linePlace task.data line
    let label ← lineLabel place line
    return some (← task.report {
      place
      field := .text "quantity"
      observed := emptyText
      expected := "Numeric quantity"
      message := s!"{label}: Missing quantity" })

end InvoiceReadiness.Pint
