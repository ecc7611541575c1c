import InvoiceReadiness.Calendar.Iso
import InvoiceReadiness.Pattern.Reader
import InvoiceReadiness.Pattern.Search
import InvoiceReadiness.Pint.Case
import InvoiceReadiness.Pint.CodeList
import InvoiceReadiness.Pint.Field
import InvoiceReadiness.Trn

/-!
# Procedures on invoice headers

Each procedure walks through the headers in their order. A cell without a value
is reported by the procedures for presence alone; the others pass it over.
-/

namespace InvoiceReadiness.Pint

/-- The number of an invoice in messages. -/
def numberText (header : Record) : Result String :=
  (header.get "invoice_number").shown

/-- Open a case about a header without a value in a field. -/
def reportAbsent (task : Task) (header : Record) (field : Value) (message : String) :
    Result Case :=
  task.report {
    place := .ofHeader header
    field
    observed := emptyText
    expected := requiredText
    message }

/-- The field of the parameters must have a value. -/
def headerPresence : Procedure := fun task => do
  let field ← task.parameter "field"
  if !field.isFilled then return []
  collect task.data.headers fun header => do
    if !(← (← header.resolveAt field).isBlank) then return none
    let label ← ((header.get "invoice_number").orElse (header.get "invoice_id")).shown
    let name ← field.shown
    return some (← reportAbsent task header field
      s!"Invoice {label}: Missing required field \"{name}\"")

/-- The pattern that a parameter writes; none if it is no pattern. -/
def patternOf (source : Value) : Result (Option Pattern) :=
  match source with
  | .text s =>
    match Pattern.ofText s with
    | .ok pattern => .ok (some pattern)
    | .error .invalid => .ok none
    | .error (.fault cause) => .error cause
  | _ => .error .operandKind

/-- The field of the parameters must match the pattern of the parameters. -/
def headerPattern : Procedure := fun task => do
  let field ← task.parameter "field"
  let source ← task.parameter "pattern"
  if !field.isFilled || !source.isFilled then return []
  match ← patternOf source with
  | none => return []
  | some pattern =>
    collect task.data.headers fun header => do
      let v ← header.resolveAt field
      if ← v.isBlank then return none
      let text ← v.shown
      if pattern.foundIn text then return none
      let expected ← source.shown
      let number ← numberText header
      let name ← field.shown
      let message := s!"Invoice {number}: Field \"{name}\" format invalid. " ++
        s!"Expected pattern: {expected}"
      return some (← task.report {
        place := .ofHeader header
        field
        observed := text
        expected := s!"Match pattern: {expected}"
        message })

/-- The currency of an invoice must be a code of the list of currencies. -/
def currencyCode : Procedure := fun task => do
  let field := (← task.parameter "field").orElse (.text "currency")
  collect task.data.headers fun header => do
    let v ← header.resolveAt field
    if ← v.isBlank then return none
    if ← isCodeIn (.text "ISO4217") v then return none
    let text ← v.shown
    let number ← numberText header
    let message := s!"Invoice {number}: Currency \"{text}\" " ++
      "is not in the official PINT-AE ISO4217 codelist"
    return some (← task.report {
      place := .ofHeader header
      field
      observed := text
      expected := "Valid ISO4217 code from PINT-AE codelist"
      message })

/-- The text of a filled cell, empty otherwise. -/
def filledText (v : Value) : Result String :=
  (v.orElse (.text "")).shown

/--
Tax is accounted for in the base currency: an invoice in another currency has to
name it, and no invoice may name another.
-/
def taxCurrency : Procedure := fun task => do
  let base := upper (← ((← task.parameter "tax_currency").orElse (.text "AED")).shown)
  collect task.data.headers fun header => do
    let currency := upper (← filledText (header.get "currency"))
    let given := upper (trim (← filledText (header.get "tax_currency")))
    let openCase (observed message : String) : Result (Option Case) := do
      return some (← task.report {
        place := .ofHeader header
        field := .text "tax_currency"
        observed
        expected := base
        message })
    if currency != base && given == "" then
      let number ← numberText header
      openCase emptyText (s!"Invoice {number}: Tax accounting currency must be {base} " ++
        s!"when invoice currency is {currency}")
    else if given != "" && given != base then
      let number ← numberText header
      openCase given
        s!"Invoice {number}: Tax accounting currency \"{given}\" must be {base}"
    else return none

/-- An invoice in another currency than the base needs a positive exchange rate. -/
def exchangeRate : Procedure := fun task => do
  let currencyField ← canonical ((← task.parameter "currency_field").orElse (.text "currency"))
  let rateField ← canonical ((← task.parameter "fx_field").orElse (.text "fx_rate"))
  let base := upper (← ((← task.parameter "base_currency").orElse (.text "AED")).shown)
  collect task.data.headers fun header => do
    let currency := upper (trim (← filledText (← header.resolveAt currencyField)))
    if currency == "" || currency == base then return none
    let rate ← header.resolveAt rateField
    if rate.toNumber?.any Number.zero.lt then return none
    let observed ← if rate.isNull then pure emptyText else rate.shown
    let number ← numberText header
    let message := s!"Invoice {number}: FX rate is required " ++
      s!"when currency is {currency} (base {base})"
    return some (← task.report {
      place := .ofHeader header
      field := rateField
      observed
      expected := "Positive FX rate"
      message })

/-- The number of the day that a cell writes; none if its text is no date. -/
def dayOf? (v : Value) : Option Nat :=
  v.shown.toOption.bind isoOrdinalOfCell?

/-- A payment is due on a stated day if there is something to pay. -/
def dueDateStated (task : Task) (header : Record) : Result (Option Case) := do
  let due := header.get "payment_due_date"
  let amount := (header.get "amount_due").amount
  if !Number.zero.lt amount then return none
  if !(← due.isBlank) then return none
  let number ← numberText header
  let amountText ← amount.text
  let message := s!"Invoice {number}: Payment due date is required " ++
    s!"because amount due is {amountText}"
  return some (← task.report {
    place := .ofHeader header
    field := .text "payment_due_date"
    observed := emptyText
    expected := "Required when amount_due > 0"
    message })

/-- A payment is not due before the invoice is issued. -/
def dueDateLateEnough (task : Task) (header : Record) : Result (Option Case) := do
  let due := header.get "payment_due_date"
  let issue := header.get "issue_date"
  if ← due.isBlank then return none
  if ← issue.isBlank then return none
  match dayOf? issue, dayOf? due with
  | some issueDay, some dueDay =>
    if issueDay ≤ dueDay then return none
    let dueText ← due.shown
    let issueText ← issue.shown
    let number ← numberText header
    let message := s!"Invoice {number}: Payment due date ({dueText}) cannot be " ++
      s!"earlier than issue date ({issueText})"
    return some (← task.report {
      place := .ofHeader header
      field := .text "payment_due_date"
      observed := dueText
      expected := s!"On or after issue date {issueText}"
      message })
  | _, _ => return none

/-- The due date of a payment is stated where needed, and no earlier than the issue date. -/
def paymentDueDate : Procedure := fun task => do
  let found ← task.data.headers.mapM fun header => do
    let stated ← dueDateStated task header
    let late ← dueDateLateEnough task header
    return stated.toList ++ late.toList
  return found.flatten

/--
A field must hold one of the values that the parameters allow. The field may be
one that the service provider derives, so its absence is no matter here.
-/
def allowedValues (defaultField label : String) : Procedure := fun task => do
  let field ← canonical ((← task.parameter "field").orElse (.text defaultField))
  match ← task.parameter "allowed_values" with
  | .list (v :: more) =>
    let allowed ← (v :: more).mapM Value.shown
    collect task.data.headers fun header => do
      let v ← header.resolveAt field
      if ← v.isBlank then return none
      let text ← v.shown
      if allowed.contains text then return none
      let number ← numberText header
      return some (← task.report {
        place := .ofHeader header
        field
        observed := text
        expected := ", ".intercalate allowed
        message := s!"Invoice {number}: Invalid {label} \"{text}\"" })
  | _ => return []

/-- The seller's tax registration number must have fifteen digits. -/
def sellerTrn : Procedure := fun task =>
  collect task.data.headers fun header => do
    let trn := header.get "seller_trn"
    if ← trn.isBlank then return none
    if ← trn.isTrn then return none
    let text ← trn.shown
    let number ← numberText header
    let message := s!"Invoice {number}: Seller TRN \"{text}\" " ++
      "does not match UAE 15-digit format"
    return some (← task.report {
      place := .ofHeader header
      field := .text "seller_trn"
      observed := text
      expected := "15-digit number"
      message })

/-- The fields that the parameters list, or else the given ones. -/
def listedFields (task : Task) (defaults : List String) : Result (List Value) := do
  match ← task.parameter "fields" with
  | .list fields => fields.mapM canonical
  | _ => return defaults.map Value.text

/-- The parts of the seller's address must have values. -/
def sellerAddress : Procedure := fun task => do
  let fields ← listedFields task ["seller_address", "seller_city", "seller_country"]
  let found ← task.data.headers.mapM fun header =>
    fields.filterMapM fun field => do
      if !(← (← header.resolveAt field).isBlank) then return none
      let number ← numberText header
      let name ← field.shown
      return some (← reportAbsent task header field
        s!"Invoice {number}: Missing seller field \"{name}\"")
  return found.flatten

end InvoiceReadiness.Pint
