import InvoiceReadiness.Dataset

/-!
# Findings

What a check reports: which check found it, where, and what it expected. The
name and severity of a check may come from a configuration, and the cells from
a record, so they are data of any kind.
-/

namespace InvoiceReadiness

/-- One finding of a check. -/
structure Finding where
  checkId : Value
  checkName : Value
  severity : Value
  message : String
  place : Coordinates
  field : Value := .null
  expected : Value := .null
  actual : Value := .null
  ruleId : Value := .null
  direction : Value := .null

namespace Finding

/-- The finding as an object. -/
def value (f : Finding) : Value :=
  .object [
    ("check_id", f.checkId),
    ("check_name", f.checkName),
    ("severity", f.severity),
    ("message", .text f.message),
    ("invoice_id", f.place.invoiceId),
    ("invoice_number", f.place.invoiceNumber),
    ("seller_trn", f.place.sellerTrn),
    ("buyer_id", f.place.buyerId),
    ("line_id", f.place.lineId),
    ("line_number", f.place.lineNumber),
    ("field", f.field),
    ("expected_value", f.expected),
    ("actual_value", f.actual),
    ("rule_id", f.ruleId),
    ("direction", f.direction)]

end Finding

end InvoiceReadiness
