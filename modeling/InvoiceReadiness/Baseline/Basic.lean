import InvoiceReadiness.Dataset.Finding
import InvoiceReadiness.Numeric.Tolerance
import InvoiceReadiness.Severity
import InvoiceReadiness.Trn

/-!
# The baseline checks

Ten checks are part of every run. Each looks at the buyers, the headers or the
lines of a dataset and reports findings in their order. Amounts that are absent
or no numbers are passed over by the checks that compute with them; that they
are missing is reported by the checks for presence.
-/

namespace InvoiceReadiness

namespace Baseline

/-- The baseline checks, in the order in which they are run. -/
inductive Check where
  | buyerTrnMissing
  | buyerTrnFormat
  | duplicateNumber
  | headerTotals
  | lineTotals
  | vatCalculation
  | negativeTotal
  | buyerNotFound
  | mandatoryFields
  | mixedVatRates
  deriving DecidableEq

/-- What a check counts its passes against. -/
inductive Category where
  | buyer | header | line | crossFile
  deriving DecidableEq

def Category.name : Category → String
  | buyer => "buyer"
  | header => "header"
  | line => "line"
  | crossFile => "cross-file"

/-- The records that a category counts. -/
def Category.kind : Category → RecordKind
  | buyer => .buyers
  | header => .headers
  | line => .lines
  | crossFile => .headers

namespace Check

def all : List Check :=
  [buyerTrnMissing, buyerTrnFormat, duplicateNumber, headerTotals, lineTotals, vatCalculation,
    negativeTotal, buyerNotFound, mandatoryFields, mixedVatRates]

def id : Check → String
  | buyerTrnMissing => "buyer_trn_missing"
  | buyerTrnFormat => "buyer_trn_invalid_format"
  | duplicateNumber => "duplicate_invoice_number"
  | headerTotals => "header_totals_mismatch"
  | lineTotals => "line_totals_mismatch"
  | vatCalculation => "vat_calc_mismatch"
  | negativeTotal => "negative_without_credit_note"
  | buyerNotFound => "buyer_not_found"
  | mandatoryFields => "missing_mandatory_fields"
  | mixedVatRates => "mixed_vat_rates_no_total"

def name : Check → String
  | buyerTrnMissing => "Buyer TRN Missing"
  | buyerTrnFormat => "Buyer TRN Invalid Format"
  | duplicateNumber => "Duplicate Invoice Number"
  | headerTotals => "Header Totals Mismatch"
  | lineTotals => "Line Totals Mismatch"
  | vatCalculation => "VAT Calculation Mismatch"
  | negativeTotal => "Negative Value Without Credit Note"
  | buyerNotFound => "Buyer ID Missing or Not Found"
  | mandatoryFields => "Missing Mandatory Header Fields"
  | mixedVatRates => "Mixed VAT Rates Without VAT Total"

def description : Check → String
  | buyerTrnMissing => "Checks if buyer TRN is present in the buyers file"
  | buyerTrnFormat => "Validates TRN format (15 digits for UAE)"
  | duplicateNumber => "Checks for duplicate invoice numbers per seller TRN"
  | headerTotals => "Validates total_incl_vat = total_excl_vat + vat_total"
  | lineTotals => "Validates line_total_excl_vat = (quantity * unit_price) - line_discount"
  | vatCalculation => "Validates vat_amount = line_total_excl_vat * vat_rate"
  | negativeTotal => "Flags negative line totals on non-credit note invoices"
  | buyerNotFound => "Validates buyer_id exists and is found in buyers file"
  | mandatoryFields =>
    "Checks for required fields: invoice_id, invoice_number, issue_date, seller_trn, currency"
  | mixedVatRates =>
    "Warns when invoice has multiple VAT rates but vat_total is missing or zero"

def severity : Check → Severity
  | buyerTrnFormat => .high
  | lineTotals => .high
  | vatCalculation => .high
  | mixedVatRates => .medium
  | _ => .critical

def category : Check → Category
  | buyerTrnMissing => .buyer
  | buyerTrnFormat => .buyer
  | lineTotals => .line
  | vatCalculation => .line
  | negativeTotal => .line
  | buyerNotFound => .crossFile
  | mixedVatRates => .crossFile
  | _ => .header

def ofId? (id : String) : Option Check :=
  all.find? fun check => check.id == id

end Check

/-- The check as an object. -/
def Check.value (check : Check) : Value :=
  .object [
    ("id", .text check.id),
    ("name", .text check.name),
    ("description", .text check.description),
    ("severity", .text check.severity.name),
    ("category", .text check.category.name)]

/-- The finding of a baseline check. -/
def Check.report (check : Check) (message : String) (place : Coordinates)
    (field expected actual : Value) : Finding :=
  { checkId := .text check.id
    checkName := .text check.name
    severity := .text check.severity.name
    message, place, field, expected, actual }

end Baseline

end InvoiceReadiness
