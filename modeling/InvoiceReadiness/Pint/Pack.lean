import InvoiceReadiness.Numeric.Tolerance
import InvoiceReadiness.Pint.CodeList
import InvoiceReadiness.Severity

/-!
# The check pack for standard tax invoices

Thirty-seven checks for the standard tax invoice between businesses. Each names
the data requirements of the specification that it enforces; which requirement
is covered by which check is derived from those names. The parameters are the
inputs of the procedure that the check runs.
-/

namespace InvoiceReadiness.Pint

/-- What a check of the pack is about. -/
inductive Scope where
  | header | lines | party | cross
  deriving DecidableEq

def Scope.name : Scope → String
  | header => "Header"
  | lines => "Lines"
  | party => "Party"
  | cross => "Cross"

/-- What kind of rule a check of the pack enforces. -/
inductive RuleType where
  | presence | format | codeList | math | dependency | crossCheck
  deriving DecidableEq

def RuleType.name : RuleType → String
  | presence => "Presence"
  | format => "Format"
  | codeList => "CodeList"
  | math => "Math"
  | dependency => "Dependency"
  | crossCheck => "CrossCheck"

/-- A check of the pack. -/
structure PackCheck where
  id : String
  name : String
  description : String
  scope : Scope
  ruleType : RuleType
  severity : Severity
  /-- The data requirements that the check enforces. -/
  terms : List String
  owner : String
  suggestedFix : String
  parameters : Members

/-- The use case that the pack is for. -/
def useCase : String := "UAE B2B Standard Invoice"

/-- The check as an object, the form in which checks are run and listed. -/
def PackCheck.record (check : PackCheck) : Record := ⟨[
  ("use_case", .text useCase),
  ("is_enabled", .bool true),
  ("parameters", .object check.parameters),
  ("check_id", .text check.id),
  ("check_name", .text check.name),
  ("description", .text check.description),
  ("scope", .text check.scope.name),
  ("rule_type", .text check.ruleType.name),
  ("severity", .text check.severity.name),
  ("pint_reference_terms", .list (check.terms.map Value.text)),
  ("owner_team_default", .text check.owner),
  ("suggested_fix", .text check.suggestedFix)]⟩

/-! ## Invoice headers -/

/-- The checks of this part of the pack. -/
def headerChecks : List PackCheck := [
  { id := "UAE-UC1-CHK-001"
    name := "Invoice Number Present"
    description := "Every invoice must carry an invoice number."
    scope := .header
    ruleType := .presence
    severity := .critical
    terms := ["IBT-001"]
    owner := "Client Finance"
    suggestedFix := "Populate invoice_number from the billing system document number."
    parameters := [("field", .text "invoice_number")] },
  { id := "UAE-UC1-CHK-002"
    name := "Issue Date Present"
    description := "Every invoice must carry an issue date."
    scope := .header
    ruleType := .presence
    severity := .critical
    terms := ["IBT-002"]
    owner := "Client Finance"
    suggestedFix := "Populate issue_date for every invoice."
    parameters := [("field", .text "issue_date")] },
  { id := "UAE-UC1-CHK-003"
    name := "Issue Date Format"
    description := "Issue date must be an ISO 8601 calendar date (YYYY-MM-DD)."
    scope := .header
    ruleType := .format
    severity := .high
    terms := ["IBT-002"]
    owner := "Client IT"
    suggestedFix := "Export dates as YYYY-MM-DD."
    parameters := [("field", .text "issue_date"),
      ("pattern", .text "^\\d\x7b4\x7d-\\d\x7b2\x7d-\\d\x7b2\x7d$")] },
  { id := "UAE-UC1-CHK-004"
    name := "Invoice Type Code Present"
    description := "Invoice type code must be provided."
    scope := .header
    ruleType := .presence
    severity := .critical
    terms := ["IBT-003", "BTUAE-02"]
    owner := "Client Finance"
    suggestedFix := "Set invoice_type (e.g. 380 for a tax invoice, 381 for a credit note)."
    parameters := [("field", .text "invoice_type")] },
  { id := "UAE-UC1-CHK-005"
    name := "Invoice Currency Present"
    description := "Invoice currency code must be provided."
    scope := .header
    ruleType := .presence
    severity := .critical
    terms := ["IBT-005"]
    owner := "Client Finance"
    suggestedFix := "Populate currency with an ISO 4217 code."
    parameters := [("field", .text "currency")] },
  { id := "UAE-UC1-CHK-006"
    name := "Invoice Currency in ISO 4217"
    description := "Invoice currency must come from the ISO 4217 code list."
    scope := .header
    ruleType := .codeList
    severity := .high
    terms := ["IBT-005"]
    owner := "Client IT"
    suggestedFix := "Map internal currency codes to ISO 4217."
    parameters := [("field", .text "currency"), ("codelist", .text "ISO4217")] },
  { id := "UAE-UC1-CHK-007"
    name := "Tax Accounting Currency is AED"
    description := "VAT must be accounted in AED; required when the invoice currency is not AED."
    scope := .header
    ruleType := .dependency
    severity := .high
    terms := ["IBT-006"]
    owner := "Client Finance"
    suggestedFix := "Set tax_currency to AED on foreign-currency invoices."
    parameters := [("tax_currency", .text "AED")] },
  { id := "UAE-UC1-CHK-008"
    name := "FX Rate for Foreign Currency"
    description := "A positive exchange rate is required when the invoice currency is not AED."
    scope := .header
    ruleType := .dependency
    severity := .high
    terms := ["IBT-007"]
    owner := "Client Finance"
    suggestedFix := "Provide fx_rate to AED for every non-AED invoice."
    parameters := [("currency_field", .text "currency"), ("fx_field", .text "fx_rate"),
      ("base_currency", .text "AED")] },
  { id := "UAE-UC1-CHK-009"
    name := "Payment Due Date"
    description := "Due date is required when an amount is due and cannot precede the issue date."
    scope := .header
    ruleType := .dependency
    severity := .medium
    terms := ["IBT-009", "IBT-115"]
    owner := "Client Finance"
    suggestedFix := "Populate payment_due_date on or after issue_date."
    parameters := [] },
  { id := "UAE-UC1-CHK-010"
    name := "Specification Identifier"
    description := "Specification identifier must be the PINT-AE billing identifier."
    scope := .header
    ruleType := .format
    severity := .high
    terms := ["IBT-024"]
    owner := "ASP Ops"
    suggestedFix := "ASP sets spec_id to urn:peppol:pint:billing-1@ae-1."
    parameters := [("field", .text "spec_id"),
      ("pattern", .text "^urn:peppol:pint:billing-1@ae-1$")] },
  { id := "UAE-UC1-CHK-011"
    name := "Business Process Type"
    description := "Business process type must be an allowed Peppol process identifier."
    scope := .header
    ruleType := .codeList
    severity := .medium
    terms := ["IBT-023"]
    owner := "ASP Ops"
    suggestedFix := "ASP sets business_process to urn:peppol:bis:billing."
    parameters := [("field", .text "business_process"),
      ("allowed_values", .list [.text "urn:peppol:bis:billing"])] }]

/-! ## Sellers and buyers -/

/-- The checks of this part of the pack. -/
def partyChecks : List PackCheck := [
  { id := "UAE-UC1-CHK-012"
    name := "Seller Name Present"
    description := "Seller legal name must be provided."
    scope := .header
    ruleType := .presence
    severity := .critical
    terms := ["IBT-027"]
    owner := "Client Finance"
    suggestedFix := "Populate seller_name from the entity master."
    parameters := [("field", .text "seller_name")] },
  { id := "UAE-UC1-CHK-013"
    name := "Seller TRN Format"
    description := "Seller TRN must be a 15-digit UAE tax registration number."
    scope := .header
    ruleType := .format
    severity := .critical
    terms := ["IBT-031"]
    owner := "Client Finance"
    suggestedFix := "Correct the seller TRN to the 15 digits on the FTA certificate."
    parameters := [("field", .text "seller_trn"), ("pattern", .text "^\\d\x7b15\x7d$")] },
  { id := "UAE-UC1-CHK-014"
    name := "Seller Electronic Address"
    description := "Seller Peppol endpoint must be provided."
    scope := .header
    ruleType := .presence
    severity := .high
    terms := ["IBT-034"]
    owner := "ASP Ops"
    suggestedFix := "Register the seller endpoint and populate seller_electronic_address."
    parameters := [("field", .text "seller_endpoint")] },
  { id := "UAE-UC1-CHK-015"
    name := "Seller Postal Address"
    description := "Seller street, city and country must be provided."
    scope := .header
    ruleType := .presence
    severity := .high
    terms := ["IBT-035", "IBT-037", "IBT-040"]
    owner := "Client Finance"
    suggestedFix := "Complete the seller address in the entity master."
    parameters := [
      ("fields", .list [.text "seller_street", .text "seller_city", .text "seller_country"])] },
  { id := "UAE-UC1-CHK-016"
    name := "Seller Emirate Subdivision"
    description := "Seller subdivision must be a UAE emirate code."
    scope := .header
    ruleType := .codeList
    severity := .medium
    terms := ["IBT-039"]
    owner := "Client Finance"
    suggestedFix := "Use one of AE-AZ, AE-AJ, AE-FU, AE-SH, AE-DU, AE-RK, AE-UQ."
    parameters := [("field", .text "seller_subdivision"),
      ("allowed_values", .list (subdivisionCodes.map Value.text))] },
  { id := "UAE-UC1-CHK-017"
    name := "Buyer Name Present"
    description := "Buyer legal name must be provided."
    scope := .party
    ruleType := .presence
    severity := .critical
    terms := ["IBT-044"]
    owner := "Buyer-side"
    suggestedFix := "Populate buyer_name in the customer master."
    parameters := [("field", .text "buyer_name")] },
  { id := "UAE-UC1-CHK-018"
    name := "Buyer TRN Format"
    description := "Buyer TRN, when given, must be 15 digits."
    scope := .party
    ruleType := .format
    severity := .high
    terms := ["IBT-048"]
    owner := "Buyer-side"
    suggestedFix := "Confirm the buyer TRN against the FTA register."
    parameters := [("field", .text "buyer_trn"), ("pattern", .text "^\\d\x7b15\x7d$")] },
  { id := "UAE-UC1-CHK-019"
    name := "Buyer Electronic Address"
    description := "Buyer Peppol endpoint must be provided."
    scope := .party
    ruleType := .presence
    severity := .high
    terms := ["IBT-049"]
    owner := "Buyer-side"
    suggestedFix := "Look up the buyer endpoint in the Peppol directory."
    parameters := [("field", .text "buyer_endpoint")] },
  { id := "UAE-UC1-CHK-020"
    name := "Buyer Postal Address"
    description := "Buyer address and country must be provided."
    scope := .party
    ruleType := .presence
    severity := .medium
    terms := ["IBT-050", "IBT-055"]
    owner := "Buyer-side"
    suggestedFix := "Complete the buyer address in the customer master."
    parameters := [("fields", .list [.text "buyer_address", .text "buyer_country"])] }]

/-! ## Totals and tax -/

/-- The checks of this part of the pack. -/
def totalsChecks : List PackCheck := [
  { id := "UAE-UC1-CHK-021"
    name := "Sum of Line Net Amounts"
    description := "Header total without VAT must equal the sum of line net amounts."
    scope := .cross
    ruleType := .math
    severity := .critical
    terms := ["IBT-106", "IBT-109", "IBT-131"]
    owner := "Client IT"
    suggestedFix := "Recompute header totals from the exported lines."
    parameters := [("tolerance", .ofFloat monetaryTolerance)] },
  { id := "UAE-UC1-CHK-022"
    name := "Total Without VAT Precision"
    description := "Total without VAT may carry at most 2 decimals."
    scope := .header
    ruleType := .format
    severity := .medium
    terms := ["IBT-109"]
    owner := "Client IT"
    suggestedFix := "Round monetary amounts to 2 decimals before export."
    parameters := [("field", .text "total_excl_vat"), ("max_decimals", .ofNat 2)] },
  { id := "UAE-UC1-CHK-023"
    name := "VAT Total Precision"
    description := "VAT total may carry at most 2 decimals."
    scope := .header
    ruleType := .format
    severity := .medium
    terms := ["IBT-110"]
    owner := "Client IT"
    suggestedFix := "Round monetary amounts to 2 decimals before export."
    parameters := [("field", .text "vat_total"), ("max_decimals", .ofNat 2)] },
  { id := "UAE-UC1-CHK-024"
    name := "Total With VAT Precision"
    description := "Total with VAT may carry at most 2 decimals."
    scope := .header
    ruleType := .format
    severity := .medium
    terms := ["IBT-112"]
    owner := "Client IT"
    suggestedFix := "Round monetary amounts to 2 decimals before export."
    parameters := [("field", .text "total_incl_vat"), ("max_decimals", .ofNat 2)] },
  { id := "UAE-UC1-CHK-025"
    name := "Total With VAT Equals Net Plus VAT"
    description := "Total with VAT must equal total without VAT plus VAT total."
    scope := .header
    ruleType := .math
    severity := .critical
    terms := ["IBT-109", "IBT-110", "IBT-112"]
    owner := "Client IT"
    suggestedFix := "Recompute total_incl_vat as total_excl_vat + vat_total."
    parameters := [("tolerance", .ofFloat monetaryTolerance)] },
  { id := "UAE-UC1-CHK-026"
    name := "Amount Due Precision"
    description := "Amount due for payment may carry at most 2 decimals."
    scope := .header
    ruleType := .format
    severity := .low
    terms := ["IBT-115"]
    owner := "Client IT"
    suggestedFix := "Round monetary amounts to 2 decimals before export."
    parameters := [("field", .text "amount_due"), ("max_decimals", .ofNat 2)] },
  { id := "UAE-UC1-CHK-027"
    name := "Tax Breakdown Present"
    description := "Invoices with a taxable amount need at least one tax category breakdown."
    scope := .cross
    ruleType := .dependency
    severity := .high
    terms := ["IBG-23", "IBT-118", "IBT-119"]
    owner := "Client Finance"
    suggestedFix := "Provide tax_category_code and rate at header or line level."
    parameters := [] },
  { id := "UAE-UC1-CHK-028"
    name := "Line VAT Calculation"
    description := "Line VAT amount must equal line net amount times VAT rate."
    scope := .lines
    ruleType := .math
    severity := .high
    terms := ["IBT-152", "BTUAE-08", "IBT-131"]
    owner := "Client IT"
    suggestedFix := "Recompute vat_amount as line_total_excl_vat * vat_rate / 100."
    parameters := [("tolerance", .ofFloat monetaryTolerance)] },
  { id := "UAE-UC1-CHK-029"
    name := "VAT Total Equals Line VAT Sum"
    description := "Header VAT total must equal the sum of line VAT amounts."
    scope := .cross
    ruleType := .math
    severity := .critical
    terms := ["IBT-110", "IBT-117", "BTUAE-08"]
    owner := "Client IT"
    suggestedFix := "Recompute vat_total from the exported lines."
    parameters := [("tolerance", .ofFloat monetaryTolerance)] }]

/-! ## Invoice lines and code lists -/

/-- The checks of this part of the pack. -/
def lineChecks : List PackCheck := [
  { id := "UAE-UC1-CHK-030"
    name := "Invoice Has Lines"
    description := "Every invoice must have at least one line."
    scope := .cross
    ruleType := .presence
    severity := .critical
    terms := ["IBG-25", "IBT-126"]
    owner := "Client IT"
    suggestedFix := "Include the invoice lines in the lines file."
    parameters := [] },
  { id := "UAE-UC1-CHK-031"
    name := "Line Identifier Present"
    description := "Every line must carry a line identifier."
    scope := .lines
    ruleType := .presence
    severity := .high
    terms := ["IBT-126"]
    owner := "Client IT"
    suggestedFix := "Number lines sequentially within each invoice."
    parameters := [] },
  { id := "UAE-UC1-CHK-032"
    name := "Invoiced Quantity Present"
    description := "Every line must carry an invoiced quantity."
    scope := .lines
    ruleType := .presence
    severity := .high
    terms := ["IBT-129"]
    owner := "Client Finance"
    suggestedFix := "Populate quantity for every line."
    parameters := [] },
  { id := "UAE-UC1-CHK-033"
    name := "Unit of Measure Present"
    description := "Every line must carry a unit of measure code."
    scope := .lines
    ruleType := .presence
    severity := .medium
    terms := ["IBT-130"]
    owner := "Client IT"
    suggestedFix := "Map internal units to UN/ECE Rec 20 codes (e.g. EA, C62)."
    parameters := [("field", .text "unit_of_measure")] },
  { id := "UAE-UC1-CHK-034"
    name := "Line Net Amount Formula"
    description := "Line net amount must equal quantity times price minus discount."
    scope := .lines
    ruleType := .math
    severity := .high
    terms := ["IBT-131", "IBT-129", "IBT-146"]
    owner := "Client IT"
    suggestedFix := "Recompute line_total_excl_vat from quantity, unit_price and line_discount."
    parameters := [("tolerance", .ofFloat monetaryTolerance)] },
  { id := "UAE-UC1-CHK-035"
    name := "Payment Means Code"
    description := "Payment means code must come from UNTDID 4461."
    scope := .header
    ruleType := .codeList
    severity := .medium
    terms := ["IBT-081"]
    owner := "Client Finance"
    suggestedFix := "Map payment terms to UNTDID 4461 codes (e.g. 30 credit transfer)."
    parameters := [("field", .text "payment_means_code"), ("codelist", .text "UNCL4461")] },
  { id := "UAE-UC1-CHK-036"
    name := "Line Tax Category Code"
    description := "Line tax category must be one of S, Z, E, O, RC."
    scope := .lines
    ruleType := .codeList
    severity := .high
    terms := ["IBT-151"]
    owner := "Client Finance"
    suggestedFix := "Map VAT treatments to UAE tax category codes."
    parameters := [("field", .text "tax_category_code"), ("codelist", .text "TaxCategory")] },
  { id := "UAE-UC1-CHK-037"
    name := "Invoice Type Code List"
    description := "Invoice type code must come from UNTDID 1001."
    scope := .header
    ruleType := .codeList
    severity := .high
    terms := ["IBT-003"]
    owner := "Client Finance"
    suggestedFix := "Use 380 (tax invoice), 381 (credit note) or another UNTDID 1001 code."
    parameters := [("field", .text "invoice_type"), ("codelist", .text "UNCL1001")] }]

/-- The pack, in the order in which its checks are run. -/
def pack : List PackCheck :=
  headerChecks ++ partyChecks ++ totalsChecks ++ lineChecks

/-- The check with an identifier. -/
def check? (id : String) : Option PackCheck :=
  pack.find? fun check => check.id == id

end InvoiceReadiness.Pint
