import InvoiceReadiness.Registry

/-!
# The registry of the current release

The fifty data requirements of the release for the second quarter of 2025 that
concern customers in the United Arab Emirates.
-/

namespace InvoiceReadiness.Registry

/-! ## Header -/

def headerFields : List Field := [
  { id := .text "IBT-001"
    term := .text "Invoice number"
    category := .text "Header"
    mandatoryFlag := .text "Mandatory (UC1)"
    cardinality := .text "1..1"
    dataType := .text "Identifier"
    formatPattern := .text "Free text, unique per seller"
    validation := .text "Must be present and unique per seller TRN"
    errorText := .text "Invoice number is missing"
    path := .text "/Invoice/cbc:ID"
    relevance := .text "High"
    vatLawStatus := .text "Existing"
    responsibility := .text "Taxpayer" },
  { id := .text "IBT-002"
    term := .text "Invoice issue date"
    category := .text "Header"
    mandatoryFlag := .text "Mandatory (UC1)"
    cardinality := .text "1..1"
    dataType := .text "Date"
    formatPattern := .text "YYYY-MM-DD (ISO 8601)"
    validation := .text "Valid calendar date"
    errorText := .text "Issue date is missing or not YYYY-MM-DD"
    path := .text "/Invoice/cbc:IssueDate"
    relevance := .text "High"
    vatLawStatus := .text "Existing"
    responsibility := .text "Taxpayer" },
  { id := .text "IBT-003"
    term := .text "Invoice type code"
    category := .text "Header"
    mandatoryFlag := .text "Mandatory (UC1)"
    cardinality := .text "1..1"
    dataType := .text "Code"
    formatPattern := .text "UN/CEFACT 1001 subset (380, 381, 383, 384)"
    validation := .text "Code in UNCL1001 subset"
    errorText := .text "Invoice type code is missing or not allowed"
    path := .text "/Invoice/cbc:InvoiceTypeCode"
    relevance := .text "High"
    vatLawStatus := .text "Existing"
    responsibility := .text "Taxpayer" },
  { id := .text "IBT-005"
    term := .text "Invoice currency code"
    category := .text "Header"
    mandatoryFlag := .text "Mandatory (UC1)"
    cardinality := .text "1..1"
    dataType := .text "Code"
    formatPattern := .text "ISO 4217 alpha-3"
    validation := .text "Code in ISO 4217"
    errorText := .text "Currency code is missing or invalid"
    path := .text "/Invoice/cbc:DocumentCurrencyCode"
    relevance := .text "High"
    vatLawStatus := .text "Existing"
    responsibility := .text "Taxpayer" },
  { id := .text "IBT-009"
    term := .text "Payment due date"
    category := .text "Header"
    mandatoryFlag := .text "Conditional (amount due > 0)"
    cardinality := .text "0..1"
    dataType := .text "Date"
    formatPattern := .text "YYYY-MM-DD (ISO 8601)"
    validation := .text "Not before the issue date"
    errorText := .text "Payment due date is missing or before the issue date"
    path := .text "/Invoice/cbc:DueDate"
    relevance := .text "Medium"
    vatLawStatus := .text "Existing"
    responsibility := .text "Taxpayer" },
  { id := .text "IBT-023"
    term := .text "Business process type"
    category := .text "Header"
    mandatoryFlag := .text "Mandatory (UC1)"
    cardinality := .text "1..1"
    dataType := .text "Text"
    formatPattern := .text "urn:peppol:bis:billing"
    validation := .text "Fixed value"
    derivation := .text "Set by the ASP"
    errorText := .text "Business process type is invalid"
    path := .text "/Invoice/cbc:ProfileID"
    relevance := .text "Low"
    vatLawStatus := .text "New"
    responsibility := .text "ASP" },
  { id := .text "IBT-024"
    term := .text "Specification identifier"
    category := .text "Header"
    mandatoryFlag := .text "Mandatory (UC1)"
    cardinality := .text "1..1"
    dataType := .text "Identifier"
    formatPattern := .text "urn:peppol:pint:billing-1@ae-1"
    validation := .text "Fixed value"
    derivation := .text "Set by the ASP"
    errorText := .text "Specification identifier is invalid"
    path := .text "/Invoice/cbc:CustomizationID"
    relevance := .text "Low"
    vatLawStatus := .text "New"
    responsibility := .text "ASP" }]

/-! ## Seller -/

def sellerFields : List Field := [
  { id := .text "IBT-027"
    term := .text "Seller name"
    category := .text "Seller"
    mandatoryFlag := .text "Mandatory (UC1)"
    cardinality := .text "1..1"
    dataType := .text "Text"
    formatPattern := .text "Free text"
    validation := .text "Must be present"
    errorText := .text "Seller name is missing"
    path := .text "/Invoice/cac:AccountingSupplierParty/cac:Party/cac:PartyLegalEntity/cbc:RegistrationName"
    relevance := .text "High"
    vatLawStatus := .text "Existing"
    responsibility := .text "Taxpayer" },
  { id := .text "IBT-030"
    term := .text "Seller legal registration identifier"
    category := .text "Seller"
    mandatoryFlag := .text "Conditional"
    cardinality := .text "0..1"
    dataType := .text "Identifier"
    formatPattern := .text "Free text"
    validation := .text "Present when the type is given"
    errorText := .text "Seller legal registration identifier is missing"
    path := .text "/Invoice/cac:AccountingSupplierParty/cac:Party/cac:PartyLegalEntity/cbc:CompanyID"
    relevance := .text "Medium"
    vatLawStatus := .text "New"
    responsibility := .text "Taxpayer" },
  { id := .text "IBT-031"
    term := .text "Seller VAT identifier"
    category := .text "Seller"
    mandatoryFlag := .text "Mandatory (UC1)"
    cardinality := .text "1..1"
    dataType := .text "Identifier"
    formatPattern := .text "15 digits"
    validation := .text "Matches ^\\d\x7b15\x7d$"
    errorText := .text "Seller TRN is missing or not 15 digits"
    path := .text "/Invoice/cac:AccountingSupplierParty/cac:Party/cac:PartyTaxScheme/cbc:CompanyID"
    relevance := .text "High"
    vatLawStatus := .text "Existing"
    responsibility := .text "Taxpayer" },
  { id := .text "IBT-031-1"
    term := .text "Seller VAT identifier scheme"
    category := .text "Seller"
    mandatoryFlag := .text "Mandatory (UC1)"
    cardinality := .text "1..1"
    dataType := .text "Code"
    formatPattern := .text "VAT"
    validation := .text "Fixed value"
    derivation := .text "Set by the ASP"
    errorText := .text "Seller VAT scheme is invalid"
    path := .text "/Invoice/cac:AccountingSupplierParty/cac:Party/cac:PartyTaxScheme/cac:TaxScheme/cbc:ID"
    relevance := .text "Low"
    vatLawStatus := .text "New"
    responsibility := .text "ASP" },
  { id := .text "IBT-034"
    term := .text "Seller electronic address"
    category := .text "Seller"
    mandatoryFlag := .text "Mandatory (UC1)"
    cardinality := .text "1..1"
    dataType := .text "Identifier"
    formatPattern := .text "Peppol participant identifier"
    validation := .text "Must be present"
    errorText := .text "Seller electronic address is missing"
    path := .text "/Invoice/cac:AccountingSupplierParty/cac:Party/cbc:EndpointID"
    relevance := .text "High"
    vatLawStatus := .text "New"
    responsibility := .text "Taxpayer" },
  { id := .text "IBT-034-1"
    term := .text "Seller electronic address scheme identifier"
    category := .text "Seller"
    mandatoryFlag := .text "Mandatory (UC1)"
    cardinality := .text "1..1"
    dataType := .text "Code"
    formatPattern := .text "CEF EAS code list"
    validation := .text "Code in EAS"
    derivation := .text "Set by the ASP"
    errorText := .text "Seller endpoint scheme is invalid"
    path := .text "/Invoice/cac:AccountingSupplierParty/cac:Party/cbc:EndpointID/@schemeID"
    relevance := .text "Low"
    vatLawStatus := .text "New"
    responsibility := .text "ASP" },
  { id := .text "IBT-035"
    term := .text "Seller address line 1"
    category := .text "Seller"
    mandatoryFlag := .text "Mandatory (UC1)"
    cardinality := .text "1..1"
    dataType := .text "Text"
    formatPattern := .text "Free text"
    validation := .text "Must be present"
    errorText := .text "Seller address is missing"
    path := .text "/Invoice/cac:AccountingSupplierParty/cac:Party/cac:PostalAddress/cbc:StreetName"
    relevance := .text "Medium"
    vatLawStatus := .text "Existing"
    responsibility := .text "Taxpayer" },
  { id := .text "IBT-037"
    term := .text "Seller city"
    category := .text "Seller"
    mandatoryFlag := .text "Mandatory (UC1)"
    cardinality := .text "1..1"
    dataType := .text "Text"
    formatPattern := .text "Free text"
    validation := .text "Must be present"
    errorText := .text "Seller city is missing"
    path := .text "/Invoice/cac:AccountingSupplierParty/cac:Party/cac:PostalAddress/cbc:CityName"
    relevance := .text "Medium"
    vatLawStatus := .text "Existing"
    responsibility := .text "Taxpayer" },
  { id := .text "IBT-039"
    term := .text "Seller country subdivision"
    category := .text "Seller"
    mandatoryFlag := .text "Mandatory (UC1)"
    cardinality := .text "1..1"
    dataType := .text "Code"
    formatPattern := .text "UAE emirate code (AE-AZ, AE-DU, AE-SH, AE-AJ, AE-UQ, AE-RK, AE-FU)"
    validation := .text "Code in the UAE subdivision list"
    errorText := .text "Seller emirate code is invalid"
    path := .text "/Invoice/cac:AccountingSupplierParty/cac:Party/cac:PostalAddress/cbc:CountrySubentity"
    relevance := .text "Medium"
    vatLawStatus := .text "New"
    responsibility := .text "Taxpayer" },
  { id := .text "IBT-040"
    term := .text "Seller country code"
    category := .text "Seller"
    mandatoryFlag := .text "Mandatory (UC1)"
    cardinality := .text "1..1"
    dataType := .text "Code"
    formatPattern := .text "ISO 3166-1 alpha-2"
    validation := .text "Code in ISO 3166"
    errorText := .text "Seller country code is missing or invalid"
    path := .text "/Invoice/cac:AccountingSupplierParty/cac:Party/cac:PostalAddress/cac:Country/cbc:IdentificationCode"
    relevance := .text "Medium"
    vatLawStatus := .text "Existing"
    responsibility := .text "Taxpayer" }]

/-! ## Buyer -/

def buyerFields : List Field := [
  { id := .text "IBT-044"
    term := .text "Buyer name"
    category := .text "Buyer"
    mandatoryFlag := .text "Mandatory (UC1)"
    cardinality := .text "1..1"
    dataType := .text "Text"
    formatPattern := .text "Free text"
    validation := .text "Must be present"
    errorText := .text "Buyer name is missing"
    path := .text "/Invoice/cac:AccountingCustomerParty/cac:Party/cac:PartyLegalEntity/cbc:RegistrationName"
    relevance := .text "High"
    vatLawStatus := .text "Existing"
    responsibility := .text "Taxpayer" },
  { id := .text "IBT-048"
    term := .text "Buyer VAT identifier"
    category := .text "Buyer"
    mandatoryFlag := .text "Conditional (registered buyer)"
    cardinality := .text "0..1"
    dataType := .text "Identifier"
    formatPattern := .text "15 digits"
    validation := .text "Matches ^\\d\x7b15\x7d$ when present"
    errorText := .text "Buyer TRN is not 15 digits"
    path := .text "/Invoice/cac:AccountingCustomerParty/cac:Party/cac:PartyTaxScheme/cbc:CompanyID"
    relevance := .text "High"
    vatLawStatus := .text "Existing"
    responsibility := .text "Taxpayer" },
  { id := .text "IBT-048-1"
    term := .text "Buyer VAT identifier scheme"
    category := .text "Buyer"
    mandatoryFlag := .text "Conditional"
    cardinality := .text "0..1"
    dataType := .text "Code"
    formatPattern := .text "VAT"
    validation := .text "Fixed value"
    derivation := .text "Set by the ASP"
    errorText := .text "Buyer VAT scheme is invalid"
    path := .text "/Invoice/cac:AccountingCustomerParty/cac:Party/cac:PartyTaxScheme/cac:TaxScheme/cbc:ID"
    relevance := .text "Low"
    vatLawStatus := .text "New"
    responsibility := .text "ASP" },
  { id := .text "IBT-049"
    term := .text "Buyer electronic address"
    category := .text "Buyer"
    mandatoryFlag := .text "Mandatory (UC1)"
    cardinality := .text "1..1"
    dataType := .text "Identifier"
    formatPattern := .text "Peppol participant identifier"
    validation := .text "Must be present"
    errorText := .text "Buyer electronic address is missing"
    path := .text "/Invoice/cac:AccountingCustomerParty/cac:Party/cbc:EndpointID"
    relevance := .text "High"
    vatLawStatus := .text "New"
    responsibility := .text "Taxpayer" },
  { id := .text "IBT-049-1"
    term := .text "Buyer electronic address scheme identifier"
    category := .text "Buyer"
    mandatoryFlag := .text "Mandatory (UC1)"
    cardinality := .text "1..1"
    dataType := .text "Code"
    formatPattern := .text "CEF EAS code list"
    validation := .text "Code in EAS"
    derivation := .text "Set by the ASP"
    errorText := .text "Buyer endpoint scheme is invalid"
    path := .text "/Invoice/cac:AccountingCustomerParty/cac:Party/cbc:EndpointID/@schemeID"
    relevance := .text "Low"
    vatLawStatus := .text "New"
    responsibility := .text "ASP" },
  { id := .text "IBT-050"
    term := .text "Buyer address line 1"
    category := .text "Buyer"
    mandatoryFlag := .text "Mandatory (UC1)"
    cardinality := .text "1..1"
    dataType := .text "Text"
    formatPattern := .text "Free text"
    validation := .text "Must be present"
    errorText := .text "Buyer address is missing"
    path := .text "/Invoice/cac:AccountingCustomerParty/cac:Party/cac:PostalAddress/cbc:StreetName"
    relevance := .text "Medium"
    vatLawStatus := .text "Existing"
    responsibility := .text "Taxpayer" },
  { id := .text "IBT-052"
    term := .text "Buyer city"
    category := .text "Buyer"
    mandatoryFlag := .text "Conditional"
    cardinality := .text "0..1"
    dataType := .text "Text"
    formatPattern := .text "Free text"
    errorText := .text "Buyer city is missing"
    path := .text "/Invoice/cac:AccountingCustomerParty/cac:Party/cac:PostalAddress/cbc:CityName"
    relevance := .text "Low"
    vatLawStatus := .text "Existing"
    responsibility := .text "Taxpayer" },
  { id := .text "IBT-054"
    term := .text "Buyer country subdivision"
    category := .text "Buyer"
    mandatoryFlag := .text "Conditional (UAE buyer)"
    cardinality := .text "0..1"
    dataType := .text "Code"
    formatPattern := .text "UAE emirate code (AE-AZ, AE-DU, AE-SH, AE-AJ, AE-UQ, AE-RK, AE-FU)"
    validation := .text "Code in the UAE subdivision list when present"
    errorText := .text "Buyer emirate code is invalid"
    path := .text "/Invoice/cac:AccountingCustomerParty/cac:Party/cac:PostalAddress/cbc:CountrySubentity"
    relevance := .text "Low"
    vatLawStatus := .text "New"
    responsibility := .text "Taxpayer" },
  { id := .text "IBT-055"
    term := .text "Buyer country code"
    category := .text "Buyer"
    mandatoryFlag := .text "Mandatory (UC1)"
    cardinality := .text "1..1"
    dataType := .text "Code"
    formatPattern := .text "ISO 3166-1 alpha-2"
    validation := .text "Code in ISO 3166"
    errorText := .text "Buyer country code is missing or invalid"
    path := .text "/Invoice/cac:AccountingCustomerParty/cac:Party/cac:PostalAddress/cac:Country/cbc:IdentificationCode"
    relevance := .text "Medium"
    vatLawStatus := .text "Existing"
    responsibility := .text "Taxpayer" }]

/-! ## Payment, totals and tax breakdown -/

def totalsFields : List Field := [
  { id := .text "IBT-081"
    term := .text "Payment means type code"
    category := .text "Payment"
    mandatoryFlag := .text "Conditional"
    cardinality := .text "0..1"
    dataType := .text "Code"
    formatPattern := .text "UNTDID 4461"
    validation := .text "Code in UNCL4461 when present"
    errorText := .text "Payment means code is invalid"
    path := .text "/Invoice/cac:PaymentMeans/cbc:PaymentMeansCode"
    relevance := .text "Low"
    vatLawStatus := .text "Existing"
    responsibility := .text "Taxpayer" },
  { id := .text "IBT-106"
    term := .text "Sum of invoice line net amount"
    category := .text "Totals"
    mandatoryFlag := .text "Mandatory (UC1)"
    cardinality := .text "1..1"
    dataType := .text "Amount"
    formatPattern := .text "Decimal, max 2 places"
    validation := .text "Equals the sum of line net amounts"
    derivation := .text "Sum of IBT-131"
    errorText := .text "Line net sum does not match the header"
    path := .text "/Invoice/cac:LegalMonetaryTotal/cbc:LineExtensionAmount"
    relevance := .text "High"
    vatLawStatus := .text "Existing"
    responsibility := .text "Taxpayer" },
  { id := .text "IBT-109"
    term := .text "Invoice total amount without VAT"
    category := .text "Totals"
    mandatoryFlag := .text "Mandatory (UC1)"
    cardinality := .text "1..1"
    dataType := .text "Amount"
    formatPattern := .text "Decimal, max 2 places"
    validation := .text "Max 2 decimals"
    errorText := .text "Total excluding VAT is missing or malformed"
    path := .text "/Invoice/cac:LegalMonetaryTotal/cbc:TaxExclusiveAmount"
    relevance := .text "High"
    vatLawStatus := .text "Existing"
    responsibility := .text "Taxpayer" },
  { id := .text "IBT-110"
    term := .text "Invoice total VAT amount"
    category := .text "Totals"
    mandatoryFlag := .text "Mandatory (UC1)"
    cardinality := .text "1..1"
    dataType := .text "Amount"
    formatPattern := .text "Decimal, max 2 places"
    validation := .text "Equals the sum of line VAT"
    errorText := .text "VAT total is missing or does not reconcile"
    path := .text "/Invoice/cac:TaxTotal/cbc:TaxAmount"
    relevance := .text "High"
    vatLawStatus := .text "Existing"
    responsibility := .text "Taxpayer" },
  { id := .text "IBT-112"
    term := .text "Invoice total amount with VAT"
    category := .text "Totals"
    mandatoryFlag := .text "Mandatory (UC1)"
    cardinality := .text "1..1"
    dataType := .text "Amount"
    formatPattern := .text "Decimal, max 2 places"
    validation := .text "Equals total without VAT plus VAT"
    errorText := .text "Total including VAT does not reconcile"
    path := .text "/Invoice/cac:LegalMonetaryTotal/cbc:TaxInclusiveAmount"
    relevance := .text "High"
    vatLawStatus := .text "Existing"
    responsibility := .text "Taxpayer" },
  { id := .text "IBT-115"
    term := .text "Amount due for payment"
    category := .text "Totals"
    mandatoryFlag := .text "Mandatory (UC1)"
    cardinality := .text "1..1"
    dataType := .text "Amount"
    formatPattern := .text "Decimal, max 2 places"
    validation := .text "Max 2 decimals"
    errorText := .text "Amount due is missing or malformed"
    path := .text "/Invoice/cac:LegalMonetaryTotal/cbc:PayableAmount"
    relevance := .text "Medium"
    vatLawStatus := .text "Existing"
    responsibility := .text "Taxpayer" },
  { id := .text "IBT-116"
    term := .text "VAT category taxable amount"
    category := .text "Tax breakdown"
    mandatoryFlag := .text "Mandatory (UC1)"
    cardinality := .text "1..n"
    dataType := .text "Amount"
    formatPattern := .text "Decimal, max 2 places"
    validation := .text "Sum of line net amounts per category"
    derivation := .text "Derived from lines"
    errorText := .text "Taxable amount does not reconcile"
    path := .text "/Invoice/cac:TaxTotal/cac:TaxSubtotal/cbc:TaxableAmount"
    relevance := .text "High"
    vatLawStatus := .text "Existing"
    responsibility := .text "Taxpayer" },
  { id := .text "IBT-117"
    term := .text "VAT category tax amount"
    category := .text "Tax breakdown"
    mandatoryFlag := .text "Mandatory (UC1)"
    cardinality := .text "1..n"
    dataType := .text "Amount"
    formatPattern := .text "Decimal, max 2 places"
    validation := .text "Taxable amount x rate"
    derivation := .text "Derived from lines"
    errorText := .text "Category tax amount does not reconcile"
    path := .text "/Invoice/cac:TaxTotal/cac:TaxSubtotal/cbc:TaxAmount"
    relevance := .text "High"
    vatLawStatus := .text "Existing"
    responsibility := .text "Taxpayer" },
  { id := .text "IBT-118"
    term := .text "VAT category code"
    category := .text "Tax breakdown"
    mandatoryFlag := .text "Mandatory (UC1)"
    cardinality := .text "1..n"
    dataType := .text "Code"
    formatPattern := .text "PINT-AE tax category (S, Z, E, RC, O)"
    validation := .text "Code in the tax category list"
    errorText := .text "VAT category code is missing or invalid"
    path := .text "/Invoice/cac:TaxTotal/cac:TaxSubtotal/cac:TaxCategory/cbc:ID"
    relevance := .text "High"
    vatLawStatus := .text "Existing"
    responsibility := .text "Taxpayer" },
  { id := .text "IBT-119"
    term := .text "VAT category rate"
    category := .text "Tax breakdown"
    mandatoryFlag := .text "Mandatory (UC1)"
    cardinality := .text "1..n"
    dataType := .text "Percentage"
    formatPattern := .text "Decimal"
    validation := .text "0 or 5"
    errorText := .text "VAT category rate is invalid"
    path := .text "/Invoice/cac:TaxTotal/cac:TaxSubtotal/cac:TaxCategory/cbc:Percent"
    relevance := .text "High"
    vatLawStatus := .text "Existing"
    responsibility := .text "Taxpayer" }]

/-! ## Lines -/

def lineFields : List Field := [
  { id := .text "IBT-126"
    term := .text "Invoice line identifier"
    category := .text "Line"
    mandatoryFlag := .text "Mandatory (UC1)"
    cardinality := .text "1..1"
    dataType := .text "Identifier"
    formatPattern := .text "Free text, unique per invoice"
    validation := .text "Must be present"
    errorText := .text "Line identifier is missing"
    path := .text "/Invoice/cac:InvoiceLine/cbc:ID"
    relevance := .text "Medium"
    vatLawStatus := .text "Existing"
    responsibility := .text "Taxpayer" },
  { id := .text "IBT-129"
    term := .text "Invoiced quantity"
    category := .text "Line"
    mandatoryFlag := .text "Mandatory (UC1)"
    cardinality := .text "1..1"
    dataType := .text "Quantity"
    formatPattern := .text "Decimal"
    validation := .text "Must be present"
    errorText := .text "Quantity is missing"
    path := .text "/Invoice/cac:InvoiceLine/cbc:InvoicedQuantity"
    relevance := .text "Medium"
    vatLawStatus := .text "Existing"
    responsibility := .text "Taxpayer" },
  { id := .text "IBT-130"
    term := .text "Invoiced quantity unit of measure code"
    category := .text "Line"
    mandatoryFlag := .text "Mandatory (UC1)"
    cardinality := .text "1..1"
    dataType := .text "Code"
    formatPattern := .text "UN/ECE Recommendation 20"
    validation := .text "Code in UNECERec20"
    errorText := .text "Unit of measure is missing"
    path := .text "/Invoice/cac:InvoiceLine/cbc:InvoicedQuantity/@unitCode"
    relevance := .text "Low"
    vatLawStatus := .text "Existing"
    responsibility := .text "Taxpayer" },
  { id := .text "IBT-131"
    term := .text "Invoice line net amount"
    category := .text "Line"
    mandatoryFlag := .text "Mandatory (UC1)"
    cardinality := .text "1..1"
    dataType := .text "Amount"
    formatPattern := .text "Decimal, max 2 places"
    validation := .text "Quantity x unit price minus discount"
    errorText := .text "Line net amount does not reconcile"
    path := .text "/Invoice/cac:InvoiceLine/cbc:LineExtensionAmount"
    relevance := .text "High"
    vatLawStatus := .text "Existing"
    responsibility := .text "Taxpayer" },
  { id := .text "IBT-146"
    term := .text "Item net price"
    category := .text "Line"
    mandatoryFlag := .text "Mandatory (UC1)"
    cardinality := .text "1..1"
    dataType := .text "Unit price amount"
    formatPattern := .text "Decimal"
    validation := .text "Must be present"
    errorText := .text "Unit price is missing"
    path := .text "/Invoice/cac:InvoiceLine/cac:Price/cbc:PriceAmount"
    relevance := .text "Medium"
    vatLawStatus := .text "Existing"
    responsibility := .text "Taxpayer" },
  { id := .text "IBT-148"
    term := .text "Item gross price"
    category := .text "Line"
    mandatoryFlag := .text "Conditional"
    cardinality := .text "0..1"
    dataType := .text "Unit price amount"
    formatPattern := .text "Decimal"
    derivation := .text "Defaults to the net price"
    errorText := .text "Gross price is malformed"
    path := .text "/Invoice/cac:InvoiceLine/cac:Price/cac:AllowanceCharge/cbc:BaseAmount"
    relevance := .text "Low"
    vatLawStatus := .text "Existing"
    responsibility := .text "Taxpayer" },
  { id := .text "IBT-149"
    term := .text "Item price base quantity"
    category := .text "Line"
    mandatoryFlag := .text "Conditional"
    cardinality := .text "0..1"
    dataType := .text "Quantity"
    formatPattern := .text "Decimal"
    derivation := .text "Set by the ASP (default 1)"
    errorText := .text "Base quantity is invalid"
    path := .text "/Invoice/cac:InvoiceLine/cac:Price/cbc:BaseQuantity"
    relevance := .text "Low"
    vatLawStatus := .text "Existing"
    responsibility := .text "ASP" },
  { id := .text "IBT-151"
    term := .text "Invoiced item VAT category code"
    category := .text "Line"
    mandatoryFlag := .text "Mandatory (UC1)"
    cardinality := .text "1..1"
    dataType := .text "Code"
    formatPattern := .text "PINT-AE tax category (S, Z, E, RC, O)"
    validation := .text "Code in the tax category list"
    errorText := .text "Line VAT category code is invalid"
    path := .text "/Invoice/cac:InvoiceLine/cac:Item/cac:ClassifiedTaxCategory/cbc:ID"
    relevance := .text "High"
    vatLawStatus := .text "Existing"
    responsibility := .text "Taxpayer" },
  { id := .text "IBT-152"
    term := .text "Invoiced item VAT rate"
    category := .text "Line"
    mandatoryFlag := .text "Mandatory (UC1)"
    cardinality := .text "1..1"
    dataType := .text "Percentage"
    formatPattern := .text "Decimal"
    validation := .text "0 or 5"
    errorText := .text "Line VAT rate is invalid"
    path := .text "/Invoice/cac:InvoiceLine/cac:Item/cac:ClassifiedTaxCategory/cbc:Percent"
    relevance := .text "High"
    vatLawStatus := .text "Existing"
    responsibility := .text "Taxpayer" },
  { id := .text "IBT-153"
    term := .text "Item name"
    category := .text "Line"
    mandatoryFlag := .text "Mandatory (UC1)"
    cardinality := .text "1..1"
    dataType := .text "Text"
    formatPattern := .text "Free text"
    validation := .text "Must be present"
    errorText := .text "Item name is missing"
    path := .text "/Invoice/cac:InvoiceLine/cac:Item/cbc:Name"
    relevance := .text "Medium"
    vatLawStatus := .text "Existing"
    responsibility := .text "Taxpayer" },
  { id := .text "IBT-154"
    term := .text "Item description"
    category := .text "Line"
    mandatoryFlag := .text "Conditional"
    cardinality := .text "0..1"
    dataType := .text "Text"
    formatPattern := .text "Free text"
    path := .text "/Invoice/cac:InvoiceLine/cac:Item/cbc:Description"
    relevance := .text "Low"
    vatLawStatus := .text "Existing"
    responsibility := .text "Taxpayer" }]

/-! ## Extensions of the country -/

def extensionFields : List Field := [
  { id := .text "BTUAE-02"
    term := .text "Invoice transaction type code"
    category := .text "Header"
    mandatoryFlag := .text "Mandatory (UC1)"
    cardinality := .text "1..1"
    dataType := .text "Code"
    formatPattern := .text "8-character binary flag string"
    validation := .text "Must be present"
    errorText := .text "Transaction type code is missing"
    path := .text "/Invoice/cbc:InvoiceTypeCode/@name"
    relevance := .text "High"
    vatLawStatus := .text "New"
    responsibility := .text "Taxpayer" },
  { id := .text "BTUAE-08"
    term := .text "Invoice line VAT amount"
    category := .text "Line"
    mandatoryFlag := .text "Mandatory (UC1)"
    cardinality := .text "1..1"
    dataType := .text "Amount"
    formatPattern := .text "Decimal, max 2 places"
    validation := .text "Line net amount x VAT rate"
    errorText := .text "Line VAT amount does not reconcile"
    path := .text "/Invoice/cac:InvoiceLine/cac:ItemPriceExtension/cac:TaxTotal/cbc:TaxAmount"
    relevance := .text "High"
    vatLawStatus := .text "New"
    responsibility := .text "Taxpayer" },
  { id := .text "BTUAE-15"
    term := .text "Seller legal registration identifier type"
    category := .text "Seller"
    mandatoryFlag := .text "Conditional"
    cardinality := .text "0..1"
    dataType := .text "Code"
    formatPattern := .text "TL, EID, PAS, CD"
    validation := .text "Code in the ID type list"
    errorText := .text "Legal registration type is invalid"
    path := .text "/Invoice/cac:AccountingSupplierParty/cac:Party/cac:PartyLegalEntity/cbc:CompanyID/@schemeAgencyName"
    relevance := .text "Low"
    vatLawStatus := .text "New"
    responsibility := .text "Taxpayer" }]

/-- The registry of the current release. -/
def current : Registry where
  specId := "urn:peppol:pint:billing-1@ae-1"
  version := "2025-Q2"
  description :=
    "UAE PINT-AE customer Data Requirements for the standard B2B tax invoice (UC1)"
  effectiveDate := "2025-07-01"
  fields := headerFields ++ sellerFields ++ buyerFields ++
    totalsFields ++ lineFields ++ extensionFields

end InvoiceReadiness.Registry
