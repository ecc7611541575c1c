import InvoiceReadiness.Text.Case
import InvoiceReadiness.Text.Occurrence
import InvoiceReadiness.Value

/-!
# Fields of the registry

The registry of a release lists the data requirements that concern a customer. A
field of the registry describes one of them. The registry is a file that may have
been edited by hand, so what it says about a requirement is data of any kind; a
cell that is absent or null is an empty text.
-/

namespace InvoiceReadiness

/-- What the registry says about one data requirement. -/
structure Registry.Field where
  id : Value
  term : Value
  category : Value := .text ""
  /-- For which use cases the requirement is mandatory. -/
  mandatoryFlag : Value := .text ""
  /-- How often the requirement occurs in an invoice. -/
  cardinality : Value := .text ""
  dataType : Value := .text ""
  formatPattern : Value := .text ""
  validation : Value := .text ""
  derivation : Value := .text ""
  errorText : Value := .text ""
  /-- Where the requirement is found in an invoice document. -/
  path : Value := .text ""
  relevance : Value := .text ""
  vatLawStatus : Value := .text ""
  /-- Who supplies the requirement. -/
  responsibility : Value := .text ""

namespace Registry.Field

/-- A cell that describes a requirement; an empty text if it is absent or null. -/
def cellOf (entry : Record) (name : String) : Value :=
  match entry.get name with
  | .null => .text ""
  | v => v

/-- The field that an entry describes; it has to state an identifier and a term. -/
def ofRecord (entry : Record) : Result Field :=
  if !entry.has "dr_id" || !entry.has "business_term" then .error .missingAttribute
  else .ok {
    id := cellOf entry "dr_id"
    term := cellOf entry "business_term"
    category := cellOf entry "category"
    mandatoryFlag := cellOf entry "mandatory_flag_by_use_case"
    cardinality := cellOf entry "pint_ae_cardinality"
    dataType := cellOf entry "data_type"
    formatPattern := cellOf entry "format_pattern"
    validation := cellOf entry "validation_logic"
    derivation := cellOf entry "derivation_logic"
    errorText := cellOf entry "error_message_text"
    path := cellOf entry "ubl_xml_path"
    relevance := cellOf entry "mls_relevance"
    vatLawStatus := cellOf entry "vat_law_status"
    responsibility := cellOf entry "data_responsibility" }

/-- The field as an object. -/
def value (f : Field) : Value :=
  .object [
    ("dr_id", f.id),
    ("business_term", f.term),
    ("category", f.category),
    ("mandatory_flag_by_use_case", f.mandatoryFlag),
    ("pint_ae_cardinality", f.cardinality),
    ("data_type", f.dataType),
    ("format_pattern", f.formatPattern),
    ("validation_logic", f.validation),
    ("derivation_logic", f.derivation),
    ("error_message_text", f.errorText),
    ("ubl_xml_path", f.path),
    ("mls_relevance", f.relevance),
    ("vat_law_status", f.vatLawStatus),
    ("data_responsibility", f.responsibility)]

/-- Mandatory are requirements that occur at least once and are flagged so. -/
def isMandatory (f : Field) : Result Bool := do
  let cardinality ← f.cardinality.asText
  if cardinality.toList.head? != some '1' then return false
  let flag ← f.mandatoryFlag.asText
  return textOccursIn "mandatory" (lower flag)

end Registry.Field

end InvoiceReadiness
