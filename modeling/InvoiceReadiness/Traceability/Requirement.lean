import InvoiceReadiness.Registry.Field
import InvoiceReadiness.Traceability.Columns
import InvoiceReadiness.Value.Key

/-!
# Data requirements

A data requirement as the traceability of a release sees it: what the registry
says about it, and which columns of which file supply it.
-/

namespace InvoiceReadiness.Traceability

/-- A data requirement with its source. -/
structure Requirement where
  id : Value
  term : Value
  /-- The file that supplies the requirement, if there is one. -/
  file : Option String
  columns : List String
  mandatory : Bool
  dataType : Value
  formatPattern : Value
  /-- The list that the codes of the requirement are taken from. -/
  codeList : Option String
  category : Value
  vatLawStatus : Value
  responsibility : Value
  /-- Where the requirement is found in an invoice document. -/
  reference : Value
  /-- Whether the service provider derives the requirement. -/
  derived : Bool

/-- Words in a format that name a code list, and the label of the list. -/
def codeListWords : List (List String × String) :=
  [(["iso 4217"], "ISO 4217"),
   (["iso 3166"], "ISO 3166-1"),
   (["iso 8601"], "ISO 8601"),
   (["un/cefact 1001", "untdid 1001"], "UN/CEFACT 1001"),
   (["untdid 4461", "uncl4461"], "UNTDID 4461"),
   (["un/ece", "unece"], "UN/ECE Rec 20"),
   (["cef eas"], "CEF EAS"),
   (["s, z, e, rc"], "PINT-AE Tax Category"),
   (["tl, eid, pas, cd"], "BTUAE-15 ID Types"),
   (["auh, dxb", "ae-az"], "UAE Emirates")]

/-- The code list that a format names; the first in the order of `codeListWords` counts. -/
def codeListOf (format : Value) : Result (Option String) := do
  let text := lower (← (format.orElse (.text "")).asText)
  let named := codeListWords.find? fun entry =>
    entry.1.any fun word => textOccursIn word text
  return named.map Prod.snd

/-- Whether a description of who is responsible mentions the service provider. -/
def mentionsProvider (responsibility : Value) : Result Bool :=
  responsibility.holds (.text "ASP")

/-- The source of a requirement, where its identifier is itself data. -/
def sourceOf (id : Value) : Result (Option Source) := do
  let _ ← id.key
  match id with
  | .text s => return source? s
  | _ => return none

namespace Requirement

/-- The requirement that a field of the registry describes. -/
def ofField (f : Registry.Field) : Result Requirement := do
  let source ← sourceOf f.id
  let mandatory ← f.isMandatory
  let codeList ← codeListOf f.formatPattern
  let derived ←
    match f.id with
    | .text s => if isDerived s then pure true else mentionsProvider f.responsibility
    | _ => mentionsProvider f.responsibility
  return {
    id := f.id
    term := f.term
    file := source.map fun s => s.file.name
    columns := (source.map Source.columns).getD []
    mandatory
    dataType := f.dataType
    formatPattern := f.formatPattern
    codeList
    category := f.category
    vatLawStatus := f.vatLawStatus
    responsibility := f.responsibility
    reference := f.path.orElse (.text "")
    derived }

/-- The requirement as an object. -/
def value (r : Requirement) : Value :=
  .object [
    ("dr_id", r.id),
    ("business_term", r.term),
    ("dataset_file", .ofText? r.file),
    ("internal_column_names", .list (r.columns.map Value.text)),
    ("mandatory_for_default_use_case", .bool r.mandatory),
    ("data_type", r.dataType),
    ("format_pattern", r.formatPattern),
    ("code_list_reference", .ofText? r.codeList),
    ("category", r.category),
    ("vat_law_status", r.vatLawStatus),
    ("data_responsibility", r.responsibility),
    ("pint_ae_reference", r.reference),
    ("asp_derived", .bool r.derived)]

/-- The file that supplies the requirement; an empty name is none. -/
def supplier (r : Requirement) : Option String :=
  r.file.filter fun file => file != ""

/-- The columns of the requirement's file that are read. -/
def readColumns (r : Requirement) : List String :=
  ((r.supplier.bind kindOfFile?).map knownColumns).getD []

/-- Whether a column of a template supplies the requirement. -/
def inTemplate (r : Requirement) : Bool := !r.columns.isEmpty

/-- Whether the requirement has columns, and all of them are read. -/
def isIngestible (r : Requirement) : Bool :=
  r.inTemplate && r.columns.all r.readColumns.contains

/-- Whether the requirement is a new one in tax law. -/
def isNew (r : Requirement) : Result Bool := do
  return lower (← r.vatLawStatus.asText) == "new"

end Requirement

/-- A list of texts with one more at its end, unless it is already there. -/
def addOnce (texts : List String) (s : String) : List String :=
  if texts.contains s then texts else texts ++ [s]

/--
The columns that a file must have: those of its mandatory requirements that are
read, and those by which it is joined.
-/
def mandatoryColumns (kind : RecordKind) (requirements : List Requirement) : List String :=
  let needed := requirements.flatMap fun r =>
    if r.file == some kind.name && r.mandatory then
      r.columns.filter (knownColumns kind).contains
    else []
  (needed ++ joinColumns kind).foldl addOnce []

/-- The kind of records in a file whose name is itself data. -/
def kindOfFile (file : Value) : Result RecordKind := do
  let _ ← file.key
  match file with
  | .text name =>
    match kindOfFile? name with
    | some kind => return kind
    | none => throw .missingMember
  | _ => throw .missingMember

/-- The first requirement with an identifier. -/
def findRequirement? (requirements : List Requirement) (id : Value) : Option Requirement :=
  requirements.find? fun r => r.id.same id

end InvoiceReadiness.Traceability
