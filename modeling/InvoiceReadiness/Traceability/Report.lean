import InvoiceReadiness.Calendar
import InvoiceReadiness.Text.Separated
import InvoiceReadiness.Traceability.Matrix

/-!
# The traceability report

The matrix as a table of separated values, one line for each requirement.
-/

namespace InvoiceReadiness.Traceability

/-- The columns of the report. -/
def reportColumns : List String :=
  ["dr_id", "business_term", "mandatory", "template", "column_names", "in_template",
   "ingestible", "population_pct", "rule_ids", "control_ids", "open_exception_count",
   "coverage_status"]

def yesNo (flag : Bool) : String := if flag then "Yes" else "No"

/-- A value as a field of a table: null is an empty field. -/
def fieldText (v : Value) : Result String :=
  if v.isNull then .ok "" else v.shown

/-- Identifiers in one field; they have to be texts. -/
def joined (ids : List Value) : Result String := do
  let texts ← ids.mapM fun id =>
    match id with
    | .text s => Except.ok s
    | _ => .error .operandKind
  return "; ".intercalate texts

/-- The line of a row of the matrix. -/
def reportLine (row : Row) : Result (List String) := do
  let r := row.requirement
  let rules ← joined (row.rules.map Rule.id)
  let controls ← joined (row.controls.map Control.id)
  let failures ← row.failures.shown
  let id ← fieldText r.id
  let term ← fieldText r.term
  return [
    id,
    term,
    yesNo r.mandatory,
    r.supplier.getD "asp_derived",
    "; ".intercalate r.columns,
    yesNo r.inTemplate,
    yesNo r.isIngestible,
    (row.population.map (Binary64.fixedText 1)).getD "",
    rules,
    controls,
    failures,
    row.status.name]

/-- The report of the rows of a matrix. -/
def report (rows : List Row) : Result String := do
  return Separated.table (reportColumns :: (← rows.mapM reportLine))

/-- A decimal number of at least `width` digits. -/
def padded (width n : Nat) : String :=
  let digits := wholeText n
  String.ofList (List.replicate (width - digits.length) '0') ++ digits

/-- The name of the file for a report of a day. -/
def reportName (day : Date) : String :=
  s!"DR_Traceability_Report_{padded 4 day.year}-{padded 2 day.month}-{padded 2 day.day}.csv"

end InvoiceReadiness.Traceability
