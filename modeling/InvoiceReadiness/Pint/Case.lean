import InvoiceReadiness.Dataset
import InvoiceReadiness.Severity
import InvoiceReadiness.Value.Shown

/-!
# Cases

A procedure of the check pack looks at records and makes observations. An
observation becomes a case by what the check says about itself: its name, its
severity and the hours that the severity allows, the data requirements, and the
team that has to settle it. A check is data of any shape, so a case can fail to
open; it fails at the first observation, and not before.
-/

namespace InvoiceReadiness.Pint

/-- What a procedure found: where, in which field, what is there and what should be. -/
structure Observation where
  place : Coordinates
  field : Value
  observed : String
  expected : String
  message : String

/-- An observation that is waiting to be settled. -/
structure Case where
  checkId : Value
  checkName : Value
  severity : Value
  scope : Value
  ruleType : Value
  useCase : Value
  /-- The data requirements that the check enforces. -/
  terms : List Value
  suggestedFix : Value
  owner : Value
  /-- The hours in which the case has to be settled. -/
  hours : Option Nat
  observation : Observation

/-- The hours that a severity allows, where the severity is itself data. -/
def hoursFor (severity : Value) : Result (Option Nat) := do
  let _ ← severity.key
  match severity with
  | .text name => return (Severity.ofName? name).map Severity.hours
  | _ => return none

/-- A check that is being run: the check, its parameters and the records to look at. -/
structure Task where
  check : Record
  parameters : Value
  data : Dataset

/-- What a procedure does: it runs a task and opens cases. -/
abbrev Procedure := Task → Result (List Case)

namespace Task

/-- A parameter of the check; null if it is not given. -/
def parameter (task : Task) (name : String) : Result Value :=
  task.parameters.member name

/-- The identifier of the check, which has to be given. -/
def checkId (task : Task) : Result Value :=
  if task.check.has "check_id" then .ok (task.check.get "check_id") else .error .missingMember

/-- The severity of the check; medium if none is given. -/
def severity (task : Task) : Value :=
  (task.check.get "severity").orElse (.text Severity.medium.name)

/-- Open a case. -/
def report (task : Task) (observation : Observation) : Result Case := do
  let check := task.check
  let id ← task.checkId
  let terms := check.get "pint_reference_terms"
  let terms ← if terms.isFilled then terms.elements else .ok []
  let hours ← hoursFor task.severity
  return {
    checkId := id
    checkName := (check.get "check_name").orElse id
    severity := task.severity
    scope := check.get "scope"
    ruleType := check.get "rule_type"
    useCase := check.get "use_case"
    terms
    suggestedFix := check.get "suggested_fix"
    owner := check.get "owner_team_default"
    hours
    observation }

end Task

/-- The case as an object; it has no cause yet and is open. -/
def Case.value (c : Case) : Value :=
  .object [
    ("check_id", c.checkId),
    ("check_name", c.checkName),
    ("severity", c.severity),
    ("message", .text c.observation.message),
    ("scope", c.scope),
    ("rule_type", c.ruleType),
    ("use_case", c.useCase),
    ("pint_reference_terms", .list c.terms),
    ("invoice_id", c.observation.place.invoiceId),
    ("invoice_number", c.observation.place.invoiceNumber),
    ("seller_trn", c.observation.place.sellerTrn),
    ("buyer_id", c.observation.place.buyerId),
    ("line_id", c.observation.place.lineId),
    ("field_name", c.observation.field),
    ("observed_value", .text c.observation.observed),
    ("expected_value_or_rule", .text c.observation.expected),
    ("suggested_fix", c.suggestedFix),
    ("owner_team", c.owner),
    ("root_cause_category", .text "Unclassified"),
    ("case_status", .text "Open"),
    ("sla_target_hours", (c.hours.map Value.ofNat).getD .null),
    ("dataset_type", .null),
    ("direction", .null)]

/-! ## Places -/

/-- The place of a line: its own identifiers, and the parties of its header. -/
def linePlace (data : Dataset) (line : Record) : Result Coordinates := do
  let header := (← data.headerFor line).getD Record.empty
  return { Coordinates.ofHeader header with
    invoiceId := line.get "invoice_id"
    lineId := line.get "line_id" }

/-- The place of a record of any kind: its own cells first, then those of its header. -/
def recordPlace (data : Dataset) (r : Record) : Result Coordinates := do
  let header := (← data.headerFor r).getD Record.empty
  let cell (name : String) : Value := (r.get name).orElse (header.get name)
  return {
    invoiceId := cell "invoice_id"
    invoiceNumber := cell "invoice_number"
    sellerTrn := cell "seller_trn"
    buyerId := cell "buyer_id"
    lineId := r.get "line_id"
    lineNumber := .null }

/-- What is observed in a cell without a value. -/
def emptyText : String := "(empty)"

/-- What is expected of a cell that has to have a value. -/
def requiredText : String := "Required value"

end InvoiceReadiness.Pint
