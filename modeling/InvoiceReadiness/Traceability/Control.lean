import InvoiceReadiness.Traceability.Rule

/-!
# Controls

A control of the business covers rules. The requirements that a control protects
are not stated but derived: they are those that its rules enforce.
-/

namespace InvoiceReadiness.Traceability

/-- Whether a control keeps errors from arising or finds them. -/
inductive ControlType where
  | preventive | detective
  deriving DecidableEq

def ControlType.name : ControlType → String
  | preventive => "preventive"
  | detective => "detective"

/-- A control as the business defines it. -/
structure ControlDefinition where
  id : String
  name : String
  type : ControlType
  description : String
  rules : List String

/-- The definition as an object. -/
def ControlDefinition.value (d : ControlDefinition) : Value :=
  .object [
    ("control_id", .text d.id),
    ("control_name", .text d.name),
    ("control_type", .text d.type.name),
    ("description", .text d.description),
    ("covered_rule_ids", .list (d.rules.map Value.text))]

/-- A control with the requirements that it protects. -/
structure Control where
  id : Value
  name : Value
  type : Value
  description : Value
  rules : List Value
  /-- The requirements that the rules enforce, in the order in which they first come. -/
  requirements : List Value

/-- Rules by identifier; of two with one identifier the later counts. -/
def indexRules (rules : List Rule) : Result (Index Rule) :=
  rules.foldlM (fun index rule => do
    return index.insert (← rule.id.key) rule.id rule) Index.empty

/-- Values without repetitions, in the order in which they first come. -/
def distinctValues (values : List Value) : Result (List Value) := do
  let index ← values.foldlM (fun (index : Index Unit) v => do
    return index.insert (← v.key) v ()) Index.empty
  return index.entries.map Entry.shown

namespace Control

/-- The requirements of the known rules among identifiers. -/
def protectedBy (rules : Index Rule) (ids : List Value) : Result (List Value) := do
  let terms ← ids.mapM fun id => do
    return ((rules.get? (← id.key)).map Rule.requirements).getD []
  distinctValues terms.flatten

/-- The control that a definition describes. -/
def ofDefinition (rules : Index Rule) (definition : Value) : Result Control := do
  let ids ← (← requiredMember definition "covered_rule_ids").elements
  let requirements ← protectedBy rules ids
  let id ← requiredMember definition "control_id"
  let name ← requiredMember definition "control_name"
  let type ← requiredMember definition "control_type"
  let r ← definition.record
  return { id, name, type, description := memberOrEmpty r "description", rules := ids,
           requirements }

/-- The control as an object. -/
def value (c : Control) : Value :=
  .object [
    ("control_id", c.id),
    ("control_name", c.name),
    ("control_type", c.type),
    ("description", c.description),
    ("covered_rule_ids", .list c.rules),
    ("covered_dr_ids", .list c.requirements)]

/-- Whether the control protects a requirement. -/
def protects (c : Control) (id : Value) : Bool :=
  c.requirements.any fun term => term.sameIdentity id

/-- Whether the control covers a rule. -/
def covers (c : Control) (rule : Value) : Bool :=
  c.rules.any fun id => id.sameIdentity rule

end Control

/-! ## What is named at all -/

/-- The requirements that rules enforce, in the order in which they first come. -/
def enforcedIds (rules : List Rule) : Result (List Value) :=
  distinctValues (rules.flatMap Rule.requirements)

/-- The requirements that controls protect, in the order in which they first come. -/
def protectedIds (controls : List Control) : Result (List Value) :=
  distinctValues (controls.flatMap Control.requirements)

/-! ## The controls of the business -/

def preventiveControls : List ControlDefinition := [
  { id := "CTRL-001"
    name := "Header Mandatory Fields Gate"
    type := .preventive
    description := "Blocks invoice submission when mandatory header identifiers are missing"
    rules := ["UAE-UC1-CHK-001", "UAE-UC1-CHK-002", "UAE-UC1-CHK-004", "UAE-UC1-CHK-005"] },
  { id := "CTRL-002"
    name := "Date Format Enforcement"
    type := .preventive
    description := "Ensures all dates conform to ISO 8601 YYYY-MM-DD format before processing"
    rules := ["UAE-UC1-CHK-003"] },
  { id := "CTRL-003"
    name := "Currency Code Validation"
    type := .preventive
    description := "Validates currency codes against ISO 4217 and enforces AED tax accounting"
    rules := ["UAE-UC1-CHK-006", "UAE-UC1-CHK-007", "UAE-UC1-CHK-008"] },
  { id := "CTRL-004"
    name := "Seller Identity Verification"
    type := .preventive
    description :=
      "Ensures seller name, TRN, electronic address and postal address are complete and valid"
    rules := ["UAE-UC1-CHK-012", "UAE-UC1-CHK-013", "UAE-UC1-CHK-014", "UAE-UC1-CHK-015"] },
  { id := "CTRL-005"
    name := "Buyer Identity Verification"
    type := .preventive
    description :=
      "Ensures buyer name, TRN format, electronic address and postal address are valid"
    rules := ["UAE-UC1-CHK-017", "UAE-UC1-CHK-018", "UAE-UC1-CHK-019", "UAE-UC1-CHK-020"] },
  { id := "CTRL-006"
    name := "UAE Subdivision Code Gate"
    type := .preventive
    description := "Validates emirate codes against the official UAE code list"
    rules := ["UAE-UC1-CHK-016"] },
  { id := "CTRL-007"
    name := "ASP Metadata Enforcement"
    type := .preventive
    description := "Validates ASP-derived fields: specification ID and business process type"
    rules := ["UAE-UC1-CHK-010", "UAE-UC1-CHK-011"] },
  -- The transaction type is checked together with the type code of the invoice.
  { id := "CTRL-008"
    name := "Transaction Type Code Validation"
    type := .preventive
    description := "Validates BTUAE-02 transaction type code format and presence"
    rules := ["UAE-UC1-CHK-004"] }]

def detectiveControls : List ControlDefinition := [
  { id := "CTRL-009"
    name := "Invoice Totals Reconciliation"
    type := .detective
    description := "Detects mismatches between line sums and header totals"
    rules := ["UAE-UC1-CHK-021", "UAE-UC1-CHK-025", "UAE-UC1-CHK-029"] },
  { id := "CTRL-010"
    name := "Decimal Precision Audit"
    type := .detective
    description := "Detects monetary amounts exceeding 2 decimal places"
    rules := ["UAE-UC1-CHK-022", "UAE-UC1-CHK-023", "UAE-UC1-CHK-024", "UAE-UC1-CHK-026"] },
  { id := "CTRL-011"
    name := "Tax Calculation Verification"
    type := .detective
    description := "Verifies tax category amounts match the taxable base × rate formula"
    rules := ["UAE-UC1-CHK-027", "UAE-UC1-CHK-028"] },
  { id := "CTRL-012"
    name := "Line Item Completeness Check"
    type := .detective
    description :=
      "Ensures every invoice has at least one line and each line has identifiers and quantities"
    rules := ["UAE-UC1-CHK-030", "UAE-UC1-CHK-031", "UAE-UC1-CHK-032", "UAE-UC1-CHK-033"] },
  { id := "CTRL-013"
    name := "Line Net Amount Reconciliation"
    type := .detective
    description := "Validates line net amount = (quantity × unit price) - discounts"
    rules := ["UAE-UC1-CHK-034"] },
  { id := "CTRL-014"
    name := "Payment Terms Consistency"
    type := .detective
    description :=
      "Ensures payment due date is present when amount due > 0 and is not before issue date"
    rules := ["UAE-UC1-CHK-009"] }]

/-- The controls of the business as data. -/
def controlValues : List Value :=
  (preventiveControls ++ detectiveControls).map ControlDefinition.value

end InvoiceReadiness.Traceability
