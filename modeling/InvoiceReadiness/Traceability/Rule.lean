import InvoiceReadiness.Value.Key

/-!
# Rules

A rule is what the traceability of a release sees of a check: its name and the
data requirements that it enforces. Running a check is no matter here.
-/

namespace InvoiceReadiness.Traceability

/-- A check by the requirements that it enforces. -/
structure Rule where
  id : Value
  name : Value
  requirements : List Value
  severity : Value
  scope : Value
  /-- The use case to which the rule belongs. -/
  appliesWhen : Value

/-- A member that a value has to have. -/
def requiredMember (v : Value) (name : String) : Result Value :=
  match v with
  | .object members =>
    if Members.has members name then .ok (Members.get members name) else .error .missingMember
  | _ => .error .operandKind

/-- The member of a record, or an empty text if it has none of that name. -/
def memberOrEmpty (r : Record) (name : String) : Value :=
  if r.has name then r.get name else .text ""

namespace Rule

/-- The rule that a check is. -/
def ofCheck (check : Value) : Result Rule := do
  let id ← requiredMember check "check_id"
  let name ← requiredMember check "check_name"
  let r ← check.record
  let terms := r.get "pint_reference_terms"
  return {
    id
    name
    requirements := ← if terms.isFilled then terms.elements else .ok []
    severity := memberOrEmpty r "severity"
    scope := memberOrEmpty r "scope"
    appliesWhen := r.get "use_case" }

/-- The rule as an object. -/
def value (rule : Rule) : Value :=
  .object [
    ("rule_id", rule.id),
    ("rule_name", rule.name),
    ("affected_dr_ids", .list rule.requirements),
    ("severity", rule.severity),
    ("scope", rule.scope),
    ("applies_when", rule.appliesWhen)]

/-- Whether the rule enforces a requirement. -/
def enforces (rule : Rule) (id : Value) : Bool :=
  rule.requirements.any fun term => term.sameIdentity id

end Rule

end InvoiceReadiness.Traceability
