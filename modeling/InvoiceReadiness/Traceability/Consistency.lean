import InvoiceReadiness.Traceability.Catalog
import InvoiceReadiness.Value.Shown

/-!
# Consistency of a catalog

Before a matrix is exported, the catalog is checked against itself: whether rules
name requirements of the registry, controls name rules of the pack, and what is
mandatory is enforced. Errors forbid the export, warnings do not.
-/

namespace InvoiceReadiness.Traceability

/-- Whether an issue forbids an export. -/
inductive Level where
  | error | warning
  deriving DecidableEq

def Level.name : Level → String
  | error => "error"
  | warning => "warning"

/-- Something in a catalog that does not fit. -/
structure Issue where
  level : Level
  category : String
  message : String
  affected : List Value

def Issue.value (issue : Issue) : Value :=
  .object [
    ("level", .text issue.level.name),
    ("category", .text issue.category),
    ("message", .text issue.message),
    ("affected_ids", .list issue.affected)]

/-- The issues of a catalog, and how many checks found none. -/
structure Consistency where
  issues : List Issue
  passed : Nat

/-- Groups and derived terms that rules may name although they are no requirements. -/
def toleratedTerms : List String :=
  ["IBG-23", "IBG-25", "IBT-006", "IBT-007", "BTUAE-001", "BTUAE-002", "BTUAE-003",
   "BTUAE-004", "BTUAE-005"]

def isTolerated : Value → Bool
  | .text s => toleratedTerms.contains s
  | _ => false

/-- A reference in messages. -/
def arrow (origin target : Value) : Result Value := do
  let start ← origin.shown
  let stop ← target.shown
  return .text s!"{start} -> {stop}"

/-- The references from rules to terms that are no requirements. -/
def Catalog.danglingTerms (catalog : Catalog) : Result (List (Value × Value)) := do
  let found ← catalog.rules.mapM fun rule =>
    rule.requirements.filterMapM fun term => do
      if catalog.requirementIndex.has (← term.key) then return none
      return some (term, ← arrow rule.id term)
  return found.flatten

/-- Requirements with columns that the catalog does not find by their identifiers. -/
def Catalog.orphans (catalog : Catalog) : Result (List Value) :=
  ((catalog.requirements.filter Requirement.inTemplate).map Requirement.id).filterM
    fun id => do return !catalog.requirementIndex.has (← id.key)

/-- Requirements with columns and rules that no control protects. -/
def Catalog.uncontrolled (catalog : Catalog) : Result (List Value) :=
  ((catalog.requirements.filter Requirement.inTemplate).map Requirement.id).filterM
    fun id => do
      let key ← id.key
      return catalog.rulesByRequirement.has key && !catalog.controlsByRequirement.has key

/-- The references from controls to rules that are not in the pack. -/
def Catalog.danglingRules (catalog : Catalog) : Result (List Value) := do
  let found ← catalog.controls.mapM fun control =>
    control.rules.filterMapM fun rule => do
      if catalog.ruleIndex.has (← rule.key) then return none
      return some (← arrow control.id rule)
  return found.flatten

/-- Mandatory requirements that no rule enforces. -/
def Catalog.unenforced (catalog : Catalog) : Result (List Value) :=
  (catalog.mandatory.map Requirement.id).filterM fun id => do
    return !catalog.rulesByRequirement.has (← id.key)

/-- An issue about what is affected, if anything is. -/
def issueOf (level : Level) (category message : String) (affected : List Value) :
    Option Issue :=
  if affected.isEmpty then none
  else some { level, category, message := s!"{affected.length} {message}", affected }

/-- The consistency of a catalog. -/
def Catalog.consistency (catalog : Catalog) : Result Consistency := do
  let dangling ← catalog.danglingTerms
  let tolerated := (dangling.filter fun d => isTolerated d.1).map Prod.snd
  let invalid := (dangling.filter fun d => !isTolerated d.1).map Prod.snd
  let note := issueOf .warning "Rule-DR Integrity"
    ("rule reference(s) are outside the customer DR registry " ++
      "(non-blocking meta/derived terms)") tolerated
  let orphans ← catalog.orphans
  let uncontrolled ← catalog.uncontrolled
  let danglingRules ← catalog.danglingRules
  let unenforced ← catalog.unenforced
  let checks : List (Option Issue) := [
    issueOf .error "Rule-DR Integrity" "rule(s) reference DR IDs not in registry" invalid,
    issueOf .error "Template-DR Integrity"
      "template column mapping(s) reference invalid DR IDs" orphans,
    issueOf .warning "Coverage Integrity" "DR(s) have rules but no control linked"
      uncontrolled,
    issueOf .error "Control-Rule Integrity"
      "control(s) reference rule IDs not in check pack" danglingRules,
    issueOf .warning "Mandatory Coverage" "mandatory DR(s) have no validation rule"
      unenforced]
  return {
    issues := (note :: checks).filterMap fun issue => issue
    passed := (if catalog.mandatory.isEmpty then 0 else 1) +
      (checks.filter Option.isNone).length }

namespace Consistency

/-- Whether the catalog must not be exported. -/
def hasErrors (c : Consistency) : Bool :=
  c.issues.any fun issue => issue.level == .error

/-- The consistency as an object. -/
def value (c : Consistency) : Value :=
  .object [
    ("issues", .list (c.issues.map Issue.value)),
    ("passed", .ofNat c.passed),
    ("failed", .ofNat c.issues.length),
    ("has_errors", .bool c.hasErrors)]

end Consistency

end InvoiceReadiness.Traceability
