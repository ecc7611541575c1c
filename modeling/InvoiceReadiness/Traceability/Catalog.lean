import InvoiceReadiness.Pint.Pack
import InvoiceReadiness.Registry.Release
import InvoiceReadiness.Traceability.Control
import InvoiceReadiness.Traceability.Requirement

/-!
# The catalog

A catalog ties the requirements of a registry, the rules of a check pack and the
controls of the business together. Rules and controls are filed under the
requirements that they name, so that what concerns a requirement is found at once.
-/

namespace InvoiceReadiness.Traceability

/-- Requirements, rules and controls, with what is needed to find them. -/
structure Catalog where
  requirements : List Requirement
  rules : List Rule
  controls : List Control
  version : Value
  requirementIndex : Index Requirement
  ruleIndex : Index Rule
  /-- The rules that enforce each requirement. -/
  rulesByRequirement : Index (List Rule)
  /-- The controls that protect each requirement. -/
  controlsByRequirement : Index (List Control)

/-- Items filed under each of the values that they name, once each, in their order. -/
def fileUnder {α : Type} (named : α → List Value) (items : List α) :
    Result (Index (List α)) :=
  items.foldlM (fun index item => do
    let names ← distinctValues (named item)
    names.foldlM (fun (index : Index (List α)) name => do
      return index.alter (← name.key) name fun group => group.getD [] ++ [item]) index)
    Index.empty

/-- The release that a catalog is for, unless stated otherwise. -/
def defaultVersion : Value := .text "PINT-AE 2025-Q2 - UAE DR v1.0.1"

namespace Catalog

/-- The catalog of fields of a registry, checks and definitions of controls. -/
def build (fields : List Registry.Field) (checks definitions : List Value)
    (version : Value) : Result Catalog := do
  let requirements ← fields.mapM Requirement.ofField
  let rules ← checks.mapM Rule.ofCheck
  let ruleIndex ← indexRules rules
  let controls ← definitions.mapM (Control.ofDefinition ruleIndex)
  let requirementIndex ← requirements.foldlM (fun (index : Index Requirement) r => do
    return index.insert (← r.id.key) r.id r) Index.empty
  return {
    requirements, rules, controls, version, requirementIndex, ruleIndex
    rulesByRequirement := ← fileUnder Rule.requirements rules
    controlsByRequirement := ← fileUnder Control.requirements controls }

/-- The catalog of a registry, with the check pack and the controls of the business. -/
def ofRegistry (registry : Registry) : Result Catalog :=
  build registry.fields (Pint.pack.map fun check => check.record.value) controlValues
    defaultVersion

/-- The catalog of the current release. -/
def current : Result Catalog := ofRegistry Registry.current

/-- The requirement with an identifier; of several the last one. -/
def requirement? (catalog : Catalog) (id : Value) : Result (Option Requirement) := do
  return catalog.requirementIndex.get? (← id.key)

/-- The rules that enforce a requirement. -/
def rulesFor (catalog : Catalog) (id : Value) : Result (List Rule) := do
  return (catalog.rulesByRequirement.get? (← id.key)).getD []

/-- The controls that protect a requirement. -/
def controlsFor (catalog : Catalog) (id : Value) : Result (List Control) := do
  return (catalog.controlsByRequirement.get? (← id.key)).getD []

/-- The requirements that no rule enforces, as identifiers. -/
def idsWithoutRules (catalog : Catalog) : Result (List Value) :=
  (catalog.requirements.map Requirement.id).filterM fun id => do
    return !catalog.rulesByRequirement.has (← id.key)

/-- The mandatory requirements. -/
def mandatory (catalog : Catalog) : List Requirement :=
  catalog.requirements.filter Requirement.mandatory

end Catalog

end InvoiceReadiness.Traceability
