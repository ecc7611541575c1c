import InvoiceReadiness.Numeric.Percent
import InvoiceReadiness.Registry
import InvoiceReadiness.Value.Key

/-!
# Coverage of the registry

A mapping profile supplies some of the data requirements. Its coverage divides
the fields of a registry into four: mandatory or not, mapped or not. The profile
may be activated if no mandatory field is left unmapped.
-/

namespace InvoiceReadiness.Registry

/-- The fields of a registry by whether they are mandatory and whether they are mapped. -/
structure Coverage where
  mappedMandatory : List Field
  unmappedMandatory : List Field
  mappedConditional : List Field
  unmappedConditional : List Field

/-- A field with the answers to the two questions. -/
structure Coverage.Place where
  field : Field
  mandatory : Bool
  mapped : Bool

/-- The coverage of a registry by the identifiers that a profile maps. -/
def coverage (registry : Registry) (mapped : List Value) : Result Coverage := do
  let keys ← mapped.mapM Value.key
  let mandatory ← registry.fields.mapM Field.isMandatory
  let known ← registry.fields.mapM fun f => f.id.key
  let places : List Coverage.Place :=
    (registry.fields.zip (mandatory.zip known)).map fun (field, isMandatory, key) =>
      ⟨field, isMandatory, keys.contains key⟩
  let select (mandatory mapped : Bool) : List Field :=
    (places.filter fun p => p.mandatory == mandatory && p.mapped == mapped).map
      Coverage.Place.field
  return {
    mappedMandatory := select true true
    unmappedMandatory := select true false
    mappedConditional := select false true
    unmappedConditional := select false false }

namespace Coverage

def mandatoryCount (c : Coverage) : Nat :=
  c.mappedMandatory.length + c.unmappedMandatory.length

def mappedCount (c : Coverage) : Nat :=
  c.mappedMandatory.length + c.mappedConditional.length

def total (c : Coverage) : Nat :=
  c.mandatoryCount + (c.mappedConditional.length + c.unmappedConditional.length)

/-- The mapped mandatory fields in percent of all mandatory ones. -/
def mandatoryPercent (c : Coverage) : Binary64 :=
  .percent c.mappedMandatory.length c.mandatoryCount

/-- The mapped fields in percent of all. -/
def overallPercent (c : Coverage) : Binary64 :=
  .percent c.mappedCount c.total

/-- Whether the profile may be activated. -/
def isReady (c : Coverage) : Bool := c.unmappedMandatory.isEmpty

/-- The coverage as an object, with fields by identifier. -/
def value (c : Coverage) : Value :=
  let ids (fields : List Field) : Value := .list (fields.map Field.id)
  .object [
    ("total_registry_fields", .ofNat c.total),
    ("mandatory_registry_fields", .ofNat c.mandatoryCount),
    ("mapped_mandatory", ids c.mappedMandatory),
    ("unmapped_mandatory", ids c.unmappedMandatory),
    ("mapped_conditional", ids c.mappedConditional),
    ("unmapped_conditional", ids c.unmappedConditional),
    ("mandatory_coverage_pct", .ofFloat (c.mandatoryPercent.roundPlaces 2)),
    ("overall_coverage_pct", .ofFloat (c.overallPercent.roundPlaces 2)),
    ("is_ready_for_activation", .bool c.isReady)]

end Coverage

end InvoiceReadiness.Registry
