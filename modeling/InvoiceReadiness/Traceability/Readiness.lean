import InvoiceReadiness.Traceability.Matrix

/-!
# Readiness for a run

A run may start if there is a mapping profile, if the profile maps all mandatory
requirements, and if their columns are populated well enough. Everything that is
not met is reported, each with a place where it can be mended.
-/

namespace InvoiceReadiness.Traceability

/-- Something that keeps a run from starting. -/
structure Obstacle where
  message : String
  link : String
  linkLabel : String

def Obstacle.value (o : Obstacle) : Value :=
  .object [("message", .text o.message), ("link", .text o.link),
    ("link_label", .text o.linkLabel)]

/-- The percentage of mandatory requirements that has to be mapped. -/
def requiredMapping : Nat := 100

/-- The percentage to which mandatory requirements have to be populated. -/
def requiredPopulation : Nat := 99

/-- Whether a percentage that is data stays below a required one. -/
def fallsShort (percent : Value) (required : Nat) : Result (Option Number) :=
  match percent.number? with
  | some n => .ok (if n.lt (.whole required) then some n else none)
  | none => .error .operandKind

def profileObstacle (hasProfile : Value) : Option Obstacle :=
  if hasProfile.isFilled then none
  else some {
    message := "No active mapping profile found."
    link := "/mapping?tab=create"
    linkLabel := "Create Mapping" }

def mappingObstacle (coverage : Value) : Result (Option Obstacle) := do
  match ← fallsShort coverage requiredMapping with
  | none => return none
  | some n =>
    let percent ← n.fixedText 0
    return some {
      message := s!"Mandatory DR mapping coverage is {percent}% (required: {requiredMapping}%)."
      link := "/mapping"
      linkLabel := "Fix Mapping" }

/-- A population that is not known is no obstacle. -/
def populationObstacle (population : Value) : Result (Option Obstacle) := do
  if population.isNull then return none
  match ← fallsShort population requiredPopulation with
  | none => return none
  | some n =>
    let percent ← n.fixedText 0
    let message := s!"Mandatory DR population coverage is {percent}% " ++
      s!"(required: {requiredPopulation}%)."
    return some {
      message
      link := "/upload"
      linkLabel := "Re-upload Data" }

/-- Everything that keeps a run from starting. -/
def obstacles (hasProfile coverage population : Value) : Result (List Obstacle) := do
  let mapping ← mappingObstacle coverage
  let populated ← populationObstacle population
  return (profileObstacle hasProfile).toList ++ mapping.toList ++ populated.toList

/-- Whether a run may start, and if not why, as an object. -/
def readinessValue (found : List Obstacle) : Value :=
  .object [("can_run", .bool found.isEmpty), ("reasons", .list (found.map Obstacle.value))]

end InvoiceReadiness.Traceability
