import InvoiceReadiness.Registry.Coverage
import InvoiceReadiness.Service.Refusal
import InvoiceReadiness.Traceability.Consistency
import InvoiceReadiness.Traceability.Readiness
import InvoiceReadiness.Traceability.Report

/-!
# Requests for traceability

The matrix, its export, the coverage of the registry and the consistency of the
catalog need the registry; the readiness for a run does not.
-/

namespace InvoiceReadiness.Service

open Traceability

/-- The catalog of the service. -/
def RegistryFile.catalog (file : RegistryFile) : Reply Catalog := do
  Catalog.ofRegistry (← file.registry)

/-! ## Matrices -/

/-- A request for a matrix. -/
structure MatrixRequest where
  dataset : Option (List (String × List Record))
  percentages : Option (List (String × List (String × Binary64)))
  counts : Option (List (String × List (String × Int)))

def Shape.matrix : Shape MatrixRequest := fun v => do
  let body ← Shape.object v
  let dataset ← optional body "dataset" (.nullable (.mapOf (.listOf .object))) none
  let percentages ← optional body "populations" (.nullable (.mapOf (.mapOf .float))) none
  let counts ← optional body "exception_counts" (.nullable (.mapOf (.mapOf .whole))) none
  return { dataset, percentages, counts }

namespace MatrixRequest

/-- The populations that a request carries; a dataset goes before percentages. -/
def populations (request : MatrixRequest) : Result (List FilePopulation) :=
  match request.dataset, request.percentages with
  | some files, _ => FilePopulation.ofDataset
    (.object (files.map fun (file, rows) => (file, .list (rows.map Record.value))))
  | none, some files => .ok (files.map fun (file, columns) =>
    ⟨file, columns.map fun (column, percent) => ⟨.text column, 0, 0, percent⟩⟩)
  | none, none => .ok []

/-- The counts of the last run as data. -/
def countsValue (request : MatrixRequest) : Value :=
  match request.counts with
  | some counts => .object (counts.map fun (id, own) =>
    (id, .object (own.map fun (name, n) => (name, .ofInt n))))
  | none => .null

end MatrixRequest

/-- A matrix as an object, with the mean population of its mandatory requirements. -/
def matrixValue (m : Matrix) (mandatory : Option Binary64) : Value :=
  .object [
    ("rows", .list (m.rows.map Row.value)),
    ("gaps", m.gaps.value),
    ("spec_version", m.version),
    ("mandatory_population_pct", (mandatory.map Value.ofFloat).getD .null)]

/-- Answer a request for a matrix. -/
def answerMatrix (file : RegistryFile) (body : Value) : Reply Value := do
  let request ← valid (Shape.matrix body)
  let catalog ← file.catalog
  let populations ← request.populations
  let m ← Matrix.ofCatalog catalog populations request.countsValue
  return matrixValue m (catalog.mandatoryPopulation? populations)

/-- The detail of a refusal to export an inconsistent catalog. -/
def inconsistencyDetail (c : Consistency) : Value :=
  let errors := c.issues.filter fun issue => issue.level == .error
  .object [
    ("message", .text "Catalog is inconsistent"),
    ("errors", .list (errors.map fun issue => .text issue.message))]

/-- The traceability report of a catalog, which errors of the catalog forbid. -/
def exportReport (catalog : Catalog) (request : MatrixRequest) : Reply String := do
  let consistency ← catalog.consistency
  if consistency.hasErrors then throw (.denied conflict (inconsistencyDetail consistency))
  let populations ← request.populations
  let m ← Matrix.ofCatalog catalog populations request.countsValue
  report m.rows

/-- Answer a request for the traceability report. -/
def answerExport (file : RegistryFile) (body : Value) : Reply String := do
  let request ← valid (Shape.matrix body)
  exportReport (← file.catalog) request

/-- The kind of text that a report is. -/
def reportMediaType : String := "text/csv; charset=utf-8"

/-! ## Readiness, coverage and consistency -/

/-- Answer a request for the readiness for a run. -/
def answerReadiness (body : Value) : Reply Value := do
  let (hasProfile, coverage, population) ← valid do
    let body ← Shape.object body
    let hasProfile ← required body "has_mapping_profile" .truth
    let coverage ← required body "mandatory_mapping_coverage" .float
    let population ← optional body "mandatory_population_pct" (.nullable .float) none
    return (hasProfile, coverage, population)
  let found ← obstacles (.bool hasProfile) (.ofFloat coverage)
    ((population.map Value.ofFloat).getD .null)
  return readinessValue found

/-- Answer a request for the coverage of the registry by a profile. -/
def answerCoverage (file : RegistryFile) (body : Value) : Reply Value := do
  let ids ← valid do
    let body ← Shape.object body
    optional body "mapped_dr_ids" (.listOf .text) []
  let registry ← file.registry
  let coverage ← registry.coverage (ids.map Value.text)
  return coverage.value

/-- Answer a request for the consistency of the catalog. -/
def answerConsistency (file : RegistryFile) : Reply Value := do
  return (← (← file.catalog).consistency).value

/-! ## Start -/

/-- How grave an entry of the log is. -/
inductive LogLevel where
  | info | error
  deriving DecidableEq

def LogLevel.name : LogLevel → String
  | info => "INFO"
  | error => "ERROR"

/--
What the service writes into its log when it starts. Without a registry it starts
all the same, since checks do not need one.
-/
def startupEntry (file : RegistryFile) : Result (LogLevel × String) := do
  match file.content >>= Catalog.ofRegistry with
  | .ok catalog =>
    let version ← catalog.version.shown
    let count := catalog.requirements.length
    return (.info, s!"Startup: {version} catalog with {count} DRs")
  | .error (.registry cause) =>
    return (.error, "Startup: spec registry unavailable: " ++ cause.message file.path)
  | .error fault => throw fault

/-- What the service tells about itself. -/
def healthValue : Value :=
  .object [
    ("status", .text "operational"),
    ("platform", .text "PINT-AE Readiness Engine"),
    ("spec_version", defaultVersion),
    ("ruleset_version", .text "v1.0.0")]

end InvoiceReadiness.Service
