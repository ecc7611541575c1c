import InvoiceReadiness.Custom.Run
import InvoiceReadiness.Direction
import InvoiceReadiness.Matching.Investigation
import InvoiceReadiness.Matching.Rank
import InvoiceReadiness.Pint.Run
import InvoiceReadiness.Scoring
import InvoiceReadiness.Service.Refusal

/-!
# Requests for validation

A run applies the baseline checks, the check pack and custom checks to one
dataset and sums them up. A search ranks candidates for a query. An investigation
looks for suspicious pairs among received invoices.
-/

namespace InvoiceReadiness.Service

/-! ## Datasets -/

/-- The records that a request carries. -/
structure DatasetBody where
  buyers : List Record
  headers : List Record
  lines : List Record

def Shape.dataset : Shape DatasetBody := fun v => do
  let body ← Shape.object v
  let buyers ← optional body "buyers" (.listOf .object) []
  let headers ← optional body "headers" (.listOf .object) []
  let lines ← optional body "lines" (.listOf .object) []
  return { buyers, headers, lines }

def DatasetBody.dataset (body : DatasetBody) : Result Dataset :=
  Dataset.ofRecords body.buyers body.headers body.lines

/-! ## Checks -/

/-- The checks that every run may apply. -/
def checksValue : Value :=
  .object [
    ("builtin", .list (Baseline.Check.all.map Baseline.Check.value)),
    ("pint_ae", .list Pint.packValues)]

/-! ## Runs -/

/-- A request to run checks. -/
structure RunRequest where
  dataset : DatasetBody
  customChecks : List Record
  withBaseline : Bool
  withPack : Bool
  direction : Option String
  ownNumbers : List String

def Shape.run : Shape RunRequest := fun v => do
  let body ← Shape.object v
  let dataset ← required body "dataset" .dataset
  let customChecks ← optional body "custom_checks" (.listOf .object) []
  let withBaseline ← optional body "include_builtin" .truth true
  let withPack ← optional body "include_pint_ae" .truth true
  let direction ← optional body "direction" (.nullable .text) none
  let ownNumbers ← optional body "our_entity_trns" (.listOf .text) []
  return { dataset, customChecks, withBaseline, withPack, direction, ownNumbers }

/-- Custom checks; a configuration with an unusable shape denies the request. -/
def loadChecks (configs : List Record) : Reply (List Custom.Check) :=
  match Custom.loadAll (configs.map Record.value) with
  | .ok checks => .ok checks
  | .error (.config cause) => .error (.denied unprocessable (.text cause.message))
  | .error fault => .error (.fault fault)

/-- What a run found. -/
structure RunReport where
  direction : Direction
  outcomes : List Baseline.Outcome
  findings : List Finding
  cases : List Pint.Case
  summary : Scoring.Summary

def RunReport.value (report : RunReport) : Value :=
  .object [
    ("direction", .text report.direction.name),
    ("check_results", .list (report.outcomes.map Baseline.Outcome.value)),
    ("exceptions", .list (report.findings.map Finding.value)),
    ("pint_ae_exceptions", .list (report.cases.map Pint.Case.value)),
    ("summary", report.summary.value)]

/-- Run checks over a dataset. -/
def run (request : RunRequest) : Reply RunReport := do
  let custom ← loadChecks request.customChecks
  let data ← request.dataset.dataset
  let direction := Direction.ofValue (.ofText? request.direction)
  let outcomes := if request.withBaseline then Baseline.runAll data else []
  let customFindings ← Custom.runAll custom data
  let misaligned ← direction.misaligned (request.ownNumbers.map Value.text) data.headers
    data.buyerIndex
  let cases ← if request.withPack then Pint.runAll Pint.packValues data else pure []
  let findings := customFindings ++ misaligned
  let summary ← Scoring.summary (Incident.ofRun findings cases outcomes)
    (.ofNat data.headers.length)
  return { direction, outcomes, findings, cases, summary }

/-- Answer a request to run checks. -/
def answerRun (body : Value) : Reply Value := do
  return (← run (← valid (Shape.run body))).value

/-! ## Searches -/

/-- Answer a request to rank candidates for a query. -/
def answerSearch (body : Value) : Reply Value := do
  let (query, candidates, strictness) ← valid do
    let body ← Shape.object body
    let query ← optional body "query" (.nullable .text) none
    let candidates ← optional body "candidates" (.listOf .object) []
    let strictness ← optional body "strictness" .text Matching.defaultStrictness
    return (query, candidates, strictness)
  match Matching.rank (.ofText? query) (.text strictness) (candidates.map Record.value) with
  | .ok ranked =>
    return .object [
      ("results", .list (ranked.map Matching.Ranked.value)),
      ("count", .ofNat ranked.length)]
  | .error (.unknownStrictness shown) =>
    throw (.denied unprocessable (.text (Fault.strictnessMessage shown)))
  | .error fault => throw (.fault fault)

/-! ## Investigations -/

/-- Answer a request to investigate a dataset. -/
def answerInvestigation (body : Value) : Reply Value := do
  let (dataset, checks, type) ← valid do
    let body ← Shape.object body
    let dataset ← required body "dataset" .dataset
    let checks ← optional body "checks" (.listOf .object) []
    let type ← optional body "dataset_type" .text Direction.payable.name
    return (dataset, checks, type)
  let data ← dataset.dataset
  let found ← checks.mapM fun check =>
    (Matching.runSearch check.value data (.text type) : Reply (List Matching.Lead))
  let leads := found.flatten
  return .object [
    ("flags", .list (leads.map Matching.Lead.value)),
    ("count", .ofNat leads.length)]

end InvoiceReadiness.Service
