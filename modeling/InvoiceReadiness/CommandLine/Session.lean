import InvoiceReadiness.CommandLine.Options
import InvoiceReadiness.Custom.Run
import InvoiceReadiness.Json.Reader
import InvoiceReadiness.Pint.Run
import InvoiceReadiness.Scoring
import InvoiceReadiness.Traceability.Matrix

/-!
# A session

A session is what a command finds out: it reads a dataset and perhaps custom
checks, runs all checks, and computes the matrix if somebody wants to see it. A
session can end early, with something to tell the user.
-/

namespace InvoiceReadiness.CommandLine

open Traceability

/-- The content of files by path; there may be no file. -/
abbrev Files := String → Option ByteArray

/-- What a command finds out. -/
structure Session where
  data : Dataset
  outcomes : List Baseline.Outcome
  custom : List Finding
  cases : List Pint.Case
  summary : Scoring.Summary
  /-- The matrix, if it is wanted. -/
  matrix : Option Matrix

/-- Why a command ends early. -/
inductive Stop where
  /-- Something that the user can mend. -/
  | message (text : String)
  | fault (cause : Fault)

instance : MonadLift Result (Except Stop) := ⟨fun r => r.mapError Stop.fault⟩

/-- The data that a file holds. -/
def readData (files : Files) (path : String) : Except Stop Value :=
  match files path with
  | none => .error (.message s!"File '{path}' not found.")
  | some bytes =>
    match String.fromUTF8? bytes with
    | none => .error (.fault .malformedUtf8)
    | some s => (Json.read Json.fileLimits s).mapError Stop.fault

/-- Custom checks from their configurations. -/
def readChecks (configs : Value) : Except Stop (List Custom.Check) := do
  match Custom.loadAll (← configs.elements) with
  | .ok checks => return checks
  | .error (.config cause) => throw (.message s!"Invalid custom check: {cause.message}")
  | .error fault => throw (.fault fault)

/-- The matrix of a dataset after the check pack has been run over it. -/
def matrixOf (payload : Value) (data : Dataset) (cases : List Pint.Case) : Result Matrix := do
  let populations ← FilePopulation.ofDataset payload
  let catalog ← Catalog.current
  let found ← tallies catalog (cases.map Pint.Case.checkId) (.ofNat data.headers.length)
  Matrix.ofTallies catalog populations found

/-- Run all checks over a payload. -/
def Session.ofPayload (options : Options) (payload configs : Value) :
    Except Stop Session := do
  let checks ← readChecks configs
  let data ← Dataset.ofValue payload
  let outcomes := Baseline.runAll data
  let custom ← Custom.runAll checks data
  let cases ← Pint.runAll Pint.packValues data
  let summary ← Scoring.summary (Incident.ofRun custom cases outcomes)
    (.ofNat data.headers.length)
  let matrix ←
    if options.matrix || options.json || options.export?.isSome then
      some <$> (matrixOf payload data cases : Except Stop Matrix)
    else pure none
  return { data, outcomes, custom, cases, summary, matrix }

/-- The session of a command. -/
def Session.ofFiles (options : Options) (files : Files) : Except Stop Session := do
  let payload ← readData files options.dataset
  let configs ←
    match options.checks with
    | some path => readData files path
    | none => pure (.list [])
  Session.ofPayload options payload configs

/-- What a session found out, as an object. -/
def Session.value (s : Session) : Value :=
  .object [
    ("check_results", .list (s.outcomes.map Baseline.Outcome.value)),
    ("custom_exceptions", .list (s.custom.map Finding.value)),
    ("pint_ae_exceptions", .list (s.cases.map Pint.Case.value)),
    ("summary", s.summary.value),
    ("gaps", (s.matrix.map fun m => m.gaps.value).getD .null)]

end InvoiceReadiness.CommandLine
