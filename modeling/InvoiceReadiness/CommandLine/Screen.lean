import InvoiceReadiness.CommandLine.Session
import InvoiceReadiness.Json.Writer
import InvoiceReadiness.Traceability.Report

/-!
# What a command shows

A session is shown as text for a reader, or as indented JSON for a program. The
text lists the baseline checks with their first findings, then every other
finding, then the summary, and the gaps of the matrix if they are wanted.
-/

namespace InvoiceReadiness.CommandLine

open Traceability

/-- A line of one repeated character. -/
def rule (c : Char) (width : Nat) : String :=
  String.ofList (List.replicate width c)

/-- The longest part of a message that is shown. -/
def messageWidth : Nat := 120

/-- How many findings of a baseline check are shown. -/
def shownFindings : Nat := 5

def cut (message : String) : String :=
  String.ofList (message.toList.take messageWidth)

/-- The sign of a severity. -/
def iconFor : Severity → String
  | .critical => "🔴"
  | .high => "🟠"
  | .medium => "🟡"
  | .low => "🟢"

/-- The sign of a severity that is data; any other value has one of its own. -/
def iconOf (severity : Value) : Result String := do
  return ((← Scoring.severityOf severity).map iconFor).getD "⚪"

/-! ## Sections -/

def underline : String := "  " ++ rule '─' 60

def headLines (data : Dataset) : List String :=
  let counts := s!"{data.headers.length} invoice(s), {data.lines.length} line(s), " ++
    s!"{data.buyers.length} buyer(s)"
  ["", rule '═' 70, s!"  PINT-AE Check Runner — {counts}", rule '═' 70, ""]

def outcomeLines (o : Baseline.Outcome) : List String :=
  let sign := if o.findings.isEmpty then "✓" else "✗"
  let icon := iconFor o.check.severity
  let head := s!"  {sign} {icon} [{o.check.id}] {o.check.name}: {o.findings.length} failed"
  head :: (o.findings.take shownFindings).map fun f => "    " ++ cut f.message

def baselineLines (outcomes : List Baseline.Outcome) : List String :=
  [s!"  BUILT-IN CHECKS ({outcomes.length} checks)", underline] ++
    outcomes.flatMap outcomeLines ++ [""]

/-- The line of a finding by its check, severity and message. -/
def findingLine (id severity : Value) (message : String) : Result String := do
  let icon ← iconOf severity
  let text ← id.shown
  let shown := cut message
  return s!"  {icon} [{text}] {shown}"

/-- A section of findings that are already lines. -/
def findingSection (title : String) (lines : List String) : List String :=
  [s!"  {title} ({lines.length} exceptions)", underline] ++
    (if lines.isEmpty then ["  No issues found."] else lines) ++ [""]

def summaryLines (s : Scoring.Summary) : Result (List String) := do
  let rate ← s.passRate.text
  let counts := s!"  Exceptions: {s.incidents}  Pass rate: {rate}%  Score: {s.score}"
  return ["  SUMMARY", underline, counts, ""]

def gapLines (m : Matrix) : Result (List String) := do
  let version ← m.version.shown
  let gaps := m.gaps
  return [
    s!"  DR COVERAGE ({version})",
    underline,
    s!"  Covered: {gaps.covered}/{gaps.total}   Mandatory: {gaps.mandatory}",
    s!"  Mandatory not in template: {gaps.notInTemplate}",
    s!"  Mandatory not ingestible:  {gaps.notIngestible}",
    s!"  Mandatory low population:  {gaps.thin} (< {populationWarning}%)",
    s!"  DRs with no rules:         {gaps.noRules}",
    s!"  DRs with no controls:      {gaps.noControls}",
    ""]

/-! ## The whole screen -/

/-- The lines for a reader. -/
def Session.lines (s : Session) (options : Options) : Result (List String) := do
  let custom ← s.custom.mapM fun f => findingLine f.checkId f.severity f.message
  let cases ← s.cases.mapM fun c =>
    findingLine c.checkId c.severity c.observation.message
  let summary ← summaryLines s.summary
  let gaps ← if options.matrix then (s.matrix.toList.mapM gapLines) else pure []
  let written := options.export?.toList.flatMap fun path =>
    [s!"  Traceability report written to {path}", ""]
  return headLines s.data ++ baselineLines s.outcomes ++
    findingSection "CUSTOM CHECKS" custom ++ findingSection "PINT-AE CHECKS" cases ++
    summary ++ gaps.flatten ++ written

/-- Lines as text. -/
def textOfLines (lines : List String) : String :=
  String.join (lines.map fun line => line ++ "\n")

/-- What a command leaves behind. -/
structure Effect where
  exit : UInt32
  output : String
  /-- A file to be written: its path and its content. -/
  file : Option (String × String)

/-- The traceability report of a session, if it is wanted. -/
def Session.file (s : Session) (options : Options) : Result (Option (String × String)) := do
  match options.export?, s.matrix with
  | some path, some m => return some (path, ← report m.rows)
  | _, _ => return none

/-- The effect of a session. -/
def Session.effect (s : Session) (options : Options) : Result Effect := do
  let file ← s.file options
  let output ←
    if options.json then pure (Json.writeIndented 0 s.value ++ "\n")
    else return { exit := 0, output := textOfLines (← s.lines options), file }
  return { exit := 0, output, file }

/-- The effect of a command; a stop with a message fails. -/
def execute (options : Options) (files : Files) : Result Effect :=
  match Session.ofFiles options files with
  | .ok session => session.effect options
  | .error (.message text) => .ok { exit := 1, output := text ++ "\n", file := none }
  | .error (.fault cause) => .error cause

end InvoiceReadiness.CommandLine
