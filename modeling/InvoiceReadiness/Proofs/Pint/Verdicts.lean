import InvoiceReadiness.Proofs.Pint.Ordinary
import Mathlib.Data.List.Nodup

/-!
# Verdicts on headers

Most checks of the pack walk through the headers and look at one after the other. What such
a check finds in a dataset is what it finds about each header alone, so its verdict on a
header can be spoken of without the others.

A check of the pack opens cases with what it says about itself; this never fails, and the
case is determined by what was observed.

## Main results

* `PackCheck.report_eq` — the case for an observation.
* `PackCheck.Collects.judgesEach` — what is found in a dataset is what is found about each
  header.
-/

namespace InvoiceReadiness

variable {α : Type}

/-- What is collected is collected from each of the records. -/
theorem collect_eq_flatten (records : List Record) (f : Record → Result (Option α)) :
    collect records f = do return (← records.mapM fun r => collect [r] f).flatten := by
  induction records with
  | nil => rfl
  | cons r rest ih =>
      rw [← List.singleton_append, collect_append, ih, List.mapM_append]
      cases hr : collect [r] f with
      | error fault => simp [List.mapM_cons, hr]
      | ok found =>
          cases hrest : rest.mapM fun r => collect [r] f with
          | error fault => simp [List.mapM_cons, hr]
          | ok more =>
              simp only [List.mapM_cons, List.mapM_nil, hr, pure_bind, Result.ok_bind]
              rfl

namespace Pint

namespace PackCheck

/-- The task of a check of the pack. -/
def task (check : PackCheck) (data : Dataset) : Task :=
  ⟨check.record, .object check.parameters, data⟩

theorem task_parameter (check : PackCheck) (data : Dataset) (name : String) :
    (check.task data).parameter name = .ok (check.parameters.get name) := rfl

/-- The case that a check of the pack opens for an observation. -/
def caseOf (check : PackCheck) (observation : Observation) : Case where
  checkId := .text check.id
  checkName := (Value.text check.name).orElse (.text check.id)
  severity := .text check.severity.name
  scope := .text check.scope.name
  ruleType := .text check.ruleType.name
  useCase := .text useCase
  terms := check.terms.map Value.text
  suggestedFix := .text check.suggestedFix
  owner := .text check.owner
  hours := some check.severity.hours
  observation := observation

theorem report_eq (check : PackCheck) (data : Dataset) (observation : Observation) :
    (check.task data).report observation = .ok (check.caseOf observation) := by
  have hid : (check.task data).checkId = .ok (.text check.id) := rfl
  have hterms : (check.task data).check.get "pint_reference_terms" =
      .list (check.terms.map Value.text) := rfl
  have hseverity : (check.task data).severity = .text check.severity.name := by
    show (Value.text check.severity.name).orElse (.text Severity.medium.name) = _
    cases check.severity <;> rfl
  have hhours : hoursFor (.text check.severity.name) = .ok (some check.severity.hours) := by
    cases check.severity <;> rfl
  rw [Task.report, hid, hseverity, hhours, hterms, caseOf]
  cases check.terms <;> rfl

/-- The cases that a check opens for a header alone. -/
def casesAbout (check : PackCheck) (data : Dataset) (h : Record) : Result (List Case) :=
  runRecord check.record (data.onlyHeader h)

/-- Whether a check opens a case for a header. -/
def verdict (check : PackCheck) (data : Dataset) (h : Record) : Result Bool := do
  return !(← check.casesAbout data h).isEmpty

/-- What a check finds in a dataset is what it finds about each header, in their order. -/
def JudgesEach (check : PackCheck) : Prop :=
  ∀ data : Dataset, runRecord check.record data =
    do return (← data.headers.mapM (check.casesAbout data)).flatten

/-- A check looks at one header after the other, and finds what `judge` says about each. -/
def Collects (check : PackCheck) (judge : Record → Result (Option Case)) : Prop :=
  ∀ data : Dataset, runRecord check.record data = collect data.headers judge

variable {check : PackCheck} {judge : Record → Result (Option Case)}

/-- What a check finds about each header is what it finds about the header alone. -/
theorem judgesEach_of_flatten {judge : Record → Result (List Case)}
    (hruns : ∀ data : Dataset, runRecord check.record data =
      do return (← data.headers.mapM judge).flatten) :
    check.JudgesEach ∧ ∀ data h, check.casesAbout data h = judge h := by
  have hcases : ∀ data h, check.casesAbout data h = judge h := by
    intro data h
    rw [casesAbout, hruns]
    show (do return (← [h].mapM judge).flatten) = judge h
    rw [List.mapM_cons]
    cases judge h with
    | error fault => rfl
    | ok cases => exact congrArg Except.ok (by simp)
  refine ⟨fun data => ?_, hcases⟩
  rw [hruns data, funext (hcases data)]

theorem Collects.judgesEach (hcheck : check.Collects judge) : check.JudgesEach :=
  (judgesEach_of_flatten fun data => (hcheck data).trans (collect_eq_flatten _ _)).1

/-- A case is opened for a header if there is something to say about it. -/
theorem Collects.verdict_eq (hcheck : check.Collects judge) (data : Dataset) (h : Record) :
    check.verdict data h = do return (← judge h).isSome := by
  have hcases : check.casesAbout data h = collect [h] judge := hcheck (data.onlyHeader h)
  rw [verdict, hcases, collect_cons]
  cases judge h with
  | error fault => rfl
  | ok said => cases said <;> rfl

end PackCheck

/-- The verdict that a case is opened; its message has to name the invoice. -/
def opened (h : Record) : Result Bool := do
  let _ ← numberText h
  return true

theorem opened_ne (h : Record) : opened h ≠ .ok false := by
  rw [opened]
  cases numberText h <;> nofun

/-! ## Checks by their identifiers -/

variable {check : PackCheck}

theorem find?_pack (hcheck : check ∈ pack) :
    (pack.find? fun other => other.id == check.id) = some check := by
  have hids : (pack.map PackCheck.id).Nodup := by decide +kernel
  have hsome : (pack.find? fun other => other.id == check.id).isSome :=
    List.find?_isSome.2 ⟨check, hcheck, beq_self_eq_true _⟩
  obtain ⟨other, hother⟩ := Option.isSome_iff_exists.1 hsome
  have hid := List.find?_some hother
  rw [hother, List.inj_on_of_nodup_map hids (List.mem_of_find?_eq_some hother) hcheck
    (eq_of_beq hid)]

/-- What a check of the pack says can be read off the pack by its identifier. -/
theorem eq_of_mem_pack {β : Type} {f : PackCheck → β} {id : String} {b : β}
    (hcheck : check ∈ pack) (hid : check.id = id)
    (hfind : (pack.find? fun other => other.id == id).map f = some b) : f check = b := by
  rw [← hid, find?_pack hcheck] at hfind
  exact Option.some.inj hfind

/-- The procedure of a check that has its own. -/
theorem procedureOf_eq {procedure : Procedure} {id : String} (hid : check.id = id)
    (hfind : (procedures.find? fun entry => entry.1 == id).map Prod.snd = some procedure) :
    procedureOf check.record = .ok (some procedure) := by
  have hname : procedureNamed procedures (check.record.get "check_id") =
      .ok ((procedures.find? fun entry => entry.1 == check.id).map Prod.snd) := rfl
  rw [procedureOf, hname, hid, hfind]
  rfl

end Pint

end InvoiceReadiness
