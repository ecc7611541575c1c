import InvoiceReadiness.Proofs.Outcome
import InvoiceReadiness.Proofs.Service.Replies
import InvoiceReadiness.Service.Validation

/-!
# Runs that end well

A run has many places where it can end early: a check that cannot be loaded, an identifier
that is no key, a summary that cannot be computed. A report tells that none of them was met,
and where each of its parts is from. What is to be proved about reports starts here and does
not look into the run again.

## Main results

* `Scoring.Summary.isOf_of_summary_eq_ok` — where the parts of a summary are from.
* `Service.RunReport.exists_isOf` — where the parts of a report are from.
-/

namespace InvoiceReadiness

/-! ## Summaries -/

namespace Scoring

/-- What a summary says about incidents, and where it has it from. -/
structure Summary.IsOf (summary : Summary) (all : List Incident) (invoices : Nat) : Prop where
  incidents : summary.incidents = all.length
  severities : severitiesOf all = .ok summary.severities
  passRate : ∃ failing rate, failingInvoices all = .ok failing ∧
    Scoring.passRate (.whole invoices) failing = .ok rate ∧
    summary.passRate = rate.roundPlaces 2
  top : ∃ counts, countByCheck all = .ok counts ∧ summary.top = topFailing counts

theorem Summary.isOf_of_summary_eq_ok {incidents : List Incident} {invoices : Nat}
    {summary : Summary} (h : Scoring.summary incidents (.ofNat invoices) = .ok summary) :
    summary.IsOf incidents invoices := by
  obtain ⟨counts, hcounts, h⟩ := Result.bind_eq_ok.1 h
  obtain ⟨failing, hfailing, h⟩ := Result.bind_eq_ok.1 h
  obtain ⟨rate, hrate, h⟩ := Result.bind_eq_ok.1 h
  obtain ⟨severities, hseverities, h⟩ := Result.bind_eq_ok.1 h
  obtain ⟨health, -, ⟨⟩⟩ := Result.bind_eq_ok.1 h
  exact
    { incidents := rfl
      severities := hseverities
      passRate := ⟨failing, rate, hfailing, hrate, rfl⟩
      top := ⟨counts, hcounts, rfl⟩ }

end Scoring

/-! ## Reports -/

namespace Service

/-- The incidents that a run sums up. -/
def RunReport.incidents (report : RunReport) : List Incident :=
  Incident.ofRun report.findings report.cases report.outcomes

/-- What a report on the records of a request says, and where it has it from. -/
structure RunReport.IsOf (report : RunReport) (request : RunRequest) (data : Dataset) :
    Prop where
  dataset : request.dataset.dataset = .ok data
  findings : ∃ checks found misaligned, loadChecks request.customChecks = .ok checks ∧
    Custom.runAll checks data = .ok found ∧
    report.direction.misaligned (request.ownNumbers.map Value.text) data.headers
      data.buyerIndex = .ok misaligned ∧
    report.findings = found ++ misaligned
  cases : (if request.withPack then Pint.runAll Pint.packValues data else .ok []) =
    .ok report.cases
  outcomes : report.outcomes = if request.withBaseline then Baseline.runAll data else []
  summary : Scoring.summary report.incidents (.ofNat data.headers.length) = .ok report.summary

theorem RunReport.exists_isOf {request : RunRequest} {report : RunReport}
    (h : run request = .ok report) : ∃ data, report.IsOf request data := by
  unfold run at h
  cases hchecks : loadChecks request.customChecks with
  | error refusal =>
      rw [hchecks] at h
      cases h
  | ok checks =>
      rw [hchecks] at h
      obtain ⟨data, hdata, h⟩ := Reply.bind_liftM_eq_ok.1 h
      obtain ⟨found, hfound, h⟩ := Reply.bind_liftM_eq_ok.1 h
      obtain ⟨misaligned, hmisaligned, h⟩ := Reply.bind_liftM_eq_ok.1 h
      dsimp only at h
      split at h
      case isTrue hpack =>
        obtain ⟨cases, hcases, h⟩ := Reply.bind_liftM_eq_ok.1 h
        obtain ⟨summary, hsummary, ⟨⟩⟩ := Reply.bind_liftM_eq_ok.1 h
        exact ⟨data, hdata, ⟨checks, found, misaligned, hchecks, hfound, hmisaligned, rfl⟩,
          (if_pos hpack).trans hcases, rfl, hsummary⟩
      case isFalse hpack =>
        obtain ⟨summary, hsummary, ⟨⟩⟩ := Reply.bind_liftM_eq_ok.1 h
        exact ⟨data, hdata, ⟨checks, found, misaligned, hchecks, hfound, hmisaligned, rfl⟩,
          if_neg hpack, rfl, hsummary⟩

theorem RunReport.IsOf.summed {request : RunRequest} {report : RunReport} {data : Dataset}
    (h : report.IsOf request data) :
    report.summary.IsOf report.incidents data.headers.length :=
  Scoring.Summary.isOf_of_summary_eq_ok h.summary

end Service

end InvoiceReadiness
