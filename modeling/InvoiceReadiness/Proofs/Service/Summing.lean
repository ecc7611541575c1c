import InvoiceReadiness.Proofs.Dataset.Joins
import InvoiceReadiness.Proofs.Scoring.Severities
import InvoiceReadiness.Proofs.Service.Runs
import InvoiceReadiness.Proofs.Service.TopFailing
import Mathlib.Algebra.GroupWithZero.Nat

/-!
# Answers that add up

An answer to a request to run checks lists exceptions in three places: those of the custom
checks and of the direction, those of the check pack, and those of each baseline check in its
result. Its numbers are computed on the way and not from what is listed. Here they are shown
to be what a reader of the answer counts, whatever the request asks for: the total, the counts
by severity, the passes and failures of each check, and the checks that failed most often.

Identifiers of checks are told apart as data. Those of custom checks come from the request,
so `1` and `1.0` are one check.

## Main results

* `Service.answerRun_addsUp` — every answer adds up.
-/

namespace InvoiceReadiness

/-! ## Reading an answer -/

/-- A member of an object; null if there is none. -/
def Value.part : Value → String → Value
  | object members, name => Members.get members name
  | _, _ => null

namespace Service

/-- What an answer lists. -/
structure Listing where
  exceptions : List Value
  cases : List Value
  /-- The result of each check, with the exceptions that it lists. -/
  results : List (Value × List Value)

/-- All exceptions that are listed. -/
def Listing.all (listing : Listing) : List Value :=
  listing.exceptions ++ listing.cases ++ listing.results.flatMap Prod.snd

/-- What is listed is what the answer lists in its three places. -/
structure Listing.IsOf (listing : Listing) (answer : Value) : Prop where
  exceptions : answer.part "exceptions" = .list listing.exceptions
  cases : answer.part "pint_ae_exceptions" = .list listing.cases
  results : answer.part "check_results" = .list (listing.results.map Prod.fst)
  ofResults : ∀ result ∈ listing.results, result.1.part "exceptions" = .list result.2

def DatasetBody.records (body : DatasetBody) : RecordKind → List Record
  | .buyers => body.buyers
  | .headers => body.headers
  | .lines => body.lines

/-- A result of a baseline check that lists some exceptions: these are its failures, and with
its passes they are the records of its category. -/
structure IsTally (body : DatasetBody) (result : Value) (exceptions : List Value) : Prop where
  failed : result.part "failed" = .ofNat exceptions.length
  passed : ∃ (check : Baseline.Check) (passed : Int), result.part "check_id" = .text check.id ∧
    result.part "passed" = .ofInt passed ∧
    passed + exceptions.length = (body.records check.category.kind).length

/-- The numbers of a summary, and those of the results, are what can be counted. -/
structure Listing.AddsUp (listing : Listing) (body : DatasetBody) (summary : Value) : Prop where
  tallies : ∀ result ∈ listing.results, IsTally body result.1 result.2
  total : ∃ failed : List Nat,
    listing.results.map (fun result => result.1.part "failed") = failed.map .ofNat ∧
    summary.part "total_exceptions" =
      .ofNat (failed.sum + listing.exceptions.length + listing.cases.length)
  severities : ∀ s : Severity, (summary.part "exceptions_by_severity").part s.name =
    .ofNat (listing.all.countP fun e => (e.part "severity").same (.text s.name))
  top : ∃ rows top, summary.part "top_failing_checks" = .list rows ∧
    (rows.map fun row => (row.part "check_id", row.part "count")) =
      top.map (fun t : Value × Nat => (t.1, .ofNat t.2)) ∧
    Scoring.IsTop 10 (listing.all.map fun e => e.part "check_id") top

/-! ## What a report lists -/

variable {body : Value} {request : RunRequest} {report : RunReport} {data : Dataset}

/-- What the answer of a report lists. -/
def RunReport.listing (report : RunReport) : Listing where
  exceptions := report.findings.map Finding.value
  cases := report.cases.map Pint.Case.value
  results := report.outcomes.map fun o => (o.value, o.findings.map Finding.value)

theorem RunReport.listing_isOf (report : RunReport) : report.listing.IsOf report.value where
  exceptions := rfl
  cases := rfl
  results := by
    simp only [listing, List.map_map]
    rfl
  ofResults := List.forall_mem_map.2 fun _ _ => rfl

/-- What is read off all that is listed is read off the incidents, if it is so for each kind
of exception. The order of the three places is that in which a summary takes them. -/
theorem RunReport.map_all_listing {α : Type} (report : RunReport) (read : Value → α)
    (look : Incident → α) (hfinding : ∀ f : Finding, read f.value = look (.ofFinding f))
    (hcase : ∀ c : Pint.Case, read c.value = look (.ofCase c)) :
    report.listing.all.map read = report.incidents.map look := by
  have hfindings (findings : List Finding) : (findings.map Finding.value).map read =
      (findings.map Incident.ofFinding).map look := by
    rw [List.map_map, List.map_map]
    exact List.map_congr_left fun f _ => hfinding f
  have hcases : (report.cases.map Pint.Case.value).map read =
      (report.cases.map Incident.ofCase).map look := by
    rw [List.map_map, List.map_map]
    exact List.map_congr_left fun c _ => hcase c
  simp only [Listing.all, listing, incidents, Incident.ofRun, List.map_append, hfindings, hcases,
    List.map_flatMap, List.flatMap_map]

/-- As many incidents are summed up as exceptions are listed. -/
theorem RunReport.length_incidents (report : RunReport) :
    report.incidents.length = (report.outcomes.map fun o => o.findings.length).sum +
      report.findings.length + report.cases.length := by
  simp only [incidents, Incident.ofRun, List.length_append, List.length_map, List.length_flatMap]
  omega

/-! ## Tallies -/

theorem DatasetBody.records_eq {body : DatasetBody} (h : body.dataset = .ok data)
    (kind : RecordKind) : data.records kind = body.records kind := by
  obtain ⟨hbuyers, hheaders, hlines⟩ := Dataset.records_of_ofRecords h
  cases kind with
  | buyers => exact hbuyers
  | headers => exact hheaders
  | lines => exact hlines

/-- The outcome of a baseline check is a tally, also of one that met a fault. -/
theorem isTally_outcome {body : DatasetBody} (h : body.dataset = .ok data)
    (check : Baseline.Check) : IsTally body (check.outcome data).value
      ((check.outcome data).findings.map Finding.value) where
  failed := by
    rw [List.length_map]
    rfl
  passed := by
    refine ⟨check, (check.outcome data).passed, rfl, rfl, ?_⟩
    rw [List.length_map, ← DatasetBody.records_eq h]
    exact Int.sub_add_cancel _ _

/-! ## Reports -/

namespace RunReport.IsOf

variable (h : report.IsOf request data)

include h

theorem isTally : ∀ result ∈ report.listing.results,
    IsTally request.dataset result.1 result.2 := by
  refine List.forall_mem_map.2 fun outcome houtcome => ?_
  rw [h.outcomes] at houtcome
  split at houtcome
  · obtain ⟨check, -, rfl⟩ := List.mem_map.1 houtcome
    exact isTally_outcome h.dataset check
  · cases houtcome

theorem part_total : report.summary.value.part "total_exceptions" =
    .ofNat ((report.outcomes.map fun o => o.findings.length).sum + report.findings.length +
      report.cases.length) := by
  have htotal : report.summary.value.part "total_exceptions" =
      .ofNat report.summary.incidents := rfl
  rw [htotal, h.summed.incidents, report.length_incidents]

theorem part_severity (s : Severity) :
    (report.summary.value.part "exceptions_by_severity").part s.name =
      .ofNat (report.listing.all.countP fun e =>
        (e.part "severity").same (.text s.name)) := by
  have hcounts : (report.summary.value.part "exceptions_by_severity").part s.name =
      .ofNat (report.summary.severities.count s) := by cases s <;> rfl
  have hseverities := h.summed.severities
  have hread := report.map_all_listing (fun e => (e.part "severity").same (.text s.name))
    (fun incident => incident.severity.same (.text s.name)) (fun _ => rfl) fun _ => rfl
  have hcount := congrArg (List.countP id) hread
  rw [List.countP_map, List.countP_map] at hcount
  rw [hcounts, Scoring.count_severitiesOf hseverities]
  exact congrArg Value.ofNat hcount.symm

theorem isTop_top : Scoring.IsTop 10 (report.listing.all.map fun e => e.part "check_id")
    (report.summary.top.map fun entry => (entry.shown, entry.value.count)) := by
  obtain ⟨counts, hcounts, htop⟩ := h.summed.top
  have hread := report.map_all_listing (fun e => e.part "check_id") Incident.checkId
    (fun _ => rfl) fun _ => rfl
  rw [hread, htop]
  exact Scoring.topFailing_isTop hcounts

theorem addsUp : report.listing.AddsUp request.dataset report.summary.value where
  tallies := h.isTally
  total := by
    refine ⟨report.outcomes.map fun o => o.findings.length, ?_, ?_⟩
    · simp only [listing, List.map_map]
      rfl
    · simpa only [listing, List.length_map] using h.part_total
  severities := h.part_severity
  top := by
    refine ⟨_, _, rfl, ?_, h.isTop_top⟩
    rw [List.map_map, List.map_map]
    rfl

end RunReport.IsOf

/-! ## Answers -/

/-- A request is answered with the report of a run. -/
theorem answerRun_eq_ok {answer : Value} (h : answerRun body = .ok answer) :
    ∃ request report, Shape.run body = some request ∧ run request = .ok report ∧
      answer = report.value := by
  unfold answerRun at h
  cases hrequest : Shape.run body with
  | none =>
      rw [hrequest] at h
      cases h
  | some request =>
      have hrun : (run request).map RunReport.value = .ok answer := by rwa [hrequest] at h
      cases hreport : run request with
      | error refusal =>
          rw [hreport] at hrun
          cases hrun
      | ok report =>
          rw [hreport] at hrun
          exact ⟨request, report, rfl, hreport, (Except.ok.inj hrun).symm⟩

/-- **An answer to a request to run checks adds up**, whichever checks the request asks for.
It lists what the checks found in the records of the request, and its numbers are those of
the exceptions that it lists, each of them counted once, and of the records. -/
theorem answerRun_addsUp {answer : Value} (h : answerRun body = .ok answer) :
    ∃ (request : RunRequest) (report : RunReport) (data : Dataset),
      Shape.run body = some request ∧ report.IsOf request data ∧
      report.listing.IsOf answer ∧
      report.listing.AddsUp request.dataset (answer.part "summary") := by
  obtain ⟨request, report, hrequest, hrun, rfl⟩ := answerRun_eq_ok h
  obtain ⟨data, hreport⟩ := RunReport.exists_isOf hrun
  exact ⟨request, report, data, hrequest, hreport, report.listing_isOf, hreport.addsUp⟩

/-- A request over a buyer, a header and a line that lack most of their cells, with a check of
its own. -/
def sparseRequest : Value :=
  .object [
    ("dataset", .object [
      ("buyers", .list [.object [("buyer_id", .text "B1")]]),
      ("headers", .list [.object [("invoice_id", .text "A"), ("invoice_number", .text "N1")]]),
      ("lines", .list [.object [("invoice_id", .text "A"), ("line_number", .ofNat 1)]])]),
    ("custom_checks", .list [.object [("name", .text "SKU"), ("rule_type", .text "missing"),
      ("dataset_scope", .text "lines"), ("parameters", .object [("field", .text "sku")])]])]

/-- There are exceptions in all three places, of more than ten checks. -/
theorem answerRun_addsUp_sparse :
    ∃ (answer : Value) (request : RunRequest) (report : RunReport) (data : Dataset),
      answerRun sparseRequest = .ok answer ∧
      Shape.run sparseRequest = some request ∧ report.IsOf request data ∧
      report.listing.IsOf answer ∧
      report.listing.AddsUp request.dataset (answer.part "summary") ∧
      report.listing.exceptions.length = 1 ∧ report.listing.cases.length = 15 ∧
      report.listing.results.length = 10 := by
  let size (answer : Value) (place : String) : Option Nat :=
    (answer.part place).elements.toOption.map List.length
  have hsizes : (answerRun sparseRequest).toOption.map (fun answer =>
      (size answer "exceptions", size answer "pint_ae_exceptions", size answer "check_results")) =
      some (some 1, some 15, some 10) := by decide +kernel
  cases hanswer : answerRun sparseRequest with
  | error refusal =>
      rw [hanswer] at hsizes
      cases hsizes
  | ok answer =>
      obtain ⟨request, report, data, hrequest, hreport, hlists, hsum⟩ := answerRun_addsUp hanswer
      have hsize {place : String} {items : List Value} (h : answer.part place = .list items) :
          size answer place = some items.length := by
        simp only [size, h]
        rfl
      rw [hanswer] at hsizes
      simp only [Except.toOption, Option.map_some, hsize hlists.exceptions, hsize hlists.cases,
        hsize hlists.results, List.length_map, Option.some.injEq, Prod.mk.injEq] at hsizes
      exact ⟨answer, request, report, data, rfl, hrequest, hreport, hlists, hsum, hsizes⟩

end Service

end InvoiceReadiness
