import InvoiceReadiness.Proofs.Service.Replies
import InvoiceReadiness.Proofs.Traceability.Issues
import InvoiceReadiness.Service.Traceability

/-!
# The gate before an export

The report of a matrix is refused while its catalog is inconsistent. Two things make it
so: a rule that names what is neither a requirement nor tolerated, and a control that
names what is no rule. Here the gate is shown to be exact: it is shut for these two and
for nothing else, and what it says on refusal lists each of their mentions.

## Main results

* `Traceability.Consistency.Reports.hasErrors_iff` — what counts as an error.
* `exportReport_denied_iff` — when the report is refused, and how.
* `exportReport_gate` — the gate in the terms of registry, rules and controls.
-/

namespace InvoiceReadiness.Traceability

variable {catalog : Catalog}

/-! ## Errors -/

namespace Consistency.Reports

variable {report : Consistency} {tolerated invalid unknown : List Value}
  (h : report.Reports catalog tolerated invalid unknown)

include h

theorem errors_eq : (report.issues.filter fun issue => issue.level == .error) =
    (issueOf .error "Rule-DR Integrity" "rule(s) reference DR IDs not in registry"
      invalid).toList ++
    (issueOf .error "Control-Rule Integrity" "control(s) reference rule IDs not in check pack"
      unknown).toList := by
  have hsort := filter_issueOf fun level _ => level == .error
  simp [h.issues, hsort]

theorem warnings_eq : (report.issues.filter fun issue => issue.level == .warning) =
    (issueOf .warning "Rule-DR Integrity"
      ("rule reference(s) are outside the customer DR registry " ++
        "(non-blocking meta/derived terms)") tolerated).toList ++
    (issueOf .warning "Coverage Integrity" "DR(s) have rules but no control linked"
      catalog.unprotectedIds).toList ++
    (issueOf .warning "Mandatory Coverage" "mandatory DR(s) have no validation rule"
      catalog.unenforcedIds).toList := by
  have hsort := filter_issueOf fun level _ => level == .warning
  simp [h.issues, hsort]

/-- A report has errors if and only if something is named that is unknown and not
tolerated. -/
theorem hasErrors_iff :
    report.hasErrors ↔
      (∃ rule ∈ catalog.rules, ∃ term ∈ rule.requirements,
        isAmong (catalog.requirements.map Requirement.id) term = false ∧
          isTolerated term = false) ∨
      ∃ control ∈ catalog.controls, ∃ name ∈ control.rules,
        isAmong (catalog.rules.map Rule.id) name = false := by
  have hany : report.hasErrors ↔
      (report.issues.filter fun issue => issue.level == .error) ≠ [] := by
    unfold hasErrors
    simp
  have hinvalid : invalid ≠ [] ↔ ∃ rule ∈ catalog.rules, ∃ term ∈ rule.requirements,
      isAmong (catalog.requirements.map Requirement.id) term = false ∧
        isTolerated term = false := by
    rw [Ne, textsOf_eq_nil_iff h.ofInvalid, Catalog.unknownTerms, List.filter_filter]
    apply (filter_mentions_ne_nil_iff fun term => !isTolerated term &&
      !isAmong (catalog.requirements.map Requirement.id) term).trans
    simp [and_comm]
  have hunknown : unknown ≠ [] ↔ ∃ control ∈ catalog.controls, ∃ name ∈ control.rules,
      isAmong (catalog.rules.map Rule.id) name = false := by
    rw [Ne, textsOf_eq_nil_iff h.ofUnknown, Catalog.unknownRules]
    apply (filter_mentions_ne_nil_iff fun name =>
      !isAmong (catalog.rules.map Rule.id) name).trans
    simp
  rw [hany, h.errors_eq, ← hinvalid, ← hunknown, Ne, List.append_eq_nil_iff,
    toList_issueOf_eq_nil_iff, toList_issueOf_eq_nil_iff, not_and_or]

end Consistency.Reports

/-- What is exact about the report of a catalog. -/
structure Consistency.IsExact (report : Consistency) (catalog : Catalog) : Prop where
  hasErrors : report.hasErrors ↔
    (∃ rule ∈ catalog.rules, ∃ term ∈ rule.requirements,
      isAmong (catalog.requirements.map Requirement.id) term = false ∧
        isTolerated term = false) ∨
    ∃ control ∈ catalog.controls, ∃ name ∈ control.rules,
      isAmong (catalog.rules.map Rule.id) name = false
  lists : ∃ tolerated invalid unknown,
    textsOf (catalog.unknownTerms.filter fun mention => isTolerated mention.2) =
      .ok tolerated ∧
    textsOf (catalog.unknownTerms.filter fun mention => !isTolerated mention.2) =
      .ok invalid ∧
    textsOf catalog.unknownRules = .ok unknown ∧
    (report.issues.filter fun issue => issue.level == .error) =
      (issueOf .error "Rule-DR Integrity" "rule(s) reference DR IDs not in registry"
        invalid).toList ++
      (issueOf .error "Control-Rule Integrity"
        "control(s) reference rule IDs not in check pack" unknown).toList ∧
    (report.issues.filter fun issue => issue.level == .warning) =
      (issueOf .warning "Rule-DR Integrity"
        ("rule reference(s) are outside the customer DR registry " ++
          "(non-blocking meta/derived terms)") tolerated).toList ++
      (issueOf .warning "Coverage Integrity" "DR(s) have rules but no control linked"
        catalog.unprotectedIds).toList ++
      (issueOf .warning "Mandatory Coverage" "mandatory DR(s) have no validation rule"
        catalog.unenforcedIds).toList

theorem Consistency.Reports.isExact {report : Consistency}
    {tolerated invalid unknown : List Value}
    (h : report.Reports catalog tolerated invalid unknown) : report.IsExact catalog where
  hasErrors := h.hasErrors_iff
  lists := ⟨tolerated, invalid, unknown, h.ofTolerated, h.ofInvalid, h.ofUnknown,
    h.errors_eq, h.warnings_eq⟩

end InvoiceReadiness.Traceability

namespace InvoiceReadiness.Service

open Traceability

/-! ## Refusals -/

/-- The report is refused with a conflict if and only if the catalog has errors. -/
theorem exportReport_denied_iff {catalog : Catalog} {request : MatrixRequest}
    {detail : Value} :
    exportReport catalog request = .error (.denied conflict detail) ↔
      ∃ report, catalog.consistency = .ok report ∧ report.hasErrors ∧
        detail = inconsistencyDetail report := by
  unfold exportReport
  rw [Reply.bind_liftM_eq_denied]
  refine exists_congr fun report => and_congr_right fun _ => ?_
  by_cases herrors : report.hasErrors
  · rw [if_pos herrors]
    constructor
    · rintro ⟨⟩
      exact ⟨herrors, rfl⟩
    · rintro ⟨-, rfl⟩
      rfl
  · rw [if_neg herrors]
    constructor
    · intro h
      obtain ⟨populations, -, h⟩ := Reply.bind_liftM_eq_denied.1 h
      obtain ⟨m, -, h⟩ := Reply.bind_liftM_eq_denied.1 h
      exact absurd h Reply.liftM_ne_denied
    · rintro ⟨h, -⟩
      exact absurd h herrors

/-- A request of the right shape is answered by what its catalog allows. -/
theorem answerExport_denied_iff {file : RegistryFile} {body detail : Value} {catalog : Catalog}
    (hcatalog : file.catalog = .ok catalog) {status : Nat} :
    answerExport file body = .error (.denied status detail) ↔
      ∃ request, Shape.matrix body = some request ∧
        exportReport catalog request = .error (.denied status detail) := by
  unfold answerExport
  cases Shape.matrix body with
  | none => exact iff_of_false nofun (by simp)
  | some request =>
      rw [hcatalog]
      constructor
      · intro h
        exact ⟨request, rfl, h⟩
      · rintro ⟨_, ⟨⟩, h⟩
        exact h

/--
The gate before an export is exact. A catalog can be checked if every mention of what is
unknown has a text, which only whole numbers of too many digits can lack. Then it has errors
if and only if a rule names what neither is in the registry nor is tolerated, or a control
covers what is no rule of the pack; the errors list these mentions, each once for every time
that it is made and in the order of the catalog, and one warning lists those that are
tolerated. The report is refused with a conflict in exactly this case, with the messages of
the errors.
-/
theorem exportReport_gate {fields : List Registry.Field} {checks definitions : List Value}
    {version : Value} {catalog : Catalog}
    (h : Catalog.build fields checks definitions version = .ok catalog) :
    catalog.requirements.map Requirement.id = fields.map Registry.Field.id ∧
      ((∃ report, catalog.consistency = .ok report) ↔
        ∀ mention ∈ catalog.unknownTerms ++ catalog.unknownRules,
          ∃ text, arrow mention.1 mention.2 = .ok text) ∧
      (∀ origin target : Value, origin.withinDigits → target.withinDigits →
        ∃ text, arrow origin target = .ok text) ∧
      (∀ report, catalog.consistency = .ok report → report.IsExact catalog) ∧
      (∀ request detail, exportReport catalog request = .error (.denied 409 detail) ↔
        ∃ report, catalog.consistency = .ok report ∧ report.hasErrors ∧
          detail = .object [
            ("message", .text "Catalog is inconsistent"),
            ("errors", .list ((report.issues.filter fun issue => issue.level == .error).map
              fun issue => .text issue.message))]) ∧
      ∀ file : RegistryFile, file.catalog = .ok catalog → ∀ body detail,
        (answerExport file body = .error (.denied 409 detail) ↔
          ∃ request, Shape.matrix body = some request ∧
            exportReport catalog request = .error (.denied 409 detail)) := by
  have hmade := Catalog.of_build_eq_ok h
  refine ⟨hmade.map_id, Catalog.exists_consistency_iff hmade, fun _ _ => exists_arrow, ?_,
    fun _ _ => exportReport_denied_iff, ?_⟩
  · intro report hreport
    obtain ⟨tolerated, invalid, unknown, hreports⟩ :=
      Catalog.reports_of_consistency_eq_ok hmade hreport
    exact hreports.isExact
  · intro file hcatalog body detail
    exact answerExport_denied_iff hcatalog

/-- A rule that names a term that is unknown, another one that is tolerated, twice, and a
requirement; and a control that covers the rule and another one that is not in the pack. -/
theorem exportReport_gate_shut :
    let field : Registry.Field := { id := .text "IBT-001", term := .text "Invoice number" }
    let check : Value := .object [
      ("check_id", .text "UAE-UC1-CHK-001"), ("check_name", .text "Invoice number"),
      ("pint_reference_terms", .list
        [.text "IBT-006", .text "IBT-404", .text "IBT-001", .text "IBT-006"])]
    let control : Value := .object [
      ("control_id", .text "CTRL-001"), ("control_name", .text "Header gate"),
      ("control_type", .text "preventive"),
      ("covered_rule_ids", .list [.text "UAE-UC1-CHK-001", .text "UAE-UC1-CHK-099"])]
    let shownText (v : Value) : String := v.asText.toOption.getD ""
    ∃ catalog report,
      Catalog.build [field] [check] [control] .null = .ok catalog ∧
      catalog.consistency = .ok report ∧
      report.issues.map (fun issue => (issue.level, issue.affected.map shownText)) = [
        (.warning, ["UAE-UC1-CHK-001 -> IBT-006", "UAE-UC1-CHK-001 -> IBT-006"]),
        (.error, ["UAE-UC1-CHK-001 -> IBT-404"]),
        (.error, ["CTRL-001 -> UAE-UC1-CHK-099"])] ∧
      report.IsExact catalog ∧
      exportReport catalog ⟨none, none, none⟩ = .error (.denied 409 (.object [
        ("message", .text "Catalog is inconsistent"),
        ("errors", .list [.text "1 rule(s) reference DR IDs not in registry",
          .text "1 control(s) reference rule IDs not in check pack"])])) := by
  intro field check control shownText
  have hrun : (do
      let catalog ← Catalog.build [field] [check] [control] .null
      let report ← catalog.consistency
      return (
        report.issues.map fun issue => (issue.level, issue.affected.map shownText),
        report.hasErrors,
        (report.issues.filter fun issue => issue.level == .error).map Issue.message)) =
      (.ok ([
          (.warning, ["UAE-UC1-CHK-001 -> IBT-006", "UAE-UC1-CHK-001 -> IBT-006"]),
          (.error, ["UAE-UC1-CHK-001 -> IBT-404"]),
          (.error, ["CTRL-001 -> UAE-UC1-CHK-099"])],
        true, ["1 rule(s) reference DR IDs not in registry",
          "1 control(s) reference rule IDs not in check pack"]) :
        Result (List (Level × List String) × Bool × List String)) := by
    decide +kernel
  obtain ⟨catalog, hcatalog, hrun⟩ := Result.bind_eq_ok.1 hrun
  obtain ⟨report, hreport, hrun⟩ := Result.bind_eq_ok.1 hrun
  obtain ⟨hissues, hrun⟩ := Prod.mk.inj (Except.ok.inj hrun)
  obtain ⟨herrors, hmessages⟩ := Prod.mk.inj hrun
  obtain ⟨-, -, -, hexact, hdenied, -⟩ := exportReport_gate hcatalog
  have hdetail := (hdenied ⟨none, none, none⟩ _).2 ⟨report, hreport, herrors, rfl⟩
  have htexts : (report.issues.filter fun issue => issue.level == .error).map
        (fun issue => Value.text issue.message) =
      ["1 rule(s) reference DR IDs not in registry",
        "1 control(s) reference rule IDs not in check pack"].map Value.text := by
    rw [← hmessages, List.map_map]
    rfl
  rw [htexts] at hdetail
  exact ⟨catalog, report, hcatalog, hreport, hissues, hexact report hreport, hdetail⟩

end InvoiceReadiness.Service
