import InvoiceReadiness.Proofs.Traceability.Issues

/-!
# Checks that pass

The report on a catalog counts the checks that passed, and lists issues. The count and the
list are made apart, so that a check might be counted although it left an issue, or might do
neither. Here both are traced back to what each check asks of the catalog
(`Consistency.Check.holds`).

A check that holds is counted and leaves no issue of its own, and a check that fails leaves
one. Beside these there is a note on terms that are tolerated, which counts against no check.
So all checks passed if there is no issue but the note, as long as there are mandatory
requirements at all; that there are some is a check of its own, which is told here only for
catalogs that have some.

## Main results

* `Catalog.exists_found` — the issues and the count of a report, by the checks.
* `Consistency.accountsFor_of_isMadeOf` — what a report tells of each check.
* `Catalog.consistency_accounts` — issues and count of the report on a catalog.
-/

namespace InvoiceReadiness.Traceability

/-! ## Checks -/

/-- The checks of a catalog that leave an issue where something does not fit. -/
inductive Consistency.Check where
  /-- Rules name requirements of the registry, or what is tolerated. -/
  | terms
  /-- What has columns is in the registry. -/
  | columns
  /-- What has columns and rules has controls. -/
  | controls
  /-- Controls name rules of the pack. -/
  | rules
  /-- What is mandatory has rules. -/
  | enforcement
  deriving DecidableEq

namespace Consistency.Check

def all : List Check := [terms, columns, controls, rules, enforcement]

def level : Check → Level
  | terms | columns | rules => .error
  | controls | enforcement => .warning

def category : Check → String
  | terms => "Rule-DR Integrity"
  | columns => "Template-DR Integrity"
  | controls => "Coverage Integrity"
  | rules => "Control-Rule Integrity"
  | enforcement => "Mandatory Coverage"

def message : Check → String
  | terms => "rule(s) reference DR IDs not in registry"
  | columns => "template column mapping(s) reference invalid DR IDs"
  | controls => "DR(s) have rules but no control linked"
  | rules => "control(s) reference rule IDs not in check pack"
  | enforcement => "mandatory DR(s) have no validation rule"

/-- Whether a catalog has nothing that fails a check. -/
def holds (catalog : Catalog) : Check → Bool
  | terms => catalog.unknownTerms.all fun mention => isTolerated mention.2
  | columns => (catalog.requirements.filter Requirement.inTemplate).all fun r =>
      isAmong (catalog.requirements.map Requirement.id) r.id
  | controls => catalog.unprotectedIds.isEmpty
  | rules => catalog.unknownRules.isEmpty
  | enforcement => catalog.unenforcedIds.isEmpty

/-- The issue of a check about what it found, if it found anything. -/
def issue (check : Check) (found : List Value) : Option Issue :=
  issueOf check.level check.category check.message found

/-- Whether an issue is one of the check. -/
def raised (check : Check) (issue : Issue) : Bool :=
  issue.level == check.level && issue.category == check.category

theorem mem_all (check : Check) : check ∈ all := by
  cases check <;> decide

end Consistency.Check

/-- Whether an issue is the note on terms that are tolerated. -/
def Issue.isNote (issue : Issue) : Bool :=
  issue.level == .warning && issue.category == "Rule-DR Integrity"

/-- The note on terms that are tolerated, if there are any. -/
def noteOn (tolerated : List Value) : Option Issue :=
  issueOf .warning "Rule-DR Integrity"
    ("rule reference(s) are outside the customer DR registry " ++
      "(non-blocking meta/derived terms)") tolerated

theorem of_issueOf_eq_some {level : Level} {category message : String} {affected : List Value}
    {issue : Issue} (h : issueOf level category message affected = some issue) :
    issue.level = level ∧ issue.category = category ∧ affected ≠ [] := by
  unfold issueOf at h
  split at h
  · cases h
  · rename_i hsome
    cases h
    exact ⟨rfl, rfl, fun hnone => hsome (hnone ▸ rfl)⟩

/-! ## Issues and the count -/

open Consistency (Check)

/-- What the report on a catalog tells of each check. Of the check that there are mandatory
requirements it is told what follows if there are some. -/
structure Consistency.AccountsFor (report : Consistency) (catalog : Catalog) : Prop where
  /-- A check leaves one issue if it fails, and none if it holds. -/
  leaves : ∀ check : Check,
    (report.issues.filter check.raised).length = (!check.holds catalog).toNat
  /-- The checks that hold are counted. -/
  counts : Check.all.countP (Check.holds catalog) ≤ report.passed
  counts_mandatory : catalog.mandatory ≠ [] →
    report.passed = 1 + Check.all.countP (Check.holds catalog)
  issues_mandatory : catalog.mandatory ≠ [] → ∀ issue ∈ report.issues,
    issue.isNote ∨ ∃ check : Check, check.raised issue

section Report

variable {fields : List Registry.Field} {checks definitions : List Value}
  {catalog : Catalog} {report : Consistency}

/-- The issues are the note and those of the checks that found something; the checks that
found nothing are counted. -/
structure Consistency.IsMadeOf (report : Consistency) (catalog : Catalog)
    (tolerated : List Value) (found : Check → List Value) : Prop where
  issues : report.issues =
    (noteOn tolerated).toList ++ Check.all.flatMap fun check => (check.issue (found check)).toList
  passed : report.passed = (if catalog.mandatory.isEmpty then 0 else 1) +
    Check.all.countP fun check => (found check).isEmpty
  found : ∀ check, (found check).isEmpty = check.holds catalog

/-- Whatever has columns in a catalog is a requirement of it. -/
theorem Consistency.Check.holds_columns (hmade : catalog.MadeOf fields checks definitions) :
    Check.columns.holds catalog := by
  refine List.all_eq_true.2 fun r hr => ?_
  have hmem := List.mem_map_of_mem (f := Requirement.id) (List.mem_filter.1 hr).1
  exact isAmong_of_mem hmem (hmade.requirementIds r.id hmem)

/-- The issues and the count of a report, by what the checks found. -/
theorem Catalog.exists_found (hmade : catalog.MadeOf fields checks definitions)
    (h : catalog.consistency = .ok report) :
    ∃ tolerated found, report.IsMadeOf catalog tolerated found := by
  obtain ⟨tolerated, invalid, unknown, hreports, hpassed⟩ := counts_of_consistency_eq_ok hmade h
  let found : Check → List Value
    | .terms => invalid
    | .columns => []
    | .controls => catalog.unprotectedIds
    | .rules => unknown
    | .enforcement => catalog.unenforcedIds
  refine ⟨tolerated, found, ?_, hpassed, ?_⟩
  · rw [hreports.issues]
    simp only [Check.all, List.flatMap_cons, List.flatMap_nil, List.append_nil,
      List.append_assoc]
    rfl
  · intro check
    cases check with
    | terms =>
        rw [Bool.eq_iff_iff, List.isEmpty_iff, textsOf_eq_nil_iff hreports.ofInvalid,
          List.filter_eq_nil_iff, Check.holds, List.all_eq_true]
        simp
    | columns =>
        rw [Check.holds_columns hmade]
        rfl
    | controls => rfl
    | rules =>
        rw [Bool.eq_iff_iff, List.isEmpty_iff, textsOf_eq_nil_iff hreports.ofUnknown,
          ← List.isEmpty_iff]
        rfl
    | enforcement => rfl

namespace Consistency.IsMadeOf

variable {tolerated : List Value} {found : Check → List Value}
  (h : report.IsMadeOf catalog tolerated found)

include h

/-- A check has one issue if it found something; no other issue is one of the check. -/
theorem length_filter_raised (check : Check) :
    (report.issues.filter check.raised).length = (!check.holds catalog).toNat := by
  have hsort (level : Level) (category message : String) (affected : List Value) :
      (issueOf level category message affected).toList.filter check.raised =
        if level == check.level && category == check.category then
          (issueOf level category message affected).toList
        else [] :=
    filter_issueOf (fun level category => level == check.level && category == check.category)
      level category message affected
  have hown : report.issues.filter check.raised = (check.issue (found check)).toList := by
    rw [h.issues]
    cases check <;> simp [noteOn, Check.all, Check.issue, hsort, Check.level, Check.category]
  rw [hown, ← h.found check]
  unfold Check.issue issueOf
  cases (found check).isEmpty <;> rfl

/-- Every issue is the note, or one of a check that fails. -/
theorem isNote_or_raised {issue : Issue} (hissue : issue ∈ report.issues) :
    issue.isNote ∨ ∃ check : Check, check.raised issue ∧ check.holds catalog = false := by
  rw [h.issues, List.mem_append] at hissue
  rcases hissue with hnote | hcheck
  · obtain ⟨hlevel, hcategory, -⟩ := of_issueOf_eq_some (Option.mem_toList.1 hnote)
    refine .inl ?_
    rw [Issue.isNote, hlevel, hcategory]
    rfl
  · obtain ⟨check, -, hmem⟩ := List.mem_flatMap.1 hcheck
    obtain ⟨hlevel, hcategory, hfound⟩ := of_issueOf_eq_some (Option.mem_toList.1 hmem)
    refine .inr ⟨check, ?_, ?_⟩
    · rw [Check.raised, hlevel, hcategory, beq_self_eq_true, beq_self_eq_true]
      rfl
    · rw [← h.found check]
      exact Bool.eq_false_iff.2 fun hempty => hfound (List.isEmpty_iff.1 hempty)

theorem passed_eq : report.passed =
    (if catalog.mandatory.isEmpty then 0 else 1) + Check.all.countP (Check.holds catalog) := by
  rw [h.passed]
  simp only [h.found]

/-- There is no issue but the note if and only if all checks hold. -/
theorem forall_isNote_iff : (∀ issue ∈ report.issues, issue.isNote) ↔
    ∀ check : Check, check.holds catalog := by
  constructor
  · intro hnotes check
    by_contra hfails
    have hone : (report.issues.filter check.raised).length = 1 := by
      rw [h.length_filter_raised, Bool.eq_false_iff.2 hfails]
      rfl
    have hsome := Nat.lt_of_lt_of_eq Nat.one_pos hone.symm
    obtain ⟨issue, hissue⟩ := List.exists_mem_of_length_pos hsome
    obtain ⟨hissue, hraised⟩ := List.mem_filter.1 hissue
    have hnote := hnotes issue hissue
    rw [Check.raised, Bool.and_eq_true, beq_iff_eq, beq_iff_eq] at hraised
    rw [Issue.isNote, hraised.1, hraised.2] at hnote
    cases check <;> cases hnote
  · intro hholds issue hissue
    refine (h.isNote_or_raised hissue).resolve_right ?_
    rintro ⟨check, -, hfails⟩
    rw [hholds check] at hfails
    cases hfails

end Consistency.IsMadeOf

theorem Consistency.accountsFor_of_isMadeOf {tolerated : List Value}
    {found : Check → List Value} (h : report.IsMadeOf catalog tolerated found) :
    report.AccountsFor catalog where
  leaves := h.length_filter_raised
  counts := by
    rw [h.passed_eq]
    exact Nat.le_add_left _ _
  counts_mandatory := by
    intro hmandatory
    rw [h.passed_eq, if_neg (mt List.isEmpty_iff.1 hmandatory)]
  issues_mandatory := by
    intro _ issue hissue
    refine (h.isNote_or_raised hissue).imp_right ?_
    rintro ⟨check, hraised, -⟩
    exact ⟨check, hraised⟩

/-- All six checks are counted if there are mandatory requirements and the others hold. -/
theorem Consistency.passed_eq_six_iff {tolerated : List Value} {found : Check → List Value}
    (h : report.IsMadeOf catalog tolerated found) :
    report.passed = 6 ↔ catalog.mandatory ≠ [] ∧ ∀ issue ∈ report.issues, issue.isNote := by
  have hall : Check.all.countP (Check.holds catalog) = 5 ↔
      ∀ check : Check, check.holds catalog := by
    have hlength := List.countP_eq_length (p := Check.holds catalog) (l := Check.all)
    exact hlength.trans ⟨fun hholds check => hholds check check.mem_all,
      fun hholds check _ => hholds check⟩
  have hle : Check.all.countP (Check.holds catalog) ≤ 5 := List.countP_le_length
  rw [h.forall_isNote_iff, ← hall, h.passed_eq, Ne, ← List.isEmpty_iff]
  by_cases hempty : catalog.mandatory.isEmpty
  · rw [if_pos hempty]
    exact iff_of_false (by omega) fun hboth => hboth.1 hempty
  · rw [if_neg hempty, and_iff_right hempty]
    omega

end Report

/--
The report on a catalog can be made if every mention of what is unknown has a text. Each check
of references and coverage either counts as passed or leaves one issue of its own. All six
checks passed only if there is no issue but the note on terms that are tolerated. If there are
mandatory requirements this is so if there is no issue but the note, and every issue is the note
or one of a check.
-/
theorem Catalog.consistency_accounts {fields : List Registry.Field}
    {checks definitions : List Value} {version : Value} {catalog : Catalog}
    (h : build fields checks definitions version = .ok catalog) :
    ((∃ report, catalog.consistency = .ok report) ↔
        ∀ mention ∈ catalog.unknownTerms ++ catalog.unknownRules,
          ∃ text, arrow mention.1 mention.2 = .ok text) ∧
      ∀ report, catalog.consistency = .ok report →
        report.AccountsFor catalog ∧
        (report.passed = 6 → ∀ issue ∈ report.issues, issue.isNote) ∧
        (catalog.mandatory ≠ [] →
          (report.passed = 6 ↔ ∀ issue ∈ report.issues, issue.isNote) ∧
          (report.issues = [] → report.passed = 6)) := by
  have hmade := of_build_eq_ok h
  refine ⟨exists_consistency_iff hmade, fun report hreport => ?_⟩
  obtain ⟨tolerated, found, hfound⟩ := exists_found hmade hreport
  have hsix := Consistency.passed_eq_six_iff hfound
  refine ⟨Consistency.accountsFor_of_isMadeOf hfound, fun hpassed => (hsix.1 hpassed).2,
    fun hmandatory => ⟨hsix.trans (and_iff_right hmandatory), fun hnone => ?_⟩⟩
  refine hsix.2 ⟨hmandatory, ?_⟩
  rw [hnone]
  exact List.forall_mem_nil _

/-- A mandatory requirement whose rule names a tolerated term too, another one that has no rule,
and a control that covers the rule and one that is not in the pack: two checks fail. -/
theorem Catalog.consistency_accounts_failing :
    let field (id : String) : Registry.Field :=
      { id := .text id, term := .text id, cardinality := .text "1..1",
        mandatoryFlag := .text "Mandatory" }
    let check : Value := .object [
      ("check_id", .text "UAE-UC1-CHK-001"), ("check_name", .text "Invoice number"),
      ("pint_reference_terms", .list [.text "IBT-001", .text "IBT-006"])]
    let control : Value := .object [
      ("control_id", .text "CTRL-001"), ("control_name", .text "Header gate"),
      ("control_type", .text "preventive"),
      ("covered_rule_ids", .list [.text "UAE-UC1-CHK-001", .text "UAE-UC1-CHK-099"])]
    ∃ catalog report,
      build [field "IBT-001", field "IBT-023"] [check] [control] .null = .ok catalog ∧
      catalog.consistency = .ok report ∧
      catalog.mandatory.length = 2 ∧
      report.AccountsFor catalog ∧
      (report.passed = 6 ↔ ∀ issue ∈ report.issues, issue.isNote) ∧
      Check.all.filter (Check.holds catalog) = [.terms, .columns, .controls] ∧
      report.issues.map (fun issue => (issue.level, issue.category)) = [
        (.warning, "Rule-DR Integrity"), (.error, "Control-Rule Integrity"),
        (.warning, "Mandatory Coverage")] ∧
      report.passed = 4 := by
  intro field check control
  have hrun : (do
      let catalog ← build [field "IBT-001", field "IBT-023"] [check] [control] .null
      let report ← catalog.consistency
      return (catalog.mandatory.length, Check.all.filter (Check.holds catalog),
        report.issues.map fun issue => (issue.level, issue.category), report.passed)) =
      (.ok (2, [.terms, .columns, .controls], [
          (.warning, "Rule-DR Integrity"), (.error, "Control-Rule Integrity"),
          (.warning, "Mandatory Coverage")], 4) :
        Result (Nat × List Check × List (Level × String) × Nat)) := by
    decide +kernel
  obtain ⟨catalog, hcatalog, hrun⟩ := Result.bind_eq_ok.1 hrun
  obtain ⟨report, hreport, hrun⟩ := Result.bind_eq_ok.1 hrun
  obtain ⟨hmandatory, hrun⟩ := Prod.mk.inj (Except.ok.inj hrun)
  obtain ⟨hholds, hrun⟩ := Prod.mk.inj hrun
  obtain ⟨hissues, hpassed⟩ := Prod.mk.inj hrun
  have hsome : catalog.mandatory ≠ [] := by
    intro hnone
    rw [hnone] at hmandatory
    cases hmandatory
  obtain ⟨haccounts, -, hiff⟩ := (consistency_accounts hcatalog).2 report hreport
  exact ⟨catalog, report, hcatalog, hreport, hmandatory, haccounts, (hiff hsome).1, hholds,
    hissues, hpassed⟩

/-- Two catalogs whose reports do not count six checks just if they list no issue: one in which
only a tolerated term is noted, and one without requirements. -/
theorem Catalog.consistency_miscounts :
    let field : Registry.Field :=
      { id := .text "IBT-001", term := .text "Invoice number", cardinality := .text "1..1",
        mandatoryFlag := .text "Mandatory" }
    let check : Value := .object [
      ("check_id", .text "UAE-UC1-CHK-001"), ("check_name", .text "Invoice number"),
      ("pint_reference_terms", .list [.text "IBT-001", .text "IBT-006"])]
    let control : Value := .object [
      ("control_id", .text "CTRL-001"), ("control_name", .text "Header gate"),
      ("control_type", .text "preventive"),
      ("covered_rule_ids", .list [.text "UAE-UC1-CHK-001"])]
    ∃ noted empty report other,
      build [field] [check] [control] .null = .ok noted ∧
      noted.consistency = .ok report ∧ report.issues.length = 1 ∧ report.passed = 6 ∧
      build [] [] [] .null = .ok empty ∧
      empty.consistency = .ok other ∧ other.issues.length = 0 ∧ other.passed = 5 := by
  intro field check control
  have hrun : (do
      let noted ← build [field] [check] [control] .null
      let report ← noted.consistency
      let empty ← build [] [] [] .null
      let other ← empty.consistency
      return ((report.issues.length, report.passed), (other.issues.length, other.passed))) =
      (.ok ((1, 6), (0, 5)) : Result ((Nat × Nat) × Nat × Nat)) := by
    decide +kernel
  obtain ⟨noted, hnoted, hrun⟩ := Result.bind_eq_ok.1 hrun
  obtain ⟨report, hreport, hrun⟩ := Result.bind_eq_ok.1 hrun
  obtain ⟨empty, hempty, hrun⟩ := Result.bind_eq_ok.1 hrun
  obtain ⟨other, hother, hrun⟩ := Result.bind_eq_ok.1 hrun
  obtain ⟨hfirst, hsecond⟩ := Prod.mk.inj (Except.ok.inj hrun)
  obtain ⟨hissues, hpassed⟩ := Prod.mk.inj hfirst
  obtain ⟨hnone, hfive⟩ := Prod.mk.inj hsecond
  exact ⟨noted, empty, report, other, hnoted, hreport, hissues, hpassed, hempty, hother, hnone,
    hfive⟩

end InvoiceReadiness.Traceability
