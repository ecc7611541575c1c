import InvoiceReadiness.Proofs.Traceability.Gaps
import InvoiceReadiness.Proofs.Value.Showing
import InvoiceReadiness.Traceability.Consistency

/-!
# Issues of a catalog

Before an export a catalog is checked against itself. The check works out anew what the
catalog has: it goes through all that rules and controls mention, and asks the indices
which requirements are enforced and protected. Here its issues are read off the lists of
the catalog. They are compared with the rows of a matrix, where the same is decided by the
rules and controls that were found for each requirement.

A mention is listed by a text, and a whole number of too many digits has none. Nothing else
can keep a catalog from being checked.

## Main results

* `Catalog.danglingTerms_eq`, `Catalog.danglingRules_eq` — what is listed of the mentions.
* `Catalog.exists_consistency_iff`, `Catalog.counts_of_consistency_eq_ok` — when a catalog
  can be checked, what its issues are, and what is counted.
* `Catalog.consistency_agrees_with_rows` — issues about coverage and rows of the matrix.
-/

namespace InvoiceReadiness.Traceability

variable {α β : Type}

/-! ## Mentions -/

/-- What items name, with the identifier of the item: one mention for each time that
something is named, in order. -/
def mentions (id : α → Value) (named : α → List Value) (items : List α) :
    List (Value × Value) :=
  items.flatMap fun item => (named item).map fun name => (id item, name)

theorem mem_mentions {id : α → Value} {named : α → List Value} {items : List α}
    {mention : Value × Value} :
    mention ∈ mentions id named items ↔
      ∃ item ∈ items, ∃ name ∈ named item, (id item, name) = mention := by
  simp only [mentions, List.mem_flatMap, List.mem_map]

/-- Some mention is of a sort if some item names a thing of the sort. -/
theorem filter_mentions_ne_nil_iff {id : α → Value} {named : α → List Value}
    {items : List α} (p : Value → Bool) :
    ((mentions id named items).filter fun mention => p mention.2) ≠ [] ↔
      ∃ item ∈ items, ∃ name ∈ named item, p name := by
  rw [Ne, List.filter_eq_nil_iff]
  constructor
  · intro h
    by_contra hnone
    apply h
    intro mention hmention hp
    obtain ⟨item, hitem, name, hname, rfl⟩ := mem_mentions.1 hmention
    exact hnone ⟨item, hitem, name, hname, hp⟩
  · rintro ⟨item, hitem, name, hname, hp⟩ h
    exact h (id item, name) (mem_mentions.2 ⟨item, hitem, name, hname, rfl⟩) hp

/-- The texts by which mentions are listed, one for each. -/
def textsOf (found : List (Value × Value)) : Result (List Value) :=
  found.mapM fun mention => arrow mention.1 mention.2

theorem exists_textsOf_iff {found : List (Value × Value)} :
    (∃ texts, textsOf found = .ok texts) ↔
      ∀ mention ∈ found, ∃ text, arrow mention.1 mention.2 = .ok text :=
  Result.exists_mapM_eq_ok_iff

/-- There are as many texts as mentions. -/
theorem textsOf_eq_nil_iff {found : List (Value × Value)} {texts : List Value}
    (h : textsOf found = .ok texts) : texts = [] ↔ found = [] := by
  unfold textsOf at h
  rw [Result.mapM_eq_ok_iff] at h
  have hlength := congrArg List.length h
  rw [List.length_map, List.length_map] at hlength
  rw [← List.length_eq_zero_iff, ← List.length_eq_zero_iff, hlength]

/-- A mention has a text if its parts have texts. -/
theorem exists_arrow {origin target : Value} (horigin : origin.withinDigits)
    (htarget : target.withinDigits) : ∃ text, arrow origin target = .ok text := by
  obtain ⟨start, hstart⟩ := Value.exists_shown horigin
  obtain ⟨stop, hstop⟩ := Value.exists_shown htarget
  exact ⟨_, Result.bind_eq_ok.2 ⟨start, hstart, Result.bind_eq_ok.2 ⟨stop, hstop, rfl⟩⟩⟩

/-- Going through items and their names is going through the mentions. -/
theorem flatten_filterMapM_named {id : α → Value} {named : α → List Value} {items : List α}
    {known : Value → Bool} {found : α → Value → Result (Option β)}
    {make : Value × Value → Result β}
    (h : ∀ item ∈ items, ∀ name ∈ named item,
      found item name = if !known name then some <$> make (id item, name) else .ok none) :
    (do return (← items.mapM fun item => (named item).filterMapM (found item)).flatten :
        Result (List β)) =
      ((mentions id named items).filter fun mention => !known mention.2).mapM make := by
  have hitem : ∀ item ∈ items, (named item).filterMapM (found item) =
      (((named item).filter fun name => !known name).map fun name => (id item, name)).mapM
        make := by
    intro item hitem
    rw [Result.filterMapM_eq_mapM_filter (h item hitem), List.mapM_map]
    rfl
  rw [Result.flatten_mapM hitem, mentions, List.filter_flatMap]
  simp only [List.filter_map, Function.comp_def]

/-! ## What does not fit -/

namespace Catalog

/-- The mentions of what is no requirement by rules. -/
def unknownTerms (catalog : Catalog) : List (Value × Value) :=
  (mentions Rule.id Rule.requirements catalog.rules).filter fun mention =>
    !isAmong (catalog.requirements.map Requirement.id) mention.2

/-- The mentions of rules that are not in the pack by controls. -/
def unknownRules (catalog : Catalog) : List (Value × Value) :=
  (mentions Control.id Control.rules catalog.controls).filter fun mention =>
    !isAmong (catalog.rules.map Rule.id) mention.2

/-- Requirements with columns that are enforced but not protected. -/
def unprotectedIds (catalog : Catalog) : List Value :=
  ((catalog.requirements.filter Requirement.inTemplate).map Requirement.id).filter fun id =>
    isEnforced catalog.rules id && !isProtected catalog.controls id

/-- Mandatory requirements that are not enforced. -/
def unenforcedIds (catalog : Catalog) : List Value :=
  (catalog.mandatory.map Requirement.id).filter fun id => !isEnforced catalog.rules id

end Catalog

theorem has_lastOf_keyOf {id : α → Value} {items : List α}
    (hids : AllIdentifiers (items.map id)) {v : Value} (hv : v.isIdentifier) :
    (Index.lastOf id items).has v.keyOf = isAmong (items.map id) v := by
  rw [← any_keyOf_eq_isAmong hids hv, Index.lastOf, Index.has_file, List.any_map]
  exact Bool.false_or _

section Dangling

variable {fields : List Registry.Field} {checks definitions : List Value}
  {catalog : Catalog} (hmade : catalog.MadeOf fields checks definitions)

include hmade

namespace Catalog

theorem danglingTerms_eq :
    catalog.danglingTerms = catalog.unknownTerms.mapM fun mention => do
      return (mention.2, ← arrow mention.1 mention.2) := by
  apply flatten_filterMapM_named
  intro rule hrule term hterm
  have hid := hmade.ruleNames rule hrule term hterm
  rw [Value.key_eq_ok_keyOf hid, Result.ok_bind, hmade.requirementIndex,
    has_lastOf_keyOf hmade.requirementIds hid]
  cases isAmong (catalog.requirements.map Requirement.id) term with
  | true => rfl
  | false => cases arrow rule.id term <;> rfl

theorem danglingRules_eq : catalog.danglingRules = textsOf catalog.unknownRules := by
  apply flatten_filterMapM_named
  intro control hcontrol name hname
  have hid := (Control.of_mem_controls hmade hcontrol).1 name hname
  rw [Value.key_eq_ok_keyOf hid, Result.ok_bind, hmade.ruleIndex,
    has_lastOf_keyOf hmade.ruleIds hid]
  cases isAmong (catalog.rules.map Rule.id) name with
  | true => rfl
  | false => cases arrow control.id name <;> rfl

/-- Every requirement is found by its identifier. -/
theorem orphans_eq : catalog.orphans = .ok [] := by
  have hnone : ∀ id ∈ (catalog.requirements.filter Requirement.inTemplate).map Requirement.id,
      (do return !catalog.requirementIndex.has (← id.key) : Result Bool) = .ok false := by
    intro id hmem
    have hknown := List.map_subset Requirement.id (List.filter_subset_self _) hmem
    have hid := hmade.requirementIds id hknown
    rw [Value.key_eq_ok_keyOf hid, Result.ok_bind, hmade.requirementIndex,
      has_lastOf_keyOf hmade.requirementIds hid, isAmong_of_mem hknown hid]
    rfl
  rw [orphans, Result.filterM_eq_ok_filter hnone]
  exact congrArg Except.ok (List.filter_eq_nil_iff.2 fun _ _ => Bool.false_ne_true)

theorem has_rulesByRequirement {id : Value} (hid : id.isIdentifier) :
    catalog.rulesByRequirement.has id.keyOf = isEnforced catalog.rules id := by
  rw [hmade.rulesByRequirement, has_citedIndex_keyOf hmade.ruleNames hid]
  rfl

theorem has_controlsByRequirement {id : Value} (hid : id.isIdentifier) :
    catalog.controlsByRequirement.has id.keyOf = isProtected catalog.controls id := by
  rw [hmade.controlsByRequirement, has_citedIndex_keyOf hmade.controlNames hid]
  rfl

theorem uncontrolled_eq : catalog.uncontrolled = .ok catalog.unprotectedIds := by
  apply Result.filterM_eq_ok_filter
  intro id hmem
  have hid := hmade.requirementIds id (List.map_subset _ (List.filter_subset_self _) hmem)
  rw [Value.key_eq_ok_keyOf hid, Result.ok_bind, has_rulesByRequirement hmade hid,
    has_controlsByRequirement hmade hid]
  rfl

theorem unenforced_eq : catalog.unenforced = .ok catalog.unenforcedIds := by
  apply Result.filterM_eq_ok_filter
  intro id hmem
  have hid := hmade.requirementIds id (List.map_subset _ (List.filter_subset_self _) hmem)
  rw [Value.key_eq_ok_keyOf hid, Result.ok_bind, has_rulesByRequirement hmade hid]
  rfl

end Catalog

end Dangling

/-! ## Issues -/

theorem toList_issueOf_eq_nil_iff {level : Level} {category message : String}
    {affected : List Value} :
    (issueOf level category message affected).toList = [] ↔ affected = [] := by
  unfold issueOf
  cases affected <;> simp

theorem isNone_issueOf {level : Level} {category message : String} {affected : List Value} :
    (issueOf level category message affected).isNone = affected.isEmpty := by
  unfold issueOf
  cases affected <;> rfl

/-- What an issue is about does not matter for its level and category. -/
theorem filter_issueOf (q : Level → String → Bool) (level : Level) (category message : String)
    (affected : List Value) :
    ((issueOf level category message affected).toList.filter fun issue =>
        q issue.level issue.category) =
      if q level category then (issueOf level category message affected).toList else [] := by
  unfold issueOf
  by_cases hq : q level category
  · cases affected <;> simp [hq]
  · cases affected <;> simp [hq]

/-- What a report lists: mentions of what is unknown by their texts, those that are
tolerated apart, and requirements that lack something by their identifiers. -/
structure Consistency.Reports (report : Consistency) (catalog : Catalog)
    (tolerated invalid unknown : List Value) : Prop where
  ofTolerated :
    textsOf (catalog.unknownTerms.filter fun mention => isTolerated mention.2) = .ok tolerated
  ofInvalid :
    textsOf (catalog.unknownTerms.filter fun mention => !isTolerated mention.2) = .ok invalid
  ofUnknown : textsOf catalog.unknownRules = .ok unknown
  issues : report.issues =
    (issueOf .warning "Rule-DR Integrity"
      ("rule reference(s) are outside the customer DR registry " ++
        "(non-blocking meta/derived terms)") tolerated).toList ++
    (issueOf .error "Rule-DR Integrity" "rule(s) reference DR IDs not in registry"
      invalid).toList ++
    (issueOf .warning "Coverage Integrity" "DR(s) have rules but no control linked"
      catalog.unprotectedIds).toList ++
    (issueOf .error "Control-Rule Integrity" "control(s) reference rule IDs not in check pack"
      unknown).toList ++
    (issueOf .warning "Mandatory Coverage" "mandatory DR(s) have no validation rule"
      catalog.unenforcedIds).toList

/-- For a report the mentions of what is unknown were found. -/
theorem Catalog.exists_dangling_of_consistency_eq_ok {catalog : Catalog} {report : Consistency}
    (h : catalog.consistency = .ok report) :
    ∃ dangling unknown, catalog.danglingTerms = .ok dangling ∧
      catalog.danglingRules = .ok unknown := by
  obtain ⟨dangling, hdangling, h⟩ := Result.bind_eq_ok.1 h
  obtain ⟨_, -, h⟩ := Result.bind_eq_ok.1 h
  obtain ⟨_, -, h⟩ := Result.bind_eq_ok.1 h
  obtain ⟨unknown, hunknown, -⟩ := Result.bind_eq_ok.1 h
  exact ⟨dangling, unknown, hdangling, hunknown⟩

section Consistency

variable {fields : List Registry.Field} {checks definitions : List Value}
  {catalog : Catalog} (hmade : catalog.MadeOf fields checks definitions)

include hmade

namespace Catalog

/-- A catalog can be checked if and only if all mentions of what is unknown have a text. -/
theorem exists_consistency_iff :
    (∃ report, catalog.consistency = .ok report) ↔
      ∀ mention ∈ catalog.unknownTerms ++ catalog.unknownRules,
        ∃ text, arrow mention.1 mention.2 = .ok text := by
  have hterms : (∃ dangling, catalog.danglingTerms = .ok dangling) ↔
      ∀ mention ∈ catalog.unknownTerms, ∃ text, arrow mention.1 mention.2 = .ok text := by
    rw [danglingTerms_eq hmade, Result.exists_mapM_eq_ok_iff]
    exact forall₂_congr fun _ _ => Result.exists_return_eq_ok_iff
  rw [List.forall_mem_append, ← hterms, ← exists_textsOf_iff]
  constructor
  · rintro ⟨report, h⟩
    obtain ⟨dangling, unknown, hdangling, hunknown⟩ := exists_dangling_of_consistency_eq_ok h
    exact ⟨⟨dangling, hdangling⟩, unknown, danglingRules_eq hmade ▸ hunknown⟩
  · rintro ⟨⟨dangling, hdangling⟩, unknown, hunknown⟩
    rw [consistency, hdangling, orphans_eq hmade, uncontrolled_eq hmade,
      danglingRules_eq hmade, hunknown, unenforced_eq hmade]
    exact ⟨_, rfl⟩

/-- What the issues of a catalog are, and which checks are counted: those that found nothing.
The check of columns never finds anything. -/
theorem counts_of_consistency_eq_ok {report : Consistency}
    (h : catalog.consistency = .ok report) :
    ∃ tolerated invalid unknown, report.Reports catalog tolerated invalid unknown ∧
      report.passed = (if catalog.mandatory.isEmpty then 0 else 1) +
        [invalid, [], catalog.unprotectedIds, unknown, catalog.unenforcedIds].countP
          List.isEmpty := by
  obtain ⟨dangling, unknown, hdangling, hunknown⟩ := exists_dangling_of_consistency_eq_ok h
  rw [consistency, hdangling, orphans_eq hmade, uncontrolled_eq hmade, hunknown,
    unenforced_eq hmade] at h
  cases h
  rw [danglingTerms_eq hmade] at hdangling
  rw [danglingRules_eq hmade] at hunknown
  refine ⟨_, _, unknown, ⟨Result.mapM_filter_of_mapM hdangling,
    Result.mapM_filter_of_mapM (p := fun term => !isTolerated term) hdangling, hunknown, ?_⟩, ?_⟩
  · rw [List.filterMap_eq_flatMap_toList]
    simp only [List.flatMap_cons, List.flatMap_nil, List.append_nil, List.append_assoc]
    rfl
  · rw [← List.countP_eq_length_filter]
    simp only [List.countP_cons, isNone_issueOf]
    rfl

theorem reports_of_consistency_eq_ok {report : Consistency}
    (h : catalog.consistency = .ok report) :
    ∃ tolerated invalid unknown, report.Reports catalog tolerated invalid unknown := by
  obtain ⟨tolerated, invalid, unknown, hreports, -⟩ := counts_of_consistency_eq_ok hmade h
  exact ⟨tolerated, invalid, unknown, hreports⟩

end Catalog

end Consistency

/-! ## Issues and rows -/

theorem isEmpty_filter (p : α → Bool) (items : List α) :
    (items.filter p).isEmpty = !items.any p := by
  rw [Bool.eq_iff_iff, List.isEmpty_iff, List.filter_eq_nil_iff, Bool.not_eq_true',
    List.any_eq_false]

/-- The identifiers of the requirements of some rows of a matrix. -/
def Matrix.idsWhere (m : Matrix) (p : Row → Bool) : List Value :=
  (m.rows.filter p).map fun row => row.requirement.id

theorem Matrix.idsWhere_congr {m : Matrix} {p q : Row → Bool}
    (h : ∀ row ∈ m.rows, p row = q row) : m.idsWhere p = m.idsWhere q := by
  rw [idsWhere, idsWhere, List.filter_congr h]

section Rows

variable {fields : List Registry.Field} {checks definitions : List Value}
  {catalog : Catalog} (hmade : catalog.MadeOf fields checks definitions)
  {populations : List FilePopulation} {countsOf : Requirement → Result Value} {m : Matrix}
  (hm : Matrix.ofRows catalog (Row.ofRequirementWith catalog populations countsOf) = .ok m)

include hm

/-- Requirements of the catalog that are selected by identifiers are those of rows. -/
theorem Matrix.filter_ids_eq_idsWhere {p : Requirement → Bool} {q : Value → Bool} :
    ((catalog.requirements.filter p).map Requirement.id).filter q =
      m.idsWhere fun row => p row.requirement && q row.requirement.id := by
  rw [← (rows_of_ofRows_eq_ok hm).1, List.filter_map, List.filter_map, List.filter_map,
    List.map_map, List.filter_filter]
  exact congrArg _ (List.filter_congr fun row _ => Bool.and_comm _ _)

include hmade

/-- The rows of a matrix have rules where rules enforce, and controls where controls
protect. -/
theorem Row.isEmpty_of_mem_rows {row : Row} (hrow : row ∈ m.rows) :
    row.rules.isEmpty = !isEnforced catalog.rules row.requirement.id ∧
      row.controls.isEmpty = !isProtected catalog.controls row.requirement.id := by
  obtain ⟨r, -, habout⟩ := (Matrix.rows_of_ofRows_eq_ok hm).2 row hrow
  rw [habout.rules_eq hmade, habout.controls_eq hmade, isEmpty_filter, isEmpty_filter]
  exact ⟨rfl, rfl⟩

theorem Catalog.unprotectedIds_eq_idsWhere :
    catalog.unprotectedIds = m.idsWhere fun row => row.status == .noControl := by
  rw [unprotectedIds, Matrix.filter_ids_eq_idsWhere hm]
  apply Matrix.idsWhere_congr
  intro row hrow
  obtain ⟨hrules, hcontrols⟩ := Row.isEmpty_of_mem_rows hmade hm hrow
  rw [Row.status, hrules, hcontrols]
  cases row.requirement.inTemplate <;> cases isEnforced catalog.rules row.requirement.id <;>
    cases isProtected catalog.controls row.requirement.id <;> rfl

theorem Catalog.unenforcedIds_eq_idsWhere :
    catalog.unenforcedIds =
      m.idsWhere fun row => row.requirement.mandatory && row.ruleIds.isEmpty := by
  rw [unenforcedIds, mandatory, Matrix.filter_ids_eq_idsWhere hm]
  apply Matrix.idsWhere_congr
  intro row hrow
  rw [isEmpty_ruleIds, (Row.isEmpty_of_mem_rows hmade hm hrow).1]

end Rows

/--
A catalog can be checked if every mention of what is unknown has a text, and has a matrix
without counts if the status in tax law of every field is a text. Whatever matrix there is,
the issue about coverage lists the requirements of its rows that lack a control, and the
issue about what is mandatory those of the mandatory rows without a rule, each in the order
of the rows; there is no such issue if there are no such rows.
-/
theorem Catalog.consistency_agrees_with_rows {fields : List Registry.Field}
    {checks definitions : List Value} {version : Value} {catalog : Catalog}
    (h : build fields checks definitions version = .ok catalog)
    (populations : List FilePopulation) :
    ((∃ report, catalog.consistency = .ok report) ↔
        ∀ mention ∈ catalog.unknownTerms ++ catalog.unknownRules,
          ∃ text, arrow mention.1 mention.2 = .ok text) ∧
      ((∃ m, Matrix.ofCatalog catalog populations .null = .ok m) ↔
        ∀ field ∈ fields, ∃ s, field.vatLawStatus = .text s) ∧
      ∀ report counts m, catalog.consistency = .ok report →
        Matrix.ofCatalog catalog populations counts = .ok m →
        let ofCategory (category : String) : List Issue :=
          report.issues.filter fun issue => issue.category == category
        let uncontrolled := m.idsWhere fun row => row.status == .noControl
        let unruled := m.idsWhere fun row => row.requirement.mandatory && row.ruleIds.isEmpty
        ofCategory "Coverage Integrity" =
          (issueOf .warning "Coverage Integrity" "DR(s) have rules but no control linked"
            uncontrolled).toList ∧
        (ofCategory "Coverage Integrity" = [] ↔ ∀ row ∈ m.rows, row.status ≠ .noControl) ∧
        ofCategory "Mandatory Coverage" =
          (issueOf .warning "Mandatory Coverage" "mandatory DR(s) have no validation rule"
            unruled).toList := by
  have hmade := of_build_eq_ok h
  refine ⟨exists_consistency_iff hmade, Matrix.exists_ofCatalog_null_iff hmade, ?_⟩
  intro report counts m hreport hm ofCategory uncontrolled unruled
  obtain ⟨tolerated, invalid, unknown, hreports⟩ := reports_of_consistency_eq_ok hmade hreport
  have huncontrolled : catalog.unprotectedIds = uncontrolled :=
    unprotectedIds_eq_idsWhere hmade hm
  have hunruled : catalog.unenforcedIds = unruled := unenforcedIds_eq_idsWhere hmade hm
  have hcoverage : ofCategory "Coverage Integrity" =
      (issueOf .warning "Coverage Integrity" "DR(s) have rules but no control linked"
        uncontrolled).toList := by
    have hsort := filter_issueOf fun _ category => category == "Coverage Integrity"
    simp [ofCategory, hreports.issues, hsort, huncontrolled]
  have hmandatory : ofCategory "Mandatory Coverage" =
      (issueOf .warning "Mandatory Coverage" "mandatory DR(s) have no validation rule"
        unruled).toList := by
    have hsort := filter_issueOf fun _ category => category == "Mandatory Coverage"
    simp [ofCategory, hreports.issues, hsort, hunruled]
  refine ⟨hcoverage, ?_, hmandatory⟩
  rw [hcoverage, toList_issueOf_eq_nil_iff]
  simp [uncontrolled, Matrix.idsWhere]

/-- A requirement that comes twice and has a rule but no control, one that has both, and a
mandatory one that has neither. -/
theorem Catalog.consistency_agrees_with_rows_twice :
    let field (id flag : String) : Registry.Field :=
      { id := .text id, term := .text id, cardinality := .text "1..1",
        mandatoryFlag := .text flag }
    let fields := [field "IBT-001" "", field "IBT-002" "Mandatory", field "IBT-001" "",
      field "IBT-003" "Mandatory"]
    let check (id term : String) : Value := .object [
      ("check_id", .text id), ("check_name", .text id),
      ("pint_reference_terms", .list [.text term])]
    let checks := [check "UAE-UC1-CHK-001" "IBT-001", check "UAE-UC1-CHK-002" "IBT-002"]
    let control : Value := .object [
      ("control_id", .text "CTRL-001"), ("control_name", .text "Dates"),
      ("control_type", .text "detective"),
      ("covered_rule_ids", .list [.text "UAE-UC1-CHK-002"])]
    let textIds (ids : List Value) : List (Option String) :=
      ids.map fun id => id.asText.toOption
    ∃ catalog report m,
      build fields checks [control] .null = .ok catalog ∧
      catalog.consistency = .ok report ∧
      Matrix.ofCatalog catalog [] .null = .ok m ∧
      (report.issues.filter fun issue => issue.category == "Coverage Integrity") =
        (issueOf .warning "Coverage Integrity" "DR(s) have rules but no control linked"
          (m.idsWhere fun row => row.status == .noControl)).toList ∧
      textIds (m.idsWhere fun row => row.status == .noControl) =
        [some "IBT-001", some "IBT-001"] ∧
      textIds (m.idsWhere fun row => row.requirement.mandatory && row.ruleIds.isEmpty) =
        [some "IBT-003"] := by
  intro field fields check checks control textIds
  have hrun : (do
      let catalog ← build fields checks [control] .null
      let _ ← catalog.consistency
      let m ← Matrix.ofCatalog catalog [] .null
      return (textIds (m.idsWhere fun row => row.status == .noControl),
        textIds (m.idsWhere fun row => row.requirement.mandatory && row.ruleIds.isEmpty))) =
      (.ok ([some "IBT-001", some "IBT-001"], [some "IBT-003"]) :
        Result (List (Option String) × List (Option String))) := by
    decide +kernel
  obtain ⟨catalog, hcatalog, hrun⟩ := Result.bind_eq_ok.1 hrun
  obtain ⟨report, hreport, hrun⟩ := Result.bind_eq_ok.1 hrun
  obtain ⟨m, hm, hrun⟩ := Result.bind_eq_ok.1 hrun
  obtain ⟨huncontrolled, hunruled⟩ := Prod.mk.inj (Except.ok.inj hrun)
  have hagree := (consistency_agrees_with_rows hcatalog []).2.2 report .null m hreport hm
  exact ⟨catalog, report, m, hcatalog, hreport, hm, hagree.1, huncontrolled, hunruled⟩

end InvoiceReadiness.Traceability
