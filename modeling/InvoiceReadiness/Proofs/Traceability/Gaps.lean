import InvoiceReadiness.Proofs.Traceability.Lookups
import InvoiceReadiness.Proofs.Traceability.Rates

/-!
# Rows and gaps

A matrix is made in one loop over the requirements of a catalog: each gives a row, and
the gaps are counted beside the rows. Here the counters are read off the finished rows:
each is the number of rows that lack what the counter is about. One step of the loop adds
a row and what the row lacks, so the counters follow the rows, and at the end they are
the counts of all of them.

Nothing in the rows depends on the order in which they are made, and what stops a row
stops the matrix: there is one if and only if every requirement has a row.

## Main results

* `Matrix.ofRows_eq_ok_iff` — the loop is a fold over the rows.
* `Gaps.Counts.add`, `Matrix.follows_foldl_add` — the counters after a step and after a run.
* `Row.exists_ofRequirement_iff`, `Requirement.hasRow_iff` — which requirements have a row.
* `Matrix.ofCatalog_coherent` — rows, statuses and counters of a matrix.
-/

namespace InvoiceReadiness

/-- A cell is null or written among the members. -/
theorem Record.get_eq_null_or_mem (r : Record) (name : String) :
    r.get name = .null ∨ ∃ member ∈ r.members, r.get name = member.2 := by
  unfold get Members.get
  cases hfind : r.members.find? fun member => member.1 == name with
  | none => exact .inl rfl
  | some member => exact .inr ⟨member, List.mem_of_find?_eq_some hfind, rfl⟩

namespace Traceability

variable {catalog : Catalog} {populations : List FilePopulation} {counts : Value}

/-! ## Counters -/

/-- Each counter is the number of rows that lack what it is about. -/
structure Gaps.Counts (gaps : Gaps) (rows : List Row) : Prop where
  notInTemplate : gaps.notInTemplate = rows.countP fun row =>
    row.requirement.mandatory && !row.requirement.inTemplate
  notIngestible : gaps.notIngestible = rows.countP fun row =>
    row.requirement.mandatory &&
      (row.requirement.inTemplate && !row.requirement.isIngestible)
  thin : gaps.thin = rows.countP fun row =>
    row.requirement.mandatory &&
      row.population.any fun percent => (Number.float percent).lt (.whole 99)
  noRules : gaps.noRules = rows.countP fun row => row.ruleIds.isEmpty
  noControls : gaps.noControls = rows.countP fun row => row.controlIds.isEmpty
  covered : gaps.covered = rows.countP fun row => row.status == .covered

theorem countP_append_one (p : Row → Bool) (rows : List Row) (row : Row) :
    (rows ++ [row]).countP p = rows.countP p + (p row).toNat := by
  rw [List.countP_append, List.countP_singleton]
  cases p row <;> rfl

theorem isEmpty_ruleIds (row : Row) : row.ruleIds.isEmpty = row.rules.isEmpty :=
  List.isEmpty_map

theorem isEmpty_controlIds (row : Row) : row.controlIds.isEmpty = row.controls.isEmpty :=
  List.isEmpty_map

namespace Gaps

/-! The branch on what is mandatory stands before the record, so each counter of a step is
read off once here. -/

theorem add_notInTemplate (gaps : Gaps) (row : Row) :
    (gaps.add row).notInTemplate = gaps.notInTemplate +
      (row.requirement.mandatory && !row.requirement.inTemplate).toNat := by
  by_cases h : row.requirement.mandatory <;> simp [add, addMandatory, h]

theorem add_notIngestible (gaps : Gaps) (row : Row) :
    (gaps.add row).notIngestible = gaps.notIngestible +
      (row.requirement.mandatory &&
        (row.requirement.inTemplate && !row.requirement.isIngestible)).toNat := by
  by_cases h : row.requirement.mandatory <;> simp [add, addMandatory, h]

theorem add_thin (gaps : Gaps) (row : Row) :
    (gaps.add row).thin = gaps.thin + (row.requirement.mandatory && row.isThin).toNat := by
  by_cases h : row.requirement.mandatory <;> simp [add, addMandatory, h]

theorem add_noRules (gaps : Gaps) (row : Row) :
    (gaps.add row).noRules = gaps.noRules + row.rules.isEmpty.toNat := by
  by_cases h : row.requirement.mandatory <;> simp [add, addMandatory, h]

theorem add_noControls (gaps : Gaps) (row : Row) :
    (gaps.add row).noControls = gaps.noControls + row.controls.isEmpty.toNat := by
  by_cases h : row.requirement.mandatory <;> simp [add, addMandatory, h]

theorem add_covered (gaps : Gaps) (row : Row) :
    (gaps.add row).covered = gaps.covered + (row.status == .covered).toNat := by
  by_cases h : row.requirement.mandatory <;> simp [add, addMandatory, h]

theorem add_total (gaps : Gaps) (row : Row) : (gaps.add row).total = gaps.total := by
  by_cases h : row.requirement.mandatory <;> simp [add, addMandatory, h]

theorem add_mandatory (gaps : Gaps) (row : Row) :
    (gaps.add row).mandatory = gaps.mandatory := by
  by_cases h : row.requirement.mandatory <;> simp [add, addMandatory, h]

theorem counts_start (catalog : Catalog) : (start catalog).Counts [] :=
  ⟨rfl, rfl, rfl, rfl, rfl, rfl⟩

/-- One step: a row is added, and the counters with it. -/
theorem Counts.add {gaps : Gaps} {rows : List Row} (h : gaps.Counts rows) (row : Row) :
    (gaps.add row).Counts (rows ++ [row]) where
  notInTemplate := by rw [add_notInTemplate, h.notInTemplate, countP_append_one]
  notIngestible := by rw [add_notIngestible, h.notIngestible, countP_append_one]
  thin := by
    rw [add_thin, h.thin, countP_append_one]
    rfl
  noRules := by rw [add_noRules, h.noRules, countP_append_one, isEmpty_ruleIds]
  noControls := by rw [add_noControls, h.noControls, countP_append_one, isEmpty_controlIds]
  covered := by rw [add_covered, h.covered, countP_append_one]

end Gaps

/-! ## The loop over the requirements -/

namespace Matrix

/-- What the loop has made of a catalog when it has come to some rows. -/
structure Follows (m : Matrix) (catalog : Catalog) (rows : List Row) : Prop where
  rows_eq : m.rows = rows
  gaps : m.gaps.Counts rows
  total : m.gaps.total = catalog.requirements.length
  mandatory : m.gaps.mandatory = catalog.mandatory.length

theorem Follows.add {m : Matrix} {rows : List Row} (h : m.Follows catalog rows) (row : Row) :
    (m.add row).Follows catalog (rows ++ [row]) where
  rows_eq := by rw [Matrix.add, h.rows_eq]
  gaps := h.gaps.add row
  total := (m.gaps.add_total row).trans h.total
  mandatory := (m.gaps.add_mandatory row).trans h.mandatory

/-- A run: the counters follow the rows to the end. -/
theorem follows_foldl_add (catalog : Catalog) (rows : List Row) :
    (rows.foldl Matrix.add (start catalog)).Follows catalog rows := by
  have hrun (m : Matrix) (first : List Row) (h : m.Follows catalog first) :
      (rows.foldl Matrix.add m).Follows catalog (first ++ rows) := by
    induction rows generalizing m first with
    | nil => rwa [List.append_nil]
    | cons row rest ih =>
        have hstep := ih (m.add row) (first ++ [row]) (h.add row)
        rwa [List.append_assoc] at hstep
  exact hrun (start catalog) [] ⟨rfl, Gaps.counts_start catalog, rfl, rfl⟩

/-- The loop makes the rows one by one and takes them in. -/
theorem ofRows_eq_ok_iff {rowOf : Requirement → Result Row} {m : Matrix} :
    ofRows catalog rowOf = .ok m ↔
      ∃ rows, catalog.requirements.mapM rowOf = .ok rows ∧
        m = rows.foldl Matrix.add (start catalog) := by
  rw [ofRows, Result.foldlM_return, Result.bind_eq_ok]
  refine exists_congr fun rows => and_congr_right fun _ => ?_
  constructor
  · rintro ⟨⟩
    rfl
  · rintro rfl
    rfl

end Matrix

/-! ## Rows -/

/-- What a requirement needs for a row: an identifier, a status in tax law that is a text,
and counts of the last run that have a rate, if it has any counts. -/
structure Requirement.HasRow (r : Requirement) (counts : Value) : Prop where
  identified : r.id.isIdentifier
  status : ∃ s, r.vatLawStatus = .text s
  counted : ∃ own, Row.countsIn counts r = .ok own ∧
    (own.isFilled → ∃ cells, own.record = .ok cells ∧
      ∃ rate, Row.passRateOf (Row.countOf cells "pass") (Row.countOf cells "fail") = .ok rate)

namespace Row

/-- A row tells what the catalog finds about its requirement. -/
structure IsAbout (row : Row) (catalog : Catalog) (r : Requirement) : Prop where
  requirement : row.requirement = r
  rules : catalog.rulesFor r.id = .ok row.rules
  controls : catalog.controlsFor r.id = .ok row.controls

theorem isAbout_of_ofRequirementWith_eq_ok {countsOf : Requirement → Result Value}
    {r : Requirement} {row : Row}
    (h : ofRequirementWith catalog populations countsOf r = .ok row) :
    row.IsAbout catalog r := by
  obtain ⟨rules, hrules, h⟩ := Result.bind_eq_ok.1 h
  obtain ⟨controls, hcontrols, h⟩ := Result.bind_eq_ok.1 h
  obtain ⟨own, -, h⟩ := Result.bind_eq_ok.1 h
  obtain ⟨counted, -, h⟩ := Result.bind_eq_ok.1 h
  obtain ⟨isNew, -, ⟨⟩⟩ := Result.bind_eq_ok.1 h
  exact ⟨rfl, hrules, hcontrols⟩

theorem exists_outcomeOf_iff {own : Value} :
    (∃ outcome, outcomeOf own = .ok outcome) ↔
      (own.isFilled → ∃ cells, own.record = .ok cells ∧
        ∃ rate, passRateOf (countOf cells "pass") (countOf cells "fail") = .ok rate) := by
  by_cases hfilled : own.isFilled
  · rw [outcomeOf, if_pos hfilled]
    constructor
    · rintro ⟨outcome, h⟩ -
      obtain ⟨cells, hcells, h⟩ := Result.bind_eq_ok.1 h
      obtain ⟨rate, hrate, -⟩ := Result.bind_eq_ok.1 h
      exact ⟨cells, hcells, rate, hrate⟩
    · intro h
      obtain ⟨cells, hcells, rate, hrate⟩ := h hfilled
      exact ⟨_, Result.bind_eq_ok.2 ⟨cells, hcells, Result.bind_eq_ok.2 ⟨rate, hrate, rfl⟩⟩⟩
  · rw [outcomeOf, if_neg hfilled]
    exact iff_of_true ⟨_, rfl⟩ fun h => absurd h hfilled

/-- A requirement has a row if and only if nothing that the row is made of is amiss. -/
theorem exists_ofRequirement_iff {r : Requirement} :
    (∃ row, ofRequirement catalog populations counts r = .ok row) ↔ r.HasRow counts := by
  constructor
  · rintro ⟨row, h⟩
    obtain ⟨rules, hrules, h⟩ := Result.bind_eq_ok.1 h
    obtain ⟨controls, -, h⟩ := Result.bind_eq_ok.1 h
    obtain ⟨own, hown, h⟩ := Result.bind_eq_ok.1 h
    obtain ⟨counted, hcounted, h⟩ := Result.bind_eq_ok.1 h
    obtain ⟨isNew, hnew, -⟩ := Result.bind_eq_ok.1 h
    obtain ⟨key, hkey, -⟩ := Result.bind_eq_ok.1 hrules
    obtain ⟨status, hstatus, -⟩ := Result.bind_eq_ok.1 hnew
    refine ⟨Value.isIdentifier_of_key_eq_ok hkey, ?_, own, hown,
      exists_outcomeOf_iff.1 ⟨counted, hcounted⟩⟩
    cases hvalue : r.vatLawStatus with
    | text s => exact ⟨s, rfl⟩
    | _ =>
        rw [hvalue] at hstatus
        cases hstatus
  · rintro ⟨hid, ⟨s, hs⟩, own, hown, hrate⟩
    obtain ⟨outcome, houtcome⟩ := exists_outcomeOf_iff.2 hrate
    have hkey := Value.key_eq_ok_keyOf hid
    have hnew : r.isNew = .ok (lower s == "new") := by
      rw [Requirement.isNew, hs]
      rfl
    rw [ofRequirement, ofRequirementWith, Catalog.rulesFor, Catalog.controlsFor, hkey, hown,
      hnew]
    simp only [Result.ok_bind, pure_bind, houtcome]
    exact ⟨_, rfl⟩

/-- How many records passed and how many failed; a number that is missing is zero. -/
def TellsTally (v : Value) : Prop :=
  ∃ cells : Record, v = cells.value ∧ ∃ passes failures : Nat,
    countOf cells "pass" = .ofNat passes ∧ countOf cells "fail" = .ofNat failures

/-- Counts of a run: none at all, or tallies by requirement. -/
def TellsTallies (counts : Value) : Prop :=
  counts = .null ∨ ∃ r : Record, counts = r.value ∧ ∀ member ∈ r.members, TellsTally member.2

/-- Of tallies a requirement has its own one, if there is one. -/
theorem exists_countsIn {counts : Value} (h : TellsTallies counts) (r : Requirement) :
    ∃ own, countsIn counts r = .ok own ∧ (own = .null ∨ TellsTally own) := by
  have hrecord : ∃ all : Record, (counts.orElse (.object [])).record = .ok all ∧
      ∀ member ∈ all.members, TellsTally member.2 := by
    obtain rfl | ⟨⟨members⟩, rfl, hmembers⟩ := h
    · exact ⟨.empty, rfl, nofun⟩
    · refine ⟨⟨members⟩, ?_, hmembers⟩
      cases members <;> rfl
  obtain ⟨all, hall, htallies⟩ := hrecord
  unfold countsIn
  rw [hall, Result.ok_bind]
  split
  · rename_i id _
    refine ⟨all.get id, rfl, (all.get_eq_null_or_mem id).imp_right ?_⟩
    rintro ⟨member, hmember, heq⟩
    rw [heq]
    exact htallies member hmember
  · exact ⟨_, rfl, .inl rfl⟩

/-- What a row has, and how its status follows from it. -/
structure IsCoherent (row : Row) : Prop where
  inTemplate_of_isIngestible : row.requirement.isIngestible → row.requirement.inTemplate
  status_unique :
    ∃! status : Status, row.value.member "coverage_status" = .ok (.text status.name)
  status_eq_notInTemplate : row.status = .notInTemplate ↔ row.requirement.inTemplate = false
  status_eq_noRule : row.status = .noRule ↔ row.requirement.inTemplate ∧ row.ruleIds = []
  status_eq_noControl : row.status = .noControl ↔
    row.requirement.inTemplate ∧ row.ruleIds ≠ [] ∧ row.controlIds = []
  status_eq_covered : row.status = .covered ↔
    row.requirement.inTemplate ∧ row.ruleIds ≠ [] ∧ row.controlIds ≠ []

theorem isCoherent (row : Row) : row.IsCoherent := by
  have hnames (s t : Status) (h : s.name = t.name) : s = t := by
    cases s <;> cases t <;> first | rfl | exact absurd h (by decide)
  have hmember : row.value.member "coverage_status" = .ok (.text row.status.name) := rfl
  have hstatus : row.status =
      Status.of row.requirement.inTemplate (!row.ruleIds.isEmpty) (!row.controlIds.isEmpty) := by
    rw [isEmpty_ruleIds, isEmpty_controlIds]
    rfl
  refine {
    inTemplate_of_isIngestible := fun h => (Bool.and_eq_true_iff.1 h).1
    status_unique := ⟨row.status, hmember, fun status h => ?_⟩
    status_eq_notInTemplate := ?_
    status_eq_noRule := ?_
    status_eq_noControl := ?_
    status_eq_covered := ?_ }
  · rw [hmember, Except.ok.injEq, Value.text.injEq] at h
    exact hnames status row.status h.symm
  -- The status is the first thing that is lacking, so the cases are what there is.
  all_goals
    rw [hstatus]
    cases row.requirement.inTemplate <;> cases row.ruleIds <;> cases row.controlIds <;>
      simp [Status.of]

end Row

/-- With the tallies of a run, a requirement that can be found has a row if its status in tax
law is a text. -/
theorem Requirement.hasRow_iff (h : Row.TellsTallies counts) {r : Requirement}
    (hid : r.id.isIdentifier) : r.HasRow counts ↔ ∃ s, r.vatLawStatus = .text s := by
  constructor
  · exact HasRow.status
  · intro hstatus
    obtain ⟨own, hown, htally⟩ := Row.exists_countsIn h r
    refine ⟨hid, hstatus, own, hown, fun hfilled => ?_⟩
    obtain rfl | ⟨cells, rfl, passes, failures, hpasses, hfailures⟩ := htally
    · cases hfilled
    · refine ⟨cells, rfl, ?_⟩
      rw [hpasses, hfailures]
      exact ⟨_, Row.passRateOf_eq_ok passes failures⟩

/-! ## Matrices -/

/-- There is a matrix if and only if every requirement has a row. -/
theorem Matrix.exists_ofCatalog_iff :
    (∃ m, ofCatalog catalog populations counts = .ok m) ↔
      ∀ r ∈ catalog.requirements, r.HasRow counts := by
  have hrow : (∀ r ∈ catalog.requirements, r.HasRow counts) ↔
      ∀ r ∈ catalog.requirements,
        ∃ row, Row.ofRequirement catalog populations counts r = .ok row :=
    forall₂_congr fun r _ => Row.exists_ofRequirement_iff.symm
  rw [hrow, ← Result.exists_mapM_eq_ok_iff]
  constructor
  · rintro ⟨m, h⟩
    obtain ⟨rows, hrows, -⟩ := ofRows_eq_ok_iff.1 h
    exact ⟨rows, hrows⟩
  · rintro ⟨rows, hrows⟩
    exact ⟨_, ofRows_eq_ok_iff.2 ⟨rows, hrows, rfl⟩⟩

/-- The rows of a matrix are about the requirements of the catalog, in their order. -/
theorem Matrix.rows_of_ofRows_eq_ok {countsOf : Requirement → Result Value} {m : Matrix}
    (h : ofRows catalog (Row.ofRequirementWith catalog populations countsOf) = .ok m) :
    m.rows.map Row.requirement = catalog.requirements ∧
      ∀ row ∈ m.rows, ∃ r ∈ catalog.requirements, row.IsAbout catalog r := by
  obtain ⟨rows, hrows, rfl⟩ := ofRows_eq_ok_iff.1 h
  rw [(follows_foldl_add catalog rows).rows_eq]
  constructor
  · have hsame := Result.map_eq_map_of_mapM_eq_ok (g := Row.requirement) (k := fun r => r) hrows
      fun r _ row hrow => (Row.isAbout_of_ofRequirementWith_eq_ok hrow).requirement
    rwa [List.map_id'] at hsame
  · refine Yields.mapM (fun r hr row hrow => ?_) hrows
    exact ⟨r, hr, Row.isAbout_of_ofRequirementWith_eq_ok hrow⟩

/-- What is coherent in a matrix of a catalog. -/
structure Matrix.CoherentWith (m : Matrix) (catalog : Catalog) : Prop where
  rows : m.rows.map Row.requirement = catalog.requirements
  gaps : m.gaps.Counts m.rows
  total : m.gaps.total = m.rows.length
  mandatory : m.gaps.mandatory = m.rows.countP fun row => row.requirement.mandatory
  row : ∀ row ∈ m.rows, row.IsCoherent

theorem Matrix.coherentWith_of_ofCatalog_eq_ok {m : Matrix}
    (h : ofCatalog catalog populations counts = .ok m) : m.CoherentWith catalog := by
  have hrows := (rows_of_ofRows_eq_ok h).1
  obtain ⟨rows, -, rfl⟩ := ofRows_eq_ok_iff.1 h
  have hfollows := follows_foldl_add catalog rows
  rw [hfollows.rows_eq] at hrows
  refine {
    rows := hfollows.rows_eq.symm ▸ hrows
    gaps := hfollows.rows_eq.symm ▸ hfollows.gaps
    total := ?_
    mandatory := ?_
    row := fun row _ => row.isCoherent }
  · rw [hfollows.total, hfollows.rows_eq, ← hrows, List.length_map]
  · rw [hfollows.mandatory, hfollows.rows_eq, Catalog.mandatory, ← hrows, List.filter_map,
      List.length_map, List.countP_eq_length_filter]
    rfl

section Built

variable {fields : List Registry.Field} {checks definitions : List Value}
  (hmade : catalog.MadeOf fields checks definitions)

include hmade

/-- In a catalog that was built, a row has the rules that enforce its requirement. -/
theorem Row.IsAbout.rules_eq {row : Row} {r : Requirement} (h : row.IsAbout catalog r) :
    row.rules = catalog.rules.filter fun rule => rule.enforces row.requirement.id := by
  obtain ⟨key, hkey, -⟩ := Result.bind_eq_ok.1 h.rules
  have hrules := h.rules
  rw [Catalog.rulesFor_eq_ok hmade (Value.isIdentifier_of_key_eq_ok hkey), Except.ok.injEq]
    at hrules
  rw [h.requirement, hrules]

/-- In a catalog that was built, a row has the controls that protect its requirement. -/
theorem Row.IsAbout.controls_eq {row : Row} {r : Requirement} (h : row.IsAbout catalog r) :
    row.controls =
      catalog.controls.filter fun control => control.protects row.requirement.id := by
  obtain ⟨key, hkey, -⟩ := Result.bind_eq_ok.1 h.controls
  have hcontrols := h.controls
  rw [Catalog.controlsFor_eq_ok hmade (Value.isIdentifier_of_key_eq_ok hkey),
    Except.ok.injEq] at hcontrols
  rw [h.requirement, hcontrols]

/-- With the tallies of a run, a catalog that was built has a matrix if and only if the status
in tax law of every field is a text. -/
theorem Matrix.exists_ofCatalog_tallies_iff (hcounts : Row.TellsTallies counts) :
    (∃ m, ofCatalog catalog populations counts = .ok m) ↔
      ∀ field ∈ fields, ∃ s, field.vatLawStatus = .text s := by
  have hrow (r : Requirement) (hr : r ∈ catalog.requirements) :
      r.HasRow counts ↔ ∃ s, r.vatLawStatus = .text s :=
    r.hasRow_iff hcounts (hmade.requirementIds r.id (List.mem_map_of_mem hr))
  rw [exists_ofCatalog_iff, forall₂_congr hrow,
    ← List.forall_mem_map (P := fun v => ∃ s, v = Value.text s), hmade.map_vatLawStatus,
    List.forall_mem_map]

/-- Without counts it is the same. -/
theorem Matrix.exists_ofCatalog_null_iff :
    (∃ m, ofCatalog catalog populations .null = .ok m) ↔
      ∀ field ∈ fields, ∃ s, field.vatLawStatus = .text s :=
  exists_ofCatalog_tallies_iff hmade (.inl rfl)

/-- In a catalog that was built, what has no rule has no control. -/
theorem Matrix.noRules_le_noControls {m : Matrix}
    (h : ofCatalog catalog populations counts = .ok m) :
    m.gaps.noRules ≤ m.gaps.noControls := by
  have hgaps := (coherentWith_of_ofCatalog_eq_ok h).gaps
  rw [hgaps.noRules, hgaps.noControls]
  refine List.countP_mono_left fun row hrow hnone => ?_
  obtain ⟨r, hr, habout⟩ := (rows_of_ofRows_eq_ok h).2 row hrow
  have hid : row.requirement.id.isIdentifier := by
    rw [habout.requirement]
    exact hmade.requirementIds _ (List.mem_map_of_mem hr)
  rw [isEmpty_ruleIds, habout.rules_eq hmade, List.isEmpty_iff, List.filter_eq_nil_iff] at hnone
  rw [isEmpty_controlIds, habout.controls_eq hmade, List.isEmpty_iff, List.filter_eq_nil_iff]
  intro control hcontrol hprotects
  obtain ⟨rule, hrule, henforces⟩ := Control.exists_enforces hmade hcontrol hid hprotects
  exact hnone rule hrule henforces

end Built

/--
There is a matrix if every requirement has a row; counts that are whole numbers stand in
the way only if their quotient is too large, and counts of records never do. Then the rows
are those of the requirements in their order, the counters are read off the rows, and the
status of each row follows from what the row has. In a catalog that was built there are no
more requirements without a rule than without a control.
-/
theorem Matrix.ofCatalog_coherent (catalog : Catalog) (populations : List FilePopulation)
    (counts : Value) :
    ((∃ m, ofCatalog catalog populations counts = .ok m) ↔
        ∀ r ∈ catalog.requirements, r.HasRow counts) ∧
      (∀ passes failures : Int,
        (∃ rate, Row.passRateOf (.ofInt passes) (.ofInt failures) = .ok rate) ↔
          (0 < passes + failures →
            (Binary64.ofRatio (passes < 0) passes.natAbs
              (passes + failures).natAbs).isFinite)) ∧
      (∀ passes failures : Nat,
        ∃ rate, Row.passRateOf (.ofNat passes) (.ofNat failures) = .ok rate) ∧
      ∀ m, ofCatalog catalog populations counts = .ok m →
        m.CoherentWith catalog ∧
        ∀ fields checks definitions version,
          Catalog.build fields checks definitions version = .ok catalog →
          m.gaps.noRules ≤ m.gaps.noControls := by
  refine ⟨exists_ofCatalog_iff, Row.exists_passRateOf_iff,
    fun passes failures => ⟨_, Row.passRateOf_eq_ok passes failures⟩, fun m h => ?_⟩
  refine ⟨coherentWith_of_ofCatalog_eq_ok h, fun fields checks definitions version hbuild => ?_⟩
  exact noRules_le_noControls (Catalog.of_build_eq_ok hbuild) h

/-- A mandatory requirement that no column supplies, another one with a rule only, and one
with a rule and a control, of which the last run failed once in four times. -/
theorem Matrix.ofCatalog_coherent_mixed :
    let field (id : String) : Registry.Field :=
      { id := .text id, term := .text id, cardinality := .text "1..1",
        mandatoryFlag := .text "Mandatory" }
    let check (id term : String) : Value := .object [
      ("check_id", .text id), ("check_name", .text id),
      ("pint_reference_terms", .list [.text term])]
    let control : Value := .object [
      ("control_id", .text "CTRL-001"), ("control_name", .text "Dates"),
      ("control_type", .text "detective"),
      ("covered_rule_ids", .list [.text "UAE-UC1-CHK-002"])]
    let counts : Value := .object [
      ("IBT-002", .object [("pass", .ofInt 3), ("fail", .ofInt 1)])]
    ∃ catalog m,
      Catalog.build [field "IBT-023", field "IBT-001", field "IBT-002"]
        [check "UAE-UC1-CHK-001" "IBT-001", check "UAE-UC1-CHK-002" "IBT-002"] [control]
        .null = .ok catalog ∧
      ofCatalog catalog [] counts = .ok m ∧
      m.CoherentWith catalog ∧
      m.gaps.noRules ≤ m.gaps.noControls ∧
      m.rows.map (fun row => (row.status, row.passRate)) = [
        (.notInTemplate, none), (.noControl, none),
        (.covered, some (.float (Binary64.percent 3 4)))] ∧
      (m.gaps.notInTemplate, m.gaps.noRules, m.gaps.noControls, m.gaps.covered) =
        (1, 1, 2, 1) := by
  intro field check control counts
  have hrun : (do
      let catalog ← Catalog.build [field "IBT-023", field "IBT-001", field "IBT-002"]
        [check "UAE-UC1-CHK-001" "IBT-001", check "UAE-UC1-CHK-002" "IBT-002"] [control] .null
      let m ← ofCatalog catalog [] counts
      return (m.rows.map fun row => (row.status, row.passRate),
        (m.gaps.notInTemplate, m.gaps.noRules, m.gaps.noControls, m.gaps.covered))) =
      (.ok ([(.notInTemplate, none), (.noControl, none),
          (.covered, some (.float (Binary64.percent 3 4)))], (1, 1, 2, 1)) :
        Result (List (Status × Option Number) × Nat × Nat × Nat × Nat)) := by
    decide +kernel
  obtain ⟨catalog, hcatalog, hrun⟩ := Result.bind_eq_ok.1 hrun
  obtain ⟨m, hm, hrun⟩ := Result.bind_eq_ok.1 hrun
  obtain ⟨hrows, hgaps⟩ := Prod.mk.inj (Except.ok.inj hrun)
  obtain ⟨hcoherent, hbuilt⟩ := (ofCatalog_coherent catalog [] counts).2.2.2 m hm
  exact ⟨catalog, m, hcatalog, hm, hcoherent, hbuilt _ _ _ _ hcatalog, hrows, hgaps⟩

/-- Catalogs without a matrix: the status of a requirement is a number, or its passes are
too many for their quotient by a positive sum with negative failures. -/
theorem Matrix.ofCatalog_fails_on_status_and_rate :
    let field (status : Value) : Registry.Field :=
      { id := .text "IBT-001", term := .text "Invoice number", vatLawStatus := status }
    let passes : Int := tenPow 400
    let counts : Value := .object [
      ("IBT-001", .object [("pass", .ofInt passes), ("fail", .ofInt (1 - passes))])]
    ∃ numbered catalog,
      Catalog.build [field (.ofInt 5)] [] [] .null = .ok numbered ∧
      Catalog.build [field (.text "New")] [] [] .null = .ok catalog ∧
      Matrix.ofCatalog numbered [] .null = .error .notText ∧
      Matrix.ofCatalog catalog [] counts = .error .numberTooLarge := by
  intro field passes counts
  have hrun : (do
      let numbered ← Catalog.build [field (.ofInt 5)] [] [] .null
      let catalog ← Catalog.build [field (.text "New")] [] [] .null
      return ((Matrix.ofCatalog numbered [] .null).map fun _ => (),
        (Matrix.ofCatalog catalog [] counts).map fun _ => ())) =
      (.ok (.error .notText, .error .numberTooLarge) :
        Result (Result Unit × Result Unit)) := by
    decide +kernel
  obtain ⟨numbered, hnumbered, hrun⟩ := Result.bind_eq_ok.1 hrun
  obtain ⟨catalog, hcatalog, hrun⟩ := Result.bind_eq_ok.1 hrun
  obtain ⟨hstatus, hrate⟩ := Prod.mk.inj (Except.ok.inj hrun)
  exact ⟨numbered, catalog, hnumbered, hcatalog, Result.eq_error_of_map hstatus,
    Result.eq_error_of_map hrate⟩

end Traceability

end InvoiceReadiness
