import InvoiceReadiness.Population

/-!
# The traceability matrix

For each requirement of a catalog the matrix tells which columns supply it, which
rules enforce it, which controls protect it, how well the columns are populated,
and how the last run went. The gaps are counted while the rows are made.
-/

namespace InvoiceReadiness.Traceability

/-- How far a requirement is covered. -/
inductive Status where
  | notInTemplate | noRule | noControl | covered
  deriving DecidableEq

def Status.name : Status → String
  | notInTemplate => "NOT_IN_TEMPLATE"
  | noRule => "NO_RULE"
  | noControl => "NO_CONTROL"
  | covered => "COVERED"

/-- The first thing that a requirement lacks. -/
def Status.of (inTemplate hasRule hasControl : Bool) : Status :=
  if !inTemplate then notInTemplate
  else if !hasRule then noRule
  else if !hasControl then noControl
  else covered

/-- The percentage below which a population is worth a warning. -/
def populationWarning : Nat := 99

/-! ## Rows -/

/-- What the matrix tells about one requirement. -/
structure Row where
  requirement : Requirement
  isNew : Bool
  population : Option Binary64
  rules : List Rule
  controls : List Control
  passRate : Option Number
  failures : Value

namespace Row

def status (row : Row) : Status :=
  Status.of row.requirement.inTemplate (!row.rules.isEmpty) (!row.controls.isEmpty)

def ruleIds (row : Row) : List Value := row.rules.map Rule.id

def controlIds (row : Row) : List Value := row.controls.map Control.id

/-- Whether the columns of a mandatory requirement are populated too thinly. -/
def isThin (row : Row) : Bool :=
  row.population.any fun percent => (Number.float percent).lt (.whole populationWarning)

/-- A number of an object; zero if there is none of that name. -/
def countOf (counts : Record) (name : String) : Value :=
  if counts.has name then counts.get name else .ofNat 0

/-- The passes in percent of passes and failures; all of them if there are none. -/
def passRateOf (passes failures : Value) : Result Number := do
  match passes.number?, failures.number? with
  | some p, some f =>
    let total ← p.add f
    if Number.zero.lt total then (← p.div total).mul (.whole 100)
    else return .float .hundred
  | _, _ => throw .operandKind

/--
The pass rate and the failures that counts of the last run tell. They are an object
with the passes and failures; empty data stands for no run.
-/
def outcomeOf (counts : Value) : Result (Option Number × Value) := do
  if counts.isFilled then
    let own ← counts.record
    let failures := countOf own "fail"
    return (some (← passRateOf (countOf own "pass") failures), failures)
  else return (none, .ofNat 0)

/-- The row of a requirement, whose counts of the last run are found by `countsOf`. -/
def ofRequirementWith (catalog : Catalog) (populations : List FilePopulation)
    (countsOf : Requirement → Result Value) (r : Requirement) : Result Row := do
  let rules ← catalog.rulesFor r.id
  let controls ← catalog.controlsFor r.id
  let population := if r.supplier.isNone then none else r.population? populations
  let own ← countsOf r
  let (passRate, failures) ← outcomeOf own
  let isNew ← r.isNew
  return { requirement := r, isNew, population, rules, controls, passRate, failures }

/-- The counts of a requirement in an object that has them by identifier. -/
def countsIn (counts : Value) (r : Requirement) : Result Value := do
  let counts ← (counts.orElse (.object [])).record
  match r.id with
  | .text id => return counts.get id
  | _ => return .null

/-- The row of a requirement, with the counts of the last run as an object. -/
def ofRequirement (catalog : Catalog) (populations : List FilePopulation) (counts : Value)
    (r : Requirement) : Result Row :=
  ofRequirementWith catalog populations (countsIn counts) r

/-- The row as an object. -/
def value (row : Row) : Value :=
  let r := row.requirement
  .object [
    ("dr_id", r.id),
    ("business_term", r.term),
    ("mandatory", .bool r.mandatory),
    ("vat_law_status", r.vatLawStatus),
    ("is_new_pint_field", .bool row.isNew),
    ("dataset_file", .ofText? r.file),
    ("internal_columns", .list (r.columns.map Value.text)),
    ("in_template", .bool r.inTemplate),
    ("ingestible", .bool r.isIngestible),
    ("population_pct", (row.population.map Value.ofFloat).getD .null),
    ("rule_ids", .list row.ruleIds),
    ("rule_names", .list (row.rules.map Rule.name)),
    ("control_ids", .list row.controlIds),
    ("control_names", .list (row.controls.map Control.name)),
    ("coverage_status", .text row.status.name),
    ("last_run_pass_rate", (row.passRate.map Value.number).getD .null),
    ("category", r.category),
    ("data_responsibility", r.responsibility),
    ("exception_count", row.failures)]

end Row

/-! ## The matrix and its gaps -/

/-- What is missing in a matrix, as numbers of requirements. -/
structure Gaps where
  /-- Mandatory requirements that no column supplies. -/
  notInTemplate : Nat
  /-- Mandatory requirements with columns that are not all read. -/
  notIngestible : Nat
  /-- Mandatory requirements with thinly populated columns. -/
  thin : Nat
  noRules : Nat
  noControls : Nat
  covered : Nat
  total : Nat
  mandatory : Nat

/-- The gaps as an object; every requirement is bound to its columns, so none is unmapped. -/
def Gaps.value (gaps : Gaps) : Value :=
  .object [
    ("mandatory_not_in_template", .ofNat gaps.notInTemplate),
    ("mandatory_not_ingestible", .ofNat gaps.notIngestible),
    ("mandatory_unmapped", .ofNat 0),
    ("mandatory_low_population", .ofNat gaps.thin),
    ("drs_with_no_rules", .ofNat gaps.noRules),
    ("drs_with_no_controls", .ofNat gaps.noControls),
    ("drs_covered", .ofNat gaps.covered),
    ("total_drs", .ofNat gaps.total),
    ("mandatory_drs", .ofNat gaps.mandatory),
    ("population_threshold", .ofFloat (.ofInt populationWarning))]

namespace Gaps

/-- The gaps of a catalog before its requirements are gone through. -/
def start (catalog : Catalog) : Gaps where
  notInTemplate := 0
  notIngestible := 0
  thin := 0
  noRules := 0
  noControls := 0
  covered := 0
  total := catalog.requirements.length
  mandatory := catalog.mandatory.length

/-- The gaps with what a mandatory requirement lacks. -/
def addMandatory (gaps : Gaps) (row : Row) : Gaps :=
  let r := row.requirement
  { gaps with
    notInTemplate := gaps.notInTemplate + (!r.inTemplate).toNat
    notIngestible := gaps.notIngestible + (r.inTemplate && !r.isIngestible).toNat
    thin := gaps.thin + row.isThin.toNat }

/-- The gaps with one more row. -/
def add (gaps : Gaps) (row : Row) : Gaps :=
  let gaps := if row.requirement.mandatory then gaps.addMandatory row else gaps
  { gaps with
    noRules := gaps.noRules + row.rules.isEmpty.toNat
    noControls := gaps.noControls + row.controls.isEmpty.toNat
    covered := gaps.covered + (row.status == .covered).toNat }

end Gaps

/-- The rows of a catalog and the gaps that were counted beside them. -/
structure Matrix where
  rows : List Row
  gaps : Gaps
  version : Value

namespace Matrix

/-- The matrix of a catalog before its requirements are gone through. -/
def start (catalog : Catalog) : Matrix where
  rows := []
  gaps := .start catalog
  version := catalog.version

/-- The matrix with one more row. -/
def add (m : Matrix) (row : Row) : Matrix :=
  { m with rows := m.rows ++ [row], gaps := m.gaps.add row }

/-- The matrix of a catalog, of which `rowOf` makes the rows. -/
def ofRows (catalog : Catalog) (rowOf : Requirement → Result Row) : Result Matrix :=
  catalog.requirements.foldlM (fun m r => do return m.add (← rowOf r)) (start catalog)

/-- The matrix of a catalog, with the counts of the last run. -/
def ofCatalog (catalog : Catalog) (populations : List FilePopulation) (counts : Value) :
    Result Matrix :=
  ofRows catalog (Row.ofRequirement catalog populations counts)

/-- The matrix as an object. -/
def value (m : Matrix) : Value :=
  .object [
    ("rows", .list (m.rows.map Row.value)),
    ("gaps", m.gaps.value),
    ("spec_version", m.version)]

end Matrix

/-! ## Counts of a run -/

/-- The passes and failures of one requirement in a run. -/
structure Tally where
  requirement : Value
  passes : Number
  failures : Nat

/--
The tallies of the requirements that rules enforce. A finding of a rule counts as
a failure of each requirement that the rule enforces; the passes are what is left
of the number of records, which is data, and never less than zero.
-/
def tallies (catalog : Catalog) (checkIds : List Value) (records : Value) :
    Result (List Tally) := do
  let failures ← checkIds.foldlM (fun (index : Index Nat) id => do
    return index.alter (← id.key) id fun known => known.getD 0 + 1) Index.empty
  catalog.rulesByRequirement.entries.mapM fun entry => do
    let counts ← entry.value.mapM fun rule => do
      return (failures.get? (← rule.id.key)).getD 0
    let failed : Nat := counts.foldl (· + ·) 0
    let left ←
      match records.number? with
      | some n => n.sub (.whole failed)
      | none => throw .operandKind
    return {
      requirement := entry.shown
      passes := if left.lt .zero then .zero else left
      failures := failed }

/-- A tally as an object. -/
def Tally.value (t : Tally) : Value :=
  .object [("pass", .number t.passes), ("fail", .ofNat t.failures)]

/-- The counts of a requirement among the tallies of a run. -/
def countsAmong (found : List Tally) (r : Requirement) : Result Value := do
  let key ← r.id.key
  let own := found.find? fun t => t.requirement.key.toOption == some key
  return (own.map Tally.value).getD .null

/-- The matrix of a catalog, with the tallies of the last run. -/
def Matrix.ofTallies (catalog : Catalog) (populations : List FilePopulation)
    (found : List Tally) : Result Matrix :=
  ofRows catalog (Row.ofRequirementWith catalog populations (countsAmong found))

end InvoiceReadiness.Traceability
