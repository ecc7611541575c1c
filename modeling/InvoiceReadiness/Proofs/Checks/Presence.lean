import InvoiceReadiness.Population
import InvoiceReadiness.Proofs.Pint.Ordinary
import InvoiceReadiness.Proofs.Text.Parts
import InvoiceReadiness.Proofs.Value.Blanks

/-!
# Presence, four times over

Whether a header has a value in a cell is asked in four places: by the population of a
column, by a custom check for missing values, by a procedure of the check pack, and by the
baseline check of mandatory cells. One of them counts the headers that have a value and
three report those that have none; two take the cell by its name and two follow a path.
All four come down to the headers that lack the cell, in their order.

## Main results

* `populationOf_eq` — how many headers do not lack a cell.
* `Custom.Check.run_eq_mapM_lacking`, `Pint.headerPresence_eq_mapM_lacking`,
  `Baseline.mandatoryFields_eq_mapM` — one report about each header that lacks it.
* `presence_agrees` — the four agree.
-/

namespace InvoiceReadiness

/-- The records without a value in a cell. -/
def lacking (cell : String) (records : List Record) : List Record :=
  records.filter fun r => (r.get cell).isVacant

/-- A name that is no path: it is not empty, has no points, and no blanks around it. -/
structure IsCellName (name : String) : Prop where
  filled : name ≠ ""
  undivided : '.' ∉ name.toList
  unpadded : trimBlanks name.toList = name.toList

theorem IsCellName.namesCell {name : String} (h : IsCellName name) : Pint.NamesCell name := by
  rw [Pint.NamesCell, Value.segments, h.unpadded, splitAtChar_of_not_mem h.undivided]

theorem IsCellName.isFilled {name : String} (h : IsCellName name) :
    (Value.text name).isFilled = true := bne_iff_ne.2 h.filled

variable {headers : List Record} {data : Dataset} {name : String}

/-! ## Populations -/

/-- A record with a cell that keeps to the digit limit has its cell looked at. -/
theorem isBlank_cell {h : Record} (hh : h.value.withinDigits) (cell : String) :
    (h.get cell).isBlank = .ok (h.get cell).isVacant :=
  Value.isBlank_eq_ok (Value.withinDigits_cell hh cell)

/-- The rows of a column are the headers, and those that do not lack it are populated. -/
theorem ColumnPopulation.ofRows_eq (hdigits : ∀ h ∈ headers, h.value.withinDigits)
    (name : String) :
    ∃ p, ofRows (headers.map Record.value) (.text name) = .ok p ∧ p.column = .text name ∧
      p.rows = headers.length ∧ p.populated + (lacking name headers).length = headers.length := by
  let filled (row : Value) : Bool :=
    !((row.record.toOption.getD Record.empty).get name).isVacant
  have hfilled : ∀ row ∈ headers.map Record.value,
      (do return !(← (← cellNamed (← row.record) (.text name)).isBlank) : Result Bool) =
        .ok (filled row) := by
    intro row hrow
    obtain ⟨h, hh, rfl⟩ := List.mem_map.1 hrow
    show (do return !(← (h.get name).isBlank) : Result Bool) = .ok (filled h.value)
    rw [isBlank_cell (hdigits h hh)]
    rfl
  have hcount : ((headers.map Record.value).filter filled).length +
      (lacking name headers).length = headers.length := by
    have hparts := List.length_eq_countP_add_countP (fun h : Record => (h.get name).isVacant)
      (l := headers)
    rw [lacking, hparts, List.filter_map, List.length_map, Nat.add_comm,
      ← List.countP_eq_length_filter, ← List.countP_eq_length_filter]
    refine congrArg _ (List.countP_congr fun h _ => ?_)
    simp [filled, Record.value, Value.record, Except.toOption]
  rw [ofRows, Result.filterM_eq_ok_filter hfilled]
  exact ⟨_, rfl, rfl, List.length_map _, hcount⟩

/-- The populations of named columns, in their order. -/
theorem populationOf_eq (hdigits : ∀ h ∈ headers, h.value.withinDigits) (names : List String) :
    ∃ columns, populationOf (headers.map Record.value) (names.map Value.text) = .ok columns ∧
      columns.map ColumnPopulation.column = names.map Value.text ∧
      ∀ p ∈ columns, p.rows = headers.length ∧ ∀ name, p.column = .text name →
        p.populated + (lacking name headers).length = headers.length := by
  cases headers with
  | nil =>
      refine ⟨_, rfl, by rw [List.map_map]; exact List.map_id _, fun p hp => ?_⟩
      obtain ⟨column, -, rfl⟩ := List.mem_map.1 hp
      exact ⟨rfl, fun name _ => rfl⟩
  | cons h rest =>
      choose population hpopulation hcolumn hrows hcount using ColumnPopulation.ofRows_eq hdigits
      refine ⟨names.map population, ?_, ?_, fun p hp => ?_⟩
      · rw [populationOf, List.isEmpty_map, List.isEmpty_cons, if_neg Bool.false_ne_true,
          Result.mapM_eq_ok_iff, List.map_map, List.map_map]
        exact List.map_congr_left fun name _ => hpopulation name
      · rw [List.map_map]
        exact List.map_congr_left fun name _ => hcolumn name
      · obtain ⟨name, -, rfl⟩ := List.mem_map.1 hp
        refine ⟨hrows name, fun other hother => ?_⟩
        obtain rfl := Value.text.inj ((hcolumn name).symm.trans hother)
        exact hcount name

/-! ## Custom checks -/

/-- An unconditional custom check for missing values in a cell of the headers. -/
structure Custom.Check.AsksFor (check : Custom.Check) (name : String) : Prop where
  scope : check.scope = .header
  rule : check.rule = .missing (.text name)
  unconditional : check.condition.isFilled = false

/-- Such a check reports each header that lacks the cell. -/
theorem Custom.Check.run_eq_mapM_lacking {check : Custom.Check} (hcheck : check.AsksFor name)
    (hname : IsCellName name) (hdigits : ∀ h ∈ data.headers, h.value.withinDigits) :
    check.run data = (lacking name data.headers).mapM fun h =>
      check.report data h [] (.text name) .null (.text "(empty)") := by
  have habsent : check.rule.absent = [] := by
    rw [hcheck.rule]
    simp [Rule.absent, Rule.parameters, hname.isFilled]
  have hselected : check.selected data = .ok data.headers := by
    rw [selected, hcheck.scope]
    refine Result.filterM_eq_ok_self fun h _ => ?_
    rw [Expression.condition, hcheck.unconditional]
    rfl
  rw [run, habsent, hselected, hcheck.rule]
  refine collect_eq_mapM_filter fun h hh => ?_
  rw [Pint.resolveAt_text hname.namesCell, Result.ok_bind, isBlank_cell (hdigits h hh),
    Result.ok_bind]
  split
  · rw [map_eq_pure_bind]
  · rfl

/-! ## The check pack -/

/-- Open a case about a required cell of a header that lacks it. -/
def Pint.reportRequired (task : Task) (name : String) (header : Record) : Result Case := do
  let label ← ((header.get "invoice_number").orElse (header.get "invoice_id")).shown
  reportAbsent task header (.text name) s!"Invoice {label}: Missing required field \"{name}\""

/-- The procedure for presence opens a case about each header that lacks the cell. -/
theorem Pint.headerPresence_eq_mapM_lacking {task : Task} (hname : IsCellName name)
    (hfield : task.parameter "field" = .ok (.text name))
    (hdigits : ∀ h ∈ task.data.headers, h.value.withinDigits) :
    headerPresence task = (lacking name task.data.headers).mapM (reportRequired task name) := by
  rw [headerPresence, hfield, Result.ok_bind, hname.isFilled, Bool.not_true,
    if_neg Bool.false_ne_true]
  refine collect_eq_mapM_filter fun h hh => ?_
  rw [resolveAt_text hname.namesCell, Result.ok_bind, isBlank_cell (hdigits h hh),
    Result.ok_bind]
  cases (h.get name).isVacant with
  | true => simp [reportRequired]
  | false => rfl

/-! ## Mandatory cells -/

namespace Baseline

/-- The finding about a mandatory cell of a header that lacks it. -/
def reportMandatory (header : Record) (cell : String) : Result Finding := do
  let label ← ((header.get "invoice_number").orElse (header.get "invoice_id")).shown
  return Check.mandatoryFields.report
    s!"Invoice {label}: missing mandatory field \"{cell}\"" (Coordinates.ofHeader header)
    (.text cell) (.text "non-empty value") ((header.get cell).orElse emptyText)

/-- The mandatory cells that headers lack, each with its header. -/
def lackingCells (headers : List Record) : List (Record × String) :=
  headers.flatMap fun h =>
    (mandatoryCells.filter fun cell => (h.get cell).isVacant).map fun cell => (h, cell)

/-- There is one finding about each mandatory cell that a header lacks. -/
theorem mandatoryFields_eq_mapM (hdigits : ∀ h ∈ data.headers, h.value.withinDigits) :
    mandatoryFields data =
      (lackingCells data.headers).mapM fun (h, cell) => reportMandatory h cell := by
  refine Result.flatten_mapM fun h hh => ?_
  rw [List.mapM_map]
  refine Result.filterMapM_eq_mapM_filter fun cell _ => ?_
  dsimp only
  rw [isBlank_cell (hdigits h hh), Result.ok_bind]
  cases (h.get cell).isVacant with
  | true => simp [reportMandatory]
  | false => rfl

theorem fst_mem_of_mem_lackingCells {headers : List Record} {pair : Record × String}
    (h : pair ∈ lackingCells headers) : pair.1 ∈ headers := by
  obtain ⟨header, hheader, hpair⟩ := List.mem_flatMap.1 h
  obtain ⟨cell, -, rfl⟩ := List.mem_map.1 hpair
  exact hheader

/-- Each mandatory cell is listed once for each header that lacks it. -/
theorem countP_lackingCells (hname : name ∈ mandatoryCells) (headers : List Record) :
    (lackingCells headers).countP (fun pair => pair.2 == name) =
      (lacking name headers).length := by
  have honce : mandatoryCells.count name = 1 := by
    revert name
    decide
  have hcells (h : Record) : ((mandatoryCells.filter fun cell => (h.get cell).isVacant).map
      fun cell => (h, cell)).countP (fun pair => pair.2 == name) =
        if (h.get name).isVacant then 1 else 0 := by
    rw [List.countP_map, List.countP_filter]
    by_cases hvacant : (h.get name).isVacant
    · rw [if_pos hvacant, ← honce]
      refine List.countP_congr fun cell _ => ?_
      simp only [Function.comp_apply, Bool.and_eq_true, beq_iff_eq, and_iff_left_iff_imp]
      rintro rfl
      exact hvacant
    · rw [if_neg hvacant, List.countP_eq_zero]
      intro cell _
      simp only [Function.comp_apply, Bool.and_eq_true, beq_iff_eq, not_and]
      rintro rfl
      exact hvacant
  induction headers with
  | nil => rfl
  | cons h rest ih =>
      rw [lackingCells, List.flatMap_cons, List.countP_append, hcells, ← lackingCells, ih,
        lacking, lacking, List.filter_cons, Nat.add_comm]
      split <;> rfl

/-- The check for mandatory cells ends well, and names a cell in as many findings as there
are headers that lack it. -/
theorem exists_mandatoryFields (hdigits : ∀ h ∈ data.headers, h.value.withinDigits)
    (hname : name ∈ mandatoryCells) :
    ∃ found, mandatoryFields data = .ok found ∧
      (found.countP fun f => f.field.same (.text name)) = (lacking name data.headers).length := by
  have hreturns : Returns (mandatoryFields data) := by
    rw [mandatoryFields_eq_mapM hdigits]
    refine Returns.mapM fun pair hpair => ?_
    have hcell := Value.withinDigits_cell (hdigits _ (fst_mem_of_mem_lackingCells hpair))
    have hlabel := Value.returns_shown
      (Value.withinDigits_orElse (hcell "invoice_number") (hcell "invoice_id"))
    simp [reportMandatory, hlabel]
  obtain ⟨found, hfound⟩ := hreturns
  refine ⟨found, hfound, ?_⟩
  rw [mandatoryFields_eq_mapM hdigits] at hfound
  have hfields : found.map Finding.field =
      (lackingCells data.headers).map fun pair => Value.text pair.2 := by
    refine Result.map_eq_map_of_mapM_eq_ok hfound fun pair _ f hf => ?_
    obtain ⟨label, -, ⟨⟩⟩ := Result.bind_eq_ok.1 hf
    rfl
  have hcount := congrArg (List.countP fun field => field.same (.text name)) hfields
  rw [List.countP_map, List.countP_map] at hcount
  rw [← countP_lackingCells hname]
  exact hcount

end Baseline

/-! ## Agreement -/

/-- Let headers, none of them with a whole number of too many digits, be those of a dataset,
and let a name be no path. The rows that the population of its column does not count as
populated are as many as the findings of an unconditional custom check for missing values
in it, which ends well if and only if its message can be made for each of these headers; as
the cases of the procedure for presence, which ends well if cases can be opened; and, where
the cell is mandatory, as the findings about it of the baseline check. All four are the
headers whose cell is null, absent or a text of blanks. -/
theorem presence_agrees {buyers headers lines : List Record} {data : Dataset}
    (hdata : Dataset.ofRecords buyers headers lines = .ok data)
    (hdigits : ∀ h ∈ headers, h.value.withinDigits) {name : String} (hname : IsCellName name) :
    (∀ names : List String, ∃ columns,
      populationOf (headers.map Record.value) (names.map Value.text) = .ok columns ∧
      columns.map ColumnPopulation.column = names.map Value.text ∧
      ∀ p ∈ columns, p.column = .text name → p.populated ≤ p.rows ∧
        p.rows - p.populated = (lacking name headers).length) ∧
    (∀ check : Custom.Check, check.AsksFor name →
      (Returns (check.run data) ↔ ∀ h ∈ lacking name headers,
        Returns (Template.fillValue check.template h.value [])) ∧
      ∀ found, check.run data = .ok found → found.length = (lacking name headers).length) ∧
    (∀ task : Pint.Task, task.data = data → task.parameter "field" = .ok (.text name) →
      ((∀ observation, Returns (task.report observation)) →
        Returns (Pint.headerPresence task)) ∧
      ∀ cases, Pint.headerPresence task = .ok cases →
        cases.length = (lacking name headers).length) ∧
    (name ∈ Baseline.mandatoryCells →
      ∃ found, Baseline.Check.mandatoryFields.run data = .ok found ∧
      (found.countP fun f => f.field.same (.text name)) = (lacking name headers).length) := by
  obtain ⟨rfl, hids⟩ := Dataset.headers_of_ofRecords hdata
  have hlacking : ∀ h ∈ lacking name data.headers, h ∈ data.headers := fun h hh =>
    List.mem_of_mem_filter hh
  refine ⟨fun names => ?_, fun check hcheck => ?_, fun task htask hfield => ?_,
    Baseline.exists_mandatoryFields hdigits⟩
  · obtain ⟨columns, hcolumns, hnames, hall⟩ := populationOf_eq hdigits names
    refine ⟨columns, hcolumns, hnames, fun p hp hcolumn => ?_⟩
    obtain ⟨hrows, hcount⟩ := hall p hp
    have hcount := hcount name hcolumn
    omega
  · rw [Custom.Check.run_eq_mapM_lacking hcheck hname hdigits]
    refine ⟨?_, fun found hfound => Result.length_of_mapM_eq_ok hfound⟩
    rw [Returns.mapM_iff]
    refine forall₂_congr fun h hh => ?_
    obtain ⟨place, hplace, -⟩ := data.exists_coordinates (hids h (hlacking h hh))
    simp [Custom.Check.report, hplace]
  · rw [Pint.headerPresence_eq_mapM_lacking hname hfield (htask ▸ hdigits), htask]
    refine ⟨fun hopens => Returns.mapM fun h hh => ?_,
      fun cases hcases => Result.length_of_mapM_eq_ok hcases⟩
    have hcell := Value.withinDigits_cell (hdigits h (hlacking h hh))
    have hlabel := Value.returns_shown
      (Value.withinDigits_orElse (hcell "invoice_number") (hcell "invoice_id"))
    simp [Pint.reportRequired, Pint.reportAbsent, hlabel, hopens]

/-- Of headers whose currency is absent, null, empty, blank, zero, false, a list or an object
without items, and a text, the first four lack it. -/
theorem presence_agrees_mixed :
    let header (currency : Value) : Record := ⟨[("currency", currency)]⟩
    let headers := [⟨[]⟩, header .null, header (.text ""), header (.text " \t"),
      header (.ofInt 0), header (.bool false), header (.list []), header (.object []),
      header (.text "AED")]
    let check : Custom.Check := ⟨.null, .text "Currency", .null, .header,
      .missing (.text "currency"), .text "High", .null, .null, true⟩
    let packCheck : Record := ⟨[("check_id", .text "Currency")]⟩
    let parameters : Value := .object [("field", .text "currency")]
    ∃ data, Dataset.ofRecords [] headers [] = .ok data ∧ IsCellName "currency" ∧
      (∀ h ∈ headers, h.value.withinDigits) ∧
      (∃ columns, populationOf (headers.map Record.value) [.text "currency"] = .ok columns ∧
        columns.map ColumnPopulation.column = [.text "currency"] ∧
        ∀ p ∈ columns, p.column = .text "currency" → p.rows - p.populated = 4) ∧
      (∃ found, check.run data = .ok found ∧ found.length = 4) ∧
      (∃ cases, Pint.headerPresence ⟨packCheck, parameters, data⟩ = .ok cases ∧
        cases.length = 4) ∧
      ∃ found, Baseline.Check.mandatoryFields.run data = .ok found ∧
        (found.countP fun f => f.field.same (.text "currency")) = 4 := by
  intro header headers check packCheck parameters
  have hname : IsCellName "currency" := ⟨by decide, by decide, by decide⟩
  have hdigits : ∀ h ∈ headers, h.value.withinDigits := by decide +kernel
  have hlacking : (lacking "currency" headers).length = 4 := by decide +kernel
  obtain ⟨data, hdata⟩ : ∃ data, Dataset.ofRecords [] headers [] = .ok data := ⟨_, rfl⟩
  obtain ⟨hcolumns, hcheck, htask, hmandatory⟩ := presence_agrees hdata hdigits hname
  rw [hlacking] at hcolumns hmandatory
  refine ⟨data, hdata, hname, hdigits, ?_, ?_, ?_, hmandatory (by decide)⟩
  · obtain ⟨columns, hcolumns, hnames, hall⟩ := hcolumns ["currency"]
    exact ⟨columns, hcolumns, hnames, fun p hp hcolumn => (hall p hp hcolumn).2⟩
  · obtain ⟨hreturns, hlength⟩ := hcheck check ⟨rfl, rfl, rfl⟩
    obtain ⟨found, hfound⟩ := hreturns.2 fun h _ => ⟨"", rfl⟩
    exact ⟨found, hfound, (hlength found hfound).trans hlacking⟩
  · obtain ⟨hreturns, hlength⟩ := htask ⟨packCheck, parameters, data⟩ rfl rfl
    obtain ⟨cases, hcases⟩ := hreturns fun observation => ⟨_, rfl⟩
    exact ⟨cases, hcases, (hlength cases hcases).trans hlacking⟩

end InvoiceReadiness
