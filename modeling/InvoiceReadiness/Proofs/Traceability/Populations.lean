import InvoiceReadiness.Proofs.Traceability.Gaps

/-!
# Populations in a catalog and in its matrix

How well a requirement is populated is worked out twice: for the population of all mandatory
requirements of a catalog, and for the rows of its matrix. The matrix passes over requirements
without a file, the catalog over those that are not mandatory; both pass over what has no
column that is known. Here the two are shown to tell one story: the population of the catalog
is the mean over the rows.

They would not for any catalog. A requirement that has columns but no file counts for the
catalog and not for the matrix; in a catalog that was built there is none
(`Requirement.columns_eq_nil`).

## Main results

* `Row.population_eq` — the population of a row is that of its requirement.
* `Catalog.mandatoryPopulation?_eq` — the population of a catalog by the rows of its matrix.
* `Catalog.mandatoryPopulation_of_rows` — it is their mean, and known if one of them is.
-/

namespace InvoiceReadiness

/-- The mean of numbers, which are summed up in their order and divided by their count; every
step is rounded. Of no numbers there is none. -/
def IsMeanOf (mean : Option Binary64) (numbers : List Binary64) : Prop :=
  (mean = none ↔ numbers = []) ∧
    ∀ x, mean = some x →
      x = (numbers.foldl Binary64.add Binary64.zero).div (Binary64.ofInt numbers.length)

theorem isMeanOf_mean? (numbers : List Binary64) : IsMeanOf (Binary64.mean? numbers) numbers := by
  unfold Binary64.mean? IsMeanOf
  by_cases hnone : numbers.isEmpty
  · rw [if_pos hnone]
    refine ⟨iff_of_true rfl (List.isEmpty_iff.1 hnone), fun x hx => ?_⟩
    cases hx
  · rw [if_neg hnone]
    refine ⟨iff_of_false nofun (mt List.isEmpty_iff.2 hnone), fun x hx => ?_⟩
    exact (Option.some.inj hx).symm

namespace Traceability

variable {catalog : Catalog} {populations : List FilePopulation}
  {countsOf : Requirement → Result Value}

/-! ## Populations of requirements -/

/-- In a catalog that was built, a requirement without a file has no columns. -/
theorem Requirement.columns_eq_nil {field : Registry.Field} {r : Requirement}
    (h : Requirement.ofField field = .ok r) (hfile : r.supplier.isNone) : r.columns = [] := by
  obtain ⟨source, hof⟩ := exists_isOf h
  cases source with
  | none => exact hof.columns
  | some s =>
      rw [supplier, hof.file] at hfile
      cases hkind : s.file <;> simp [hkind, RecordKind.name] at hfile

theorem Requirement.population?_eq_none {r : Requirement} (h : r.columns = []) :
    r.population? populations = none := by
  rw [population?, h]
  rfl

/-- A requirement that has a known population has columns. -/
theorem Requirement.inTemplate_of_population? {r : Requirement}
    (h : (r.population? populations).isSome) : r.inTemplate := by
  by_contra hnone
  have hcolumns : r.columns = [] := by simpa [inTemplate] using hnone
  rw [population?_eq_none hcolumns] at h
  cases h

/-! ## Populations of rows -/

theorem Row.population_of_ofRequirementWith_eq_ok {r : Requirement} {row : Row}
    (h : ofRequirementWith catalog populations countsOf r = .ok row) :
    row.population = if r.supplier.isNone then none else r.population? populations := by
  obtain ⟨rules, -, h⟩ := Result.bind_eq_ok.1 h
  obtain ⟨controls, -, h⟩ := Result.bind_eq_ok.1 h
  obtain ⟨own, -, h⟩ := Result.bind_eq_ok.1 h
  obtain ⟨counted, -, h⟩ := Result.bind_eq_ok.1 h
  obtain ⟨isNew, -, ⟨⟩⟩ := Result.bind_eq_ok.1 h
  rfl

section Built

variable {fields : List Registry.Field} {checks definitions : List Value}
  (hmade : catalog.MadeOf fields checks definitions) {m : Matrix}
  (hm : Matrix.ofRows catalog (Row.ofRequirementWith catalog populations countsOf) = .ok m)

include hmade hm

/-- In the matrix of a catalog that was built, the population of a row is that of its
requirement. -/
theorem Row.population_eq {row : Row} (hrow : row ∈ m.rows) :
    row.population = row.requirement.population? populations := by
  obtain ⟨rows, hrows, rfl⟩ := Matrix.ofRows_eq_ok_iff.1 hm
  rw [(Matrix.follows_foldl_add catalog rows).rows_eq] at hrow
  have hsource : ∀ r ∈ catalog.requirements,
      ∃ field ∈ fields, Requirement.ofField field = .ok r :=
    Yields.mapM (fun field hf r hr => ⟨field, hf, hr⟩) hmade.requirements
  have hall : ∀ row ∈ rows, row.population = row.requirement.population? populations := by
    refine Yields.mapM (fun r hr row hof => ?_) hrows
    obtain ⟨field, -, hfield⟩ := hsource r hr
    rw [population_of_ofRequirementWith_eq_ok hof,
      (isAbout_of_ofRequirementWith_eq_ok hof).requirement]
    split
    · rename_i hfile
      exact (Requirement.population?_eq_none (Requirement.columns_eq_nil hfield hfile)).symm
    · rfl
  exact hall row hrow

/-- The population of a catalog is the mean of the populations that the rows of what is
mandatory tell. -/
theorem Catalog.mandatoryPopulation?_eq :
    catalog.mandatoryPopulation? populations =
      Binary64.mean? ((m.rows.filter fun row => row.requirement.mandatory).filterMap
        Row.population) := by
  have hrows := (Matrix.rows_of_ofRows_eq_ok hm).1
  rw [mandatoryPopulation?, mandatory, ← hrows, List.filter_map, List.filterMap_map]
  congr 1
  refine List.filterMap_congr fun row hrow => ?_
  exact (Row.population_eq hmade hm (List.mem_of_mem_filter hrow)).symm

/-- The rows of what is mandatory and in the template and whose population is known: those
that tell the populations whose mean is that of the catalog. -/
theorem Catalog.exists_percents :
    ∃ percents : List Binary64,
      (m.rows.filter fun row => row.requirement.mandatory && row.requirement.inTemplate &&
        row.population.isSome).map Row.population = percents.map some ∧
      catalog.mandatoryPopulation? populations = Binary64.mean? percents := by
  refine ⟨_, ?_, mandatoryPopulation?_eq hmade hm⟩
  have hkeep : (m.rows.filter fun row => row.requirement.mandatory &&
      row.requirement.inTemplate && row.population.isSome) =
      (m.rows.filter fun row => row.requirement.mandatory).filter
        fun row => row.population.isSome := by
    rw [List.filter_filter]
    refine List.filter_congr fun row hrow => ?_
    -- A population that is known is one of columns, so the row is in the template.
    cases hknown : row.population.isSome with
    | false => simp
    | true =>
        rw [Row.population_eq hmade hm hrow] at hknown
        simp [Requirement.inTemplate_of_population? hknown]
  rw [hkeep, List.map_filterMap_some_eq_filter_map_isSome, List.filter_map]
  rfl

end Built

/--
There is a matrix if every requirement has a row, and with the tallies of a run, or none, if
every status in tax law is a text. Then the population of all that is mandatory is the mean of
those in the rows that are mandatory, in the template and of a known population, and it is
known if there is such a row.
-/
theorem Catalog.mandatoryPopulation_of_rows {fields : List Registry.Field}
    {checks definitions : List Value} {version : Value} {catalog : Catalog}
    (h : build fields checks definitions version = .ok catalog)
    (populations : List FilePopulation) (counts : Value) :
    ((∃ m, Matrix.ofCatalog catalog populations counts = .ok m) ↔
        ∀ r ∈ catalog.requirements, r.HasRow counts) ∧
      (Row.TellsTallies counts →
        ((∃ m, Matrix.ofCatalog catalog populations counts = .ok m) ↔
          ∀ field ∈ fields, ∃ s, field.vatLawStatus = .text s)) ∧
      ∀ m, Matrix.ofCatalog catalog populations counts = .ok m →
        let telling := m.rows.filter fun row => row.requirement.mandatory &&
          row.requirement.inTemplate && row.population.isSome
        (catalog.mandatoryPopulation? populations = none ↔ telling = []) ∧
          ∃ percents : List Binary64, telling.map Row.population = percents.map some ∧
            IsMeanOf (catalog.mandatoryPopulation? populations) percents := by
  have hmade := of_build_eq_ok h
  refine ⟨Matrix.exists_ofCatalog_iff, Matrix.exists_ofCatalog_tallies_iff hmade, ?_⟩
  intro m hm telling
  obtain ⟨percents, htelling, hmean⟩ := exists_percents hmade hm
  have hisMean := isMeanOf_mean? percents
  rw [← hmean] at hisMean
  have hnone : percents = [] ↔ telling = [] := by
    rw [← List.map_eq_nil_iff (f := some), ← htelling, List.map_eq_nil_iff]
  exact ⟨hisMean.1.trans hnone, percents, htelling, hisMean⟩

/-- A requirement of two columns counts with their mean; one that is not mandatory, one that
the service provider derives and one of a column that is not known do not count. -/
theorem Catalog.mandatoryPopulation_of_rows_two_columns :
    let field (id flag : String) : Registry.Field :=
      { id := .text id, term := .text id, cardinality := .text "1..1",
        mandatoryFlag := .text flag }
    let fields := [field "IBT-126" "Mandatory", field "IBT-002" "", field "IBT-023" "Mandatory",
      field "IBT-003" "Mandatory", field "IBT-001" "Mandatory"]
    let column (name : String) (percent : Int) : ColumnPopulation :=
      ⟨.text name, 0, 0, .ofInt percent⟩
    let populations : List FilePopulation := [
      ⟨"lines", [column "line_id" 50, column "line_number" 100]⟩,
      ⟨"headers", [column "invoice_number" 100, column "issue_date" 0]⟩]
    ∃ catalog m,
      build fields [] [] .null = .ok catalog ∧
      Matrix.ofCatalog catalog populations .null = .ok m ∧
      ((m.rows.filter fun row => row.requirement.mandatory && row.requirement.inTemplate &&
        row.population.isSome).map Row.population) =
          [some (.ofInt 75), some (.ofInt 100)] ∧
      catalog.mandatoryPopulation? populations = some (.percent 7 8) ∧
      IsMeanOf (catalog.mandatoryPopulation? populations) [.ofInt 75, .ofInt 100] := by
  intro field fields column populations
  have hrun : (do
      let catalog ← build fields [] [] .null
      let m ← Matrix.ofCatalog catalog populations .null
      return ((m.rows.filter fun row => row.requirement.mandatory &&
          row.requirement.inTemplate && row.population.isSome).map Row.population,
        catalog.mandatoryPopulation? populations)) =
      (.ok ([some (.ofInt 75), some (.ofInt 100)], some (.percent 7 8)) :
        Result (List (Option Binary64) × Option Binary64)) := by
    decide +kernel
  obtain ⟨catalog, hcatalog, hrun⟩ := Result.bind_eq_ok.1 hrun
  obtain ⟨m, hm, hrun⟩ := Result.bind_eq_ok.1 hrun
  obtain ⟨htelling, hmean⟩ := Prod.mk.inj (Except.ok.inj hrun)
  obtain ⟨percents, hpercents, hisMean⟩ :=
    ((mandatoryPopulation_of_rows hcatalog populations .null).2.2 m hm).2
  have hsame : percents = [.ofInt 75, .ofInt 100] :=
    List.map_injective_iff.2 (Option.some_injective _) (hpercents.symm.trans htelling)
  exact ⟨catalog, m, hcatalog, hm, htelling, hmean, hsame ▸ hisMean⟩

end Traceability

end InvoiceReadiness
