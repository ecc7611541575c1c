import InvoiceReadiness.Proofs.Dataset.Growth
import InvoiceReadiness.Proofs.Pint.Stamping

/-!
# Cases of a dataset that grows

A header that is appended to a dataset has no effect on the cases that the procedures of
the check pack open for the other records: a procedure on headers opens the same cases and
then those of the new header, and a procedure on buyers or lines opens the same cases and
no others. So only a fault at the new header can take cases away, all those of the check
in which it is met.

## Main results

* `procedures_grow`, `ruleProcedures_grow` — all procedures, with any parameters.
* `runRecord_grows` — the cases of a check, whatever it says.
* `runAll_pack`, `openedBy_keeps` — the cases of a run of the whole pack.
-/

namespace InvoiceReadiness.Pint

/-- When a header is appended, a procedure opens the cases that it opened before, and then
those about the new header. -/
def GrowsByHeader (procedure : Procedure) : Prop :=
  ∀ (check : Record) (parameters : Value) (data : Dataset) (h : Record), data.Admits h →
    Grows (procedure ⟨check, parameters, data⟩)
      (procedure ⟨check, parameters, data.onlyHeader h⟩)
      (procedure ⟨check, parameters, data.withHeader h⟩)

variable {data : Dataset} {h : Record}

/-- The place of a line that does not point at the header. -/
theorem linePlace_onlyHeader (hadmits : data.Admits h) {line : Record}
    (hline : line ∈ data.lines) : linePlace (data.onlyHeader h) line = linePlace data line := by
  show linePlace (data.withHeader h) line = linePlace data line
  rw [linePlace, linePlace, Dataset.headerFor_withHeader hadmits.id (hadmits.lines line hline)]

/-- The place of a record of any kind. -/
theorem recordPlace_onlyHeader (hadmits : data.Admits h) {kind : RecordKind} {r : Record}
    (hr : r ∈ data.records kind) : recordPlace (data.onlyHeader h) r = recordPlace data r := by
  show recordPlace (data.withHeader h) r = recordPlace data r
  rw [recordPlace, recordPlace,
    Dataset.headerFor_withHeader hadmits.id (hadmits.records kind r hr)]

/-! ## Procedures on headers -/

theorem headerPresence_grows : GrowsByHeader headerPresence := by
  intro check parameters data h _
  unfold headerPresence
  refine Grows.bind fun field => ?_
  refine Grows.ite (fun _ => Grows.nil) fun _ => ?_
  exact Grows.collect _ _ _

theorem headerPattern_grows : GrowsByHeader headerPattern := by
  intro check parameters data h _
  unfold headerPattern
  refine Grows.bind fun field => Grows.bind fun source => ?_
  refine Grows.ite (fun _ => Grows.nil) fun _ => Grows.bind fun pattern => ?_
  cases pattern with
  | none => exact Grows.nil
  | some pattern => exact Grows.collect _ _ _

theorem currencyCode_grows : GrowsByHeader currencyCode := by
  intro check parameters data h _
  unfold currencyCode
  refine Grows.bind fun field => ?_
  exact Grows.collect _ _ _

theorem taxCurrency_grows : GrowsByHeader taxCurrency := by
  intro check parameters data h _
  unfold taxCurrency
  refine Grows.bind fun given => Grows.bind fun base => ?_
  exact Grows.collect _ _ _

theorem lineNetSum_grows : GrowsByHeader lineNetSum := by
  intro check parameters data h _
  unfold lineNetSum
  refine Grows.bind fun tolerance => ?_
  exact Grows.collect _ _ _

theorem taxBreakdown_grows : GrowsByHeader taxBreakdown := by
  intro check parameters data h _
  exact Grows.collect _ _ _

theorem sellerAddress_grows : GrowsByHeader sellerAddress := by
  intro check parameters data h _
  unfold sellerAddress
  refine Grows.bind fun fields => ?_
  exact Grows.flatten _ _ _

theorem exchangeRate_grows : GrowsByHeader exchangeRate := by
  intro check parameters data h _
  unfold exchangeRate
  refine Grows.bind fun currency => Grows.bind fun currencyField => ?_
  refine Grows.bind fun rate => Grows.bind fun rateField => ?_
  refine Grows.bind fun given => Grows.bind fun base => ?_
  exact Grows.collect _ _ _

theorem paymentDueDate_grows : GrowsByHeader paymentDueDate := by
  intro check parameters data h _
  exact Grows.flatten _ _ _

theorem allowedValues_grows (defaultField label : String) :
    GrowsByHeader (allowedValues defaultField label) := by
  intro check parameters data h _
  unfold allowedValues
  refine Grows.bind fun given => Grows.bind fun field => Grows.bind fun allowed => ?_
  split
  · refine Grows.bind fun texts => ?_
    exact Grows.collect _ _ _
  · exact Grows.nil

theorem sellerTrn_grows : GrowsByHeader sellerTrn := by
  intro check parameters data h _
  exact Grows.collect _ _ _

theorem headerTotals_grows : GrowsByHeader headerTotals := by
  intro check parameters data h _
  unfold headerTotals
  refine Grows.bind fun tolerance => ?_
  exact Grows.collect _ _ _

theorem lineVatSum_grows : GrowsByHeader lineVatSum := by
  intro check parameters data h _
  unfold lineVatSum
  refine Grows.bind fun tolerance => ?_
  exact Grows.collect _ _ _

theorem maxDecimals_grows : GrowsByHeader maxDecimals := by
  intro check parameters data h _
  unfold maxDecimals
  refine Grows.bind fun field => Grows.bind fun limit => ?_
  refine Grows.ite (fun _ => Grows.nil) fun _ => ?_
  exact Grows.collect _ _ _

theorem hasLines_grows : GrowsByHeader hasLines := by
  intro check parameters data h _
  exact Grows.collect _ _ _

/-! ## Procedures on buyers and lines -/

theorem buyerName_grows : GrowsByHeader buyerName := by
  intro check parameters data h _
  exact Grows.unchanged fun _ _ => rfl

theorem buyerTrn_grows : GrowsByHeader buyerTrn := by
  intro check parameters data h _
  exact Grows.unchanged fun _ _ => rfl

theorem buyerAddress_grows : GrowsByHeader buyerAddress := by
  intro check parameters data h _
  unfold buyerAddress
  refine Grows.bind fun fields => ?_
  exact Grows.flatten_unchanged _ _

theorem lineVat_grows : GrowsByHeader lineVat := by
  intro check parameters data h hadmits
  unfold lineVat
  refine Grows.bind fun tolerance => Grows.unchanged fun line hline => ?_
  simp only [linePlace_onlyHeader hadmits hline]
  rfl

theorem lineNet_grows : GrowsByHeader lineNet := by
  intro check parameters data h hadmits
  unfold lineNet
  refine Grows.bind fun tolerance => Grows.unchanged fun line hline => ?_
  simp only [linePlace_onlyHeader hadmits hline]
  rfl

theorem lineNumber_grows : GrowsByHeader lineNumber := by
  intro check parameters data h hadmits
  refine Grows.unchanged fun line hline => ?_
  simp only [linePlace_onlyHeader hadmits hline]
  rfl

theorem lineQuantity_grows : GrowsByHeader lineQuantity := by
  intro check parameters data h hadmits
  refine Grows.unchanged fun line hline => ?_
  simp only [linePlace_onlyHeader hadmits hline]
  rfl

/-! ## Procedures on records of any kind -/

theorem codeInList_grows : GrowsByHeader codeInList := by
  intro check parameters data h hadmits
  unfold codeInList
  refine Grows.bind fun field => Grows.ite (fun _ => Grows.nil) fun _ => ?_
  refine Grows.bind fun list => Grows.ite (fun _ => Grows.nil) fun _ => ?_
  refine Grows.bind fun field => Grows.bind fun list => Grows.bind fun kind => ?_
  refine Grows.collect_records fun r hr => ?_
  simp only [recordPlace_onlyHeader hadmits hr]
  rfl

theorem presence_grows : GrowsByHeader presence := by
  intro check parameters data h hadmits
  unfold presence
  refine Grows.bind fun field => Grows.ite (fun _ => Grows.nil) fun _ => ?_
  refine Grows.bind fun field => Grows.bind fun kind => ?_
  refine Grows.collect_records fun r hr => ?_
  simp only [recordPlace_onlyHeader hadmits hr]
  rfl

/-! ## Runs -/

theorem procedures_grow : ∀ entry ∈ procedures, GrowsByHeader entry.2 := by
  simp only [procedures, List.forall_mem_cons]
  refine ⟨headerPresence_grows, headerPresence_grows, headerPattern_grows,
    headerPresence_grows, headerPresence_grows, currencyCode_grows, taxCurrency_grows,
    exchangeRate_grows, paymentDueDate_grows, headerPattern_grows,
    allowedValues_grows _ _, sellerTrn_grows, sellerAddress_grows,
    allowedValues_grows _ _, buyerName_grows, buyerTrn_grows, buyerAddress_grows,
    lineNetSum_grows, maxDecimals_grows, maxDecimals_grows, maxDecimals_grows,
    headerTotals_grows, maxDecimals_grows, taxBreakdown_grows, lineVat_grows,
    lineVatSum_grows, hasLines_grows, lineNumber_grows, lineQuantity_grows,
    lineNet_grows, by simp⟩

theorem ruleProcedures_grow : ∀ entry ∈ ruleProcedures, GrowsByHeader entry.2 := by
  simp only [ruleProcedures, List.forall_mem_cons]
  exact ⟨codeInList_grows, presence_grows, by simp⟩

/-- The cases of a check, whatever kind of check it is. -/
theorem runRecord_grows (check : Record) (hadmits : data.Admits h) :
    Grows (runRecord check data) (runRecord check (data.onlyHeader h))
      (runRecord check (data.withHeader h)) := by
  unfold runRecord
  cases hprocedure : procedureOf check with
  | error fault => rfl
  | ok found =>
      cases found with
      | none =>
          simp only [Result.ok_bind]
          exact Grows.bind fun _ => Grows.bind fun _ => Grows.nil
      | some procedure =>
          have hgrows : GrowsByHeader procedure :=
            procedureOf_yields procedures_grow ruleProcedures_grow check hprocedure procedure rfl
          exact hgrows check _ data h hadmits

/-- The cases that a check opens in a run; none if it is not enabled or meets a fault. -/
def openedBy (check : Record) (data : Dataset) : List Case :=
  if (check.get "is_enabled").isFilled then (runRecord check data).toOption.getD [] else []

theorem runEnabled_eq {check : Value} {r : Record} (hr : check.record = .ok r)
    (hid : (r.get "check_id").withinDigits) (data : Dataset) :
    runEnabled data check = .ok (openedBy r data) := by
  obtain ⟨name, hname⟩ := Value.exists_shown hid
  rw [runEnabled, hr, Result.ok_bind, openedBy]
  by_cases henabled : (r.get "is_enabled").isFilled
  · rw [if_pos henabled, henabled]
    cases hrun : runRecord r data with
    | error fault => rw [hname]; rfl
    | ok cases =>
        cases cases with
        | nil => rfl
        | cons first more => rw [hname]; rfl
  · rw [if_neg henabled, Bool.eq_false_iff.2 henabled]
    rfl

/-- A run of many checks, each with an identifier that can be written. -/
theorem runAll_eq {checks : List Record}
    (hids : ∀ check ∈ checks, (check.get "check_id").withinDigits) (data : Dataset) :
    runAll (checks.map Record.value) data =
      .ok (checks.flatMap fun check => openedBy check data) := by
  have heach : ∀ check ∈ checks,
      (runEnabled data ∘ Record.value) check = .ok (openedBy check data) := by
    intro check hcheck
    exact runEnabled_eq rfl (hids check hcheck) data
  rw [runAll, List.mapM_map, Result.mapM_eq_ok_map heach, Result.ok_bind, List.flatMap]
  rfl

theorem runAll_pack (data : Dataset) :
    runAll packValues data = .ok (pack.flatMap fun check => openedBy check.record data) := by
  have hchecks : packValues = (pack.map PackCheck.record).map Record.value := by
    rw [packValues, List.map_map]
    rfl
  have hids : ∀ check ∈ pack.map PackCheck.record, (check.get "check_id").withinDigits := by
    intro check hcheck
    obtain ⟨packed, -, rfl⟩ := List.mem_map.1 hcheck
    rfl
  rw [hchecks, runAll_eq hids, List.flatMap_map]

/-- An appended header leaves the cases of a check as they are, unless the check fails
on it. -/
theorem openedBy_keeps (check : Record) (hadmits : data.Admits h) :
    KeepsFindings (runRecord check (data.onlyHeader h)) (openedBy check data)
      (openedBy check (data.withHeader h)) := by
  unfold openedBy
  by_cases henabled : (check.get "is_enabled").isFilled
  · rw [if_pos henabled, if_pos henabled]
    exact (runRecord_grows check hadmits).keeps
  · rw [if_neg henabled, if_neg henabled]
    exact ⟨fun _ => List.prefix_rfl, fun _ => rfl⟩

end InvoiceReadiness.Pint
