import InvoiceReadiness.Pint.Run
import InvoiceReadiness.Proofs.Dataset.Collecting
import InvoiceReadiness.Proofs.Value.Showing
import InvoiceReadiness.Traceability.Rule

/-!
# Cases are stamped by their check

Whatever procedure a check of the pack runs, each case that it opens carries the
identifier of the check and the data requirements that the check enforces, and no
others. The procedures have one way only to open a case, `Task.report`; that this is so
is shown for each of them, and the rest is said once.

The laws of `Yields` are simp lemmas and take a procedure apart as it is written, so
most of the procedures need no proof of their own.

## Main results

* `Pint.runRecord_stamps` — the cases of a check carry what the check says.
* `Pint.runAll_stamps` — so do the cases of a run, each for one of the checks.
-/

namespace InvoiceReadiness.Pint

/-! ## Opening cases -/

/-- A case that a task opened. -/
def OpenedBy (task : Task) (c : Case) : Prop :=
  ∃ observation, task.report observation = .ok c

/-- What is found about one record is a case that the task opened, if it is anything. -/
def Opens (task : Task) (found : Option Case) : Prop :=
  ∀ c, found = some c → OpenedBy task c

/-- All cases are opened by the task. -/
def OpensAll (task : Task) (cases : List Case) : Prop :=
  ∀ c ∈ cases, OpenedBy task c

variable {task : Task}

@[simp] theorem opens_none : Opens task none := by rintro c ⟨⟩

@[simp] theorem opens_some {c : Case} : Opens task (some c) ↔ OpenedBy task c := by
  simp [Opens]

@[simp] theorem opensAll_nil : OpensAll task [] := by simp [OpensAll]

@[simp] theorem openedBy_of_report {observation : Observation} {c : Case} :
    (task.report observation = .ok c → OpenedBy task c) ↔ True := by
  simp only [iff_true]
  exact fun h => ⟨observation, h⟩

@[simp] theorem openedBy_of_reportAbsent {header : Record} {field : Value}
    {message : String} {c : Case} :
    (reportAbsent task header field message = .ok c → OpenedBy task c) ↔ True :=
  openedBy_of_report

@[simp] theorem openedBy_of_reportBuyer {buyer : Record} {field : Value}
    {observed expected message : String} {c : Case} :
    (reportBuyer task buyer field observed expected message = .ok c → OpenedBy task c) ↔
      True :=
  openedBy_of_report

@[simp] theorem opens_collect {records : List Record} {f : Record → Result (Option Case)}
    (hf : ∀ r, Yields (Opens task) (f r)) : Yields (OpensAll task) (collect records f) :=
  yields_collect fun r _ => hf r

/-- Cases that are collected record by record, several for each. -/
theorem opens_flatten {records : List Record} {f : Record → Result (List Case)}
    (hf : ∀ r, Yields (OpensAll task) (f r)) :
    Yields (OpensAll task) (do return (← records.mapM f).flatten) :=
  yields_flatten fun r _ => hf r

/-! ## The procedures -/

/-- A procedure opens cases through its task alone. -/
def Stamps (procedure : Procedure) : Prop :=
  ∀ task, Yields (OpensAll task) (procedure task)

theorem headerPresence_stamps : Stamps headerPresence := by
  intro task
  simp [headerPresence]

theorem currencyCode_stamps : Stamps currencyCode := by
  intro task
  simp [currencyCode]

theorem taxCurrency_stamps : Stamps taxCurrency := by
  intro task
  simp [taxCurrency]

theorem exchangeRate_stamps : Stamps exchangeRate := by
  intro task
  simp [exchangeRate]

theorem sellerTrn_stamps : Stamps sellerTrn := by
  intro task
  simp [sellerTrn]

theorem lineNetSum_stamps : Stamps lineNetSum := by
  intro task
  simp [lineNetSum]

theorem lineVatSum_stamps : Stamps lineVatSum := by
  intro task
  simp [lineVatSum]

theorem taxBreakdown_stamps : Stamps taxBreakdown := by
  intro task
  simp [taxBreakdown]

theorem hasLines_stamps : Stamps hasLines := by
  intro task
  simp [hasLines]

theorem lineNumber_stamps : Stamps lineNumber := by
  intro task
  simp [lineNumber]

theorem lineQuantity_stamps : Stamps lineQuantity := by
  intro task
  simp [lineQuantity]

theorem buyerName_stamps : Stamps buyerName := by
  intro task
  simp [buyerName]

theorem buyerTrn_stamps : Stamps buyerTrn := by
  intro task
  simp [buyerTrn]

theorem codeInList_stamps : Stamps codeInList := by
  intro task
  simp [codeInList]

theorem presence_stamps : Stamps presence := by
  intro task
  simp [presence]

theorem lineNet_stamps : Stamps lineNet := by
  intro task
  simp only [lineNet, Yields.bind_iff]
  refine fun tolerance _ => opens_collect fun line => ?_
  split <;> simp

theorem lineVat_stamps : Stamps lineVat := by
  intro task
  simp only [lineVat, Yields.bind_iff]
  refine fun tolerance _ => opens_collect fun line => ?_
  split <;> simp

theorem headerTotals_stamps : Stamps headerTotals := by
  intro task
  simp only [headerTotals, Yields.bind_iff]
  refine fun tolerance _ => opens_collect fun header => ?_
  unfold totalsCase
  split <;> simp

theorem headerPattern_stamps : Stamps headerPattern := by
  intro task
  simp only [headerPattern, Yields.bind_iff, Yields.ite_iff]
  refine fun field _ source _ => ⟨fun _ => by simp, fun _ pattern _ => ?_⟩
  cases pattern <;> simp

theorem maxDecimals_stamps : Stamps maxDecimals := by
  intro task
  simp only [maxDecimals, Yields.bind_iff, Yields.ite_iff]
  refine fun field _ limit _ => ⟨fun _ => by simp, fun _ => opens_collect fun header => ?_⟩
  cases limit.number? <;> simp

theorem paymentDueDate_stamps : Stamps paymentDueDate := by
  intro task
  have hstated (header : Record) : Yields (Opens task) (dueDateStated task header) := by
    simp [dueDateStated]
  have hlate (header : Record) : Yields (Opens task) (dueDateLateEnough task header) := by
    simp only [dueDateLateEnough, Yields.bind_iff, Yields.ite_iff]
    refine fun due _ => ⟨fun _ => by simp, fun _ issue _ => ⟨fun _ => by simp, fun _ => ?_⟩⟩
    split <;> simp
  refine opens_flatten fun header => ?_
  simp only [Yields.bind_iff, Yields.pure_iff]
  intro stated hstatedEq late hlateEq c hc
  rcases List.mem_append.1 hc with hc | hc
  · exact hstated header hstatedEq c (Option.mem_toList.1 hc)
  · exact hlate header hlateEq c (Option.mem_toList.1 hc)

theorem allowedValues_stamps (defaultField label : String) :
    Stamps (allowedValues defaultField label) := by
  intro task
  simp only [allowedValues, Yields.bind_iff]
  refine fun given _ field _ allowed _ => ?_
  split <;> simp

theorem sellerAddress_stamps : Stamps sellerAddress := by
  intro task
  simp only [sellerAddress, Yields.bind_iff (r := listedFields _ _)]
  refine fun fields _ => opens_flatten fun header => Yields.filterMapM fun field _ => ?_
  change Yields (Opens task) _
  simp

theorem buyerAddress_stamps : Stamps buyerAddress := by
  intro task
  simp only [buyerAddress, Yields.bind_iff (r := listedFields _ _)]
  refine fun fields _ => opens_flatten fun buyer => Yields.filterMapM fun field _ => ?_
  change Yields (Opens task) _
  simp

/-! ## What a case carries -/

/-- A case carries the identifier of a rule and the requirements that it enforces. -/
def Case.CarriesOf (c : Case) (rule : Traceability.Rule) : Prop :=
  c.checkId = rule.id ∧ c.terms = rule.requirements

/-- The requirements that a check enforces; none if it gives none. -/
def termsOf (check : Record) : Result (List Value) :=
  let terms := check.get "pint_reference_terms"
  if terms.isFilled then terms.elements else .ok []

theorem of_report_eq_ok {observation : Observation} {c : Case}
    (h : task.report observation = .ok c) :
    c.checkId = task.check.get "check_id" ∧ termsOf task.check = .ok c.terms := by
  obtain ⟨id, hid, h⟩ := Result.bind_eq_ok.1 h
  dsimp only at h
  rw [← Result.ite_bind] at h
  obtain ⟨terms, hterms, h⟩ := Result.bind_eq_ok.1 h
  obtain ⟨hours, -, ⟨⟩⟩ := Result.bind_eq_ok.1 h
  refine ⟨?_, hterms⟩
  rw [Task.checkId] at hid
  split at hid
  · cases hid
    rfl
  · cases hid

/-- A check is a record with an identifier, and so is its rule. -/
theorem of_ofCheck_eq_ok {check : Value} {rule : Traceability.Rule}
    (h : Traceability.Rule.ofCheck check = .ok rule) :
    Traceability.requiredMember check "check_id" = .ok rule.id ∧
      ∃ r, check.record = .ok r ∧ rule.id = r.get "check_id" ∧
        termsOf r = .ok rule.requirements := by
  obtain ⟨id, hid, h⟩ := Result.bind_eq_ok.1 h
  obtain ⟨name, -, h⟩ := Result.bind_eq_ok.1 h
  obtain ⟨r, hr, h⟩ := Result.bind_eq_ok.1 h
  dsimp only at h
  rw [← Result.ite_bind] at h
  obtain ⟨terms, hterms, ⟨⟩⟩ := Result.bind_eq_ok.1 h
  refine ⟨hid, r, hr, ?_, hterms⟩
  cases check with
  | object members =>
      cases hr
      rw [Traceability.requiredMember] at hid
      split at hid
      · cases hid
        rfl
      · cases hid
  | _ => cases hr

/-! ## Runs -/

theorem procedures_stamp : ∀ entry ∈ procedures, Stamps entry.2 := by
  simp only [procedures, List.forall_mem_cons]
  refine ⟨headerPresence_stamps, headerPresence_stamps, headerPattern_stamps,
    headerPresence_stamps, headerPresence_stamps, currencyCode_stamps, taxCurrency_stamps,
    exchangeRate_stamps, paymentDueDate_stamps, headerPattern_stamps,
    allowedValues_stamps _ _, sellerTrn_stamps, sellerAddress_stamps,
    allowedValues_stamps _ _, buyerName_stamps, buyerTrn_stamps, buyerAddress_stamps,
    lineNetSum_stamps, maxDecimals_stamps, maxDecimals_stamps, maxDecimals_stamps,
    headerTotals_stamps, maxDecimals_stamps, taxBreakdown_stamps, lineVat_stamps,
    lineVatSum_stamps, hasLines_stamps, lineNumber_stamps, lineQuantity_stamps,
    lineNet_stamps, by simp⟩

theorem ruleProcedures_stamp : ∀ entry ∈ ruleProcedures, Stamps entry.2 := by
  simp only [ruleProcedures, List.forall_mem_cons]
  exact ⟨codeInList_stamps, presence_stamps, by simp⟩

/-- What is true of all procedures is true of the one that a name stands for. -/
theorem procedureNamed_yields {P : Procedure → Prop} {table : List (String × Procedure)}
    {name : Value} (htable : ∀ entry ∈ table, P entry.2) :
    Yields (fun found => ∀ procedure, found = some procedure → P procedure)
      (procedureNamed table name) := by
  unfold procedureNamed
  rw [Yields.bind_iff]
  intro _ _
  cases name with
  | text s =>
      refine Yields.pure_iff.2 fun procedure h => ?_
      obtain ⟨entry, hentry, rfl⟩ := Option.map_eq_some_iff.1 h
      exact htable entry (List.mem_of_find?_eq_some hentry)
  | _ => exact Yields.pure_iff.2 (by rintro _ ⟨⟩)

/-- What is true of all procedures is true of the one that a check runs. -/
theorem procedureOf_yields {P : Procedure → Prop} (hown : ∀ entry ∈ procedures, P entry.2)
    (hrule : ∀ entry ∈ ruleProcedures, P entry.2) (check : Record) :
    Yields (fun found => ∀ procedure, found = some procedure → P procedure)
      (procedureOf check) := by
  rw [procedureOf, Yields.bind_iff]
  intro found hfound
  cases found with
  | none => exact procedureNamed_yields hrule
  | some procedure =>
      refine Yields.pure_iff.2 ?_
      rintro _ ⟨⟩
      exact procedureNamed_yields hown hfound procedure rfl

/-- The cases of a check carry what the check says. -/
theorem runRecord_stamps (check : Record) (data : Dataset) :
    Yields (fun cases => ∀ c ∈ cases,
        c.checkId = check.get "check_id" ∧ termsOf check = .ok c.terms)
      (runRecord check data) := by
  rw [runRecord, Yields.bind_iff]
  intro found hfound
  cases found with
  | none => simp
  | some procedure =>
      intro cases hcases c hc
      obtain ⟨observation, hopened⟩ :=
        procedureOf_yields procedures_stamp ruleProcedures_stamp check hfound procedure rfl _
          hcases c hc
      exact of_report_eq_ok hopened

/-- So do those of an enabled check. -/
theorem runEnabled_stamps {check : Value} {rule : Traceability.Rule}
    (hrule : Traceability.Rule.ofCheck check = .ok rule) (data : Dataset) :
    Yields (fun cases => ∀ c ∈ cases, c.CarriesOf rule) (runEnabled data check) := by
  obtain ⟨-, r, hr, hid, hterms⟩ := of_ofCheck_eq_ok hrule
  rw [runEnabled, hr, Result.ok_bind, Yields.ite_iff]
  refine ⟨fun _ => by simp, fun _ => ?_⟩
  split
  · simp
  · rename_i cases _ hcases
    rw [Yields.bind_iff]
    intro _ _
    refine Yields.pure_iff.2 fun c hc => ?_
    obtain ⟨hcid, hcterms⟩ := runRecord_stamps r data hcases c hc
    exact ⟨hcid.trans hid.symm, Except.ok.inj (hcterms.symm.trans hterms)⟩
  · simp

/-- The cases of a run are each opened for one of the checks. -/
theorem runAll_stamps {checks : List Value} {rules : List Traceability.Rule}
    (hrules : checks.mapM Traceability.Rule.ofCheck = .ok rules) (data : Dataset) :
    Yields (fun cases => ∀ c ∈ cases, ∃ rule ∈ rules, c.CarriesOf rule)
      (runAll checks data) := by
  have hcheck : ∀ check ∈ checks,
      Yields (fun cases => ∀ c ∈ cases, ∃ rule ∈ rules, c.CarriesOf rule)
        (runEnabled data check) := by
    intro check hmem cases hcases c hc
    obtain ⟨rule, hrule, hof⟩ := Result.exists_result_of_mem hrules hmem
    exact ⟨rule, hrule, runEnabled_stamps hof data hcases c hc⟩
  rw [runAll, Yields.bind_iff]
  intro found hfound
  refine Yields.pure_iff.2 fun c hc => ?_
  obtain ⟨cases, hcases, hc⟩ := List.mem_flatten.1 hc
  exact Yields.mapM hcheck hfound cases hcases c hc

/-- A run ends well if the identifiers of its checks can be written. -/
theorem exists_runAll {checks : List Value} (data : Dataset)
    (hchecks : ∀ check ∈ checks, ∃ r, check.record = .ok r ∧
      (r.get "check_id").withinDigits) :
    ∃ cases, runAll checks data = .ok cases := by
  have hcheck : ∀ check ∈ checks, ∃ cases, runEnabled data check = .ok cases := by
    intro check hmem
    obtain ⟨r, hr, hid⟩ := hchecks check hmem
    obtain ⟨s, hs⟩ := Value.exists_shown hid
    rw [runEnabled, hr, Result.ok_bind, hs]
    split
    · exact ⟨_, rfl⟩
    · split <;> exact ⟨_, rfl⟩
  obtain ⟨found, hfound⟩ := Result.exists_mapM_eq_ok hcheck
  rw [runAll, hfound]
  exact ⟨_, rfl⟩

end InvoiceReadiness.Pint
