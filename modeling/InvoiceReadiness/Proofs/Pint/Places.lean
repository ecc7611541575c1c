import InvoiceReadiness.Proofs.Checks.Places
import InvoiceReadiness.Proofs.Pint.Stamping

/-!
# Cases name invoices of the records

A procedure places its cases by a header, by a line, by a record of any kind or by a
buyer alone. In each case the invoice is the one that a record names, or there is none.

## Main results

* `procedures_place`, `ruleProcedures_place` — the cases of the procedures.
* `runAll_names` — the cases of a run of the pack.
-/

namespace InvoiceReadiness.Pint

/-- A case names an invoice of the records. -/
def Case.Names (data : Dataset) (c : Case) : Prop := data.Names c.observation.place.invoiceId

/-- A procedure opens its cases at records of the dataset. -/
def Places (procedure : Procedure) : Prop :=
  ∀ task : Task, task.data.IsIndexed →
    Yields (fun cases => ∀ c ∈ cases, c.Names task.data) (procedure task)

/-! ## Places -/

variable {task : Task}

theorem observation_of_report {observation : Observation} {c : Case}
    (h : task.report observation = .ok c) : c.observation = observation := by
  obtain ⟨id, -, h⟩ := Result.bind_eq_ok.1 h
  dsimp only at h
  rw [← Result.ite_bind] at h
  obtain ⟨terms, -, h⟩ := Result.bind_eq_ok.1 h
  obtain ⟨hours, -, ⟨⟩⟩ := Result.bind_eq_ok.1 h
  rfl

theorem names_of_report {place : Coordinates} {field : Value}
    {observed expected message : String} {c : Case} (h : task.data.Names place.invoiceId) :
    (task.report ⟨place, field, observed, expected, message⟩ = .ok c → c.Names task.data) ↔
      True := by
  refine iff_true_intro fun hreport => ?_
  rw [Case.Names, observation_of_report hreport]
  exact h

@[simp] theorem names_of_report_ofHeader {header : Record} {field : Value}
    {observed expected message : String} {c : Case}
    (h : task.data.Names (header.get "invoice_id")) :
    (task.report ⟨.ofHeader header, field, observed, expected, message⟩ = .ok c →
      c.Names task.data) ↔ True :=
  names_of_report h

@[simp] theorem names_of_reportAbsent {header : Record} {field : Value} {message : String}
    {c : Case} (h : task.data.Names (header.get "invoice_id")) :
    (reportAbsent task header field message = .ok c → c.Names task.data) ↔ True :=
  names_of_report h

@[simp] theorem names_of_reportBuyer {buyer : Record} {field : Value}
    {observed expected message : String} {c : Case} :
    (reportBuyer task buyer field observed expected message = .ok c → c.Names task.data) ↔
      True :=
  names_of_report Dataset.names_null

theorem names_of_linePlace {data : Dataset} {line : Record} (hline : line ∈ data.lines)
    {place : Coordinates} (h : linePlace data line = .ok place) : data.Names place.invoiceId := by
  obtain ⟨header, -, ⟨⟩⟩ := Result.bind_eq_ok.1 h
  exact Dataset.names_of_line hline

/-- The place of a record may take its invoice from the header of the record. -/
theorem names_of_recordPlace {data : Dataset} (hdata : data.IsIndexed) {kind : RecordKind}
    {r : Record} (hr : r ∈ data.records kind) {place : Coordinates}
    (h : recordPlace data r = .ok place) : data.Names place.invoiceId := by
  obtain ⟨header, hheader, ⟨⟩⟩ := Result.bind_eq_ok.1 h
  refine Dataset.names_orElse (Dataset.names_of_mem hr) ?_
  cases header with
  | none => exact Dataset.names_null
  | some header =>
      exact Dataset.names_of_header (Dataset.mem_headers_of_headerFor hdata hheader)

/-! ## Procedures on headers and buyers -/

/-- A procedure that says something about each header, or nothing. -/
theorem yields_headers {f : Record → Result (Option Case)}
    (hf : ∀ header, task.data.Names (header.get "invoice_id") →
      Yields (fun found => ∀ c, found = some c → c.Names task.data) (f header)) :
    Yields (fun cases => ∀ c ∈ cases, c.Names task.data) (collect task.data.headers f) :=
  yields_collect fun header hheader => hf header (Dataset.names_of_header hheader)

theorem headerPresence_places : Places headerPresence := by
  intro task _
  simp only [headerPresence, Yields.bind_iff, Yields.ite_iff]
  refine fun field _ => ⟨fun _ => by simp, fun _ => yields_headers fun header hnames => ?_⟩
  simp [hnames]

theorem currencyCode_places : Places currencyCode := by
  intro task _
  simp only [currencyCode, Yields.bind_iff]
  refine fun field _ => yields_headers fun header hnames => ?_
  simp [hnames]

theorem taxCurrency_places : Places taxCurrency := by
  intro task _
  simp only [taxCurrency, Yields.bind_iff]
  refine fun currency _ base _ => yields_headers fun header hnames => ?_
  simp [hnames]

theorem exchangeRate_places : Places exchangeRate := by
  intro task _
  simp only [exchangeRate, Yields.bind_iff]
  refine fun _ _ _ _ _ _ _ _ _ _ _ _ => yields_headers fun header hnames => ?_
  simp [hnames]

theorem sellerTrn_places : Places sellerTrn := by
  intro task _
  refine yields_headers fun header hnames => ?_
  simp [hnames]

theorem hasLines_places : Places hasLines := by
  intro task _
  refine yields_headers fun header hnames => ?_
  simp [hnames]

theorem taxBreakdown_places : Places taxBreakdown := by
  intro task _
  refine yields_headers fun header hnames => ?_
  simp [hnames]

theorem lineNetSum_places : Places lineNetSum := by
  intro task _
  simp only [lineNetSum, Yields.bind_iff]
  refine fun tolerance _ => yields_headers fun header hnames => ?_
  simp [hnames]

theorem lineVatSum_places : Places lineVatSum := by
  intro task _
  simp only [lineVatSum, Yields.bind_iff]
  refine fun tolerance _ => yields_headers fun header hnames => ?_
  simp [hnames]

theorem headerTotals_places : Places headerTotals := by
  intro task _
  simp only [headerTotals, Yields.bind_iff]
  refine fun tolerance _ => yields_headers fun header hnames => ?_
  unfold totalsCase
  split <;> simp [hnames]

theorem headerPattern_places : Places headerPattern := by
  intro task _
  simp only [headerPattern, Yields.bind_iff, Yields.ite_iff]
  refine fun field _ source _ => ⟨fun _ => by simp, fun _ pattern _ => ?_⟩
  cases pattern with
  | none => simp
  | some pattern =>
      refine yields_headers fun header hnames => ?_
      simp [hnames]

theorem maxDecimals_places : Places maxDecimals := by
  intro task _
  simp only [maxDecimals, Yields.bind_iff, Yields.ite_iff]
  refine fun field _ limit _ => ⟨fun _ => by simp, fun _ => yields_headers fun header hnames => ?_⟩
  cases limit.number? <;> simp [hnames]

theorem allowedValues_places (defaultField label : String) :
    Places (allowedValues defaultField label) := by
  intro task _
  simp only [allowedValues, Yields.bind_iff]
  refine fun given _ field _ allowed _ => ?_
  split
  · simp only [Yields.bind_iff]
    refine fun texts _ => yields_headers fun header hnames => ?_
    simp [hnames]
  · simp

theorem paymentDueDate_places : Places paymentDueDate := by
  intro task _
  refine yields_flatten fun header hheader => ?_
  have hnames := Dataset.names_of_header hheader
  have hstated : Yields (fun found => ∀ c, found = some c → c.Names task.data)
      (dueDateStated task header) := by
    simp [dueDateStated, hnames]
  have hlate : Yields (fun found => ∀ c, found = some c → c.Names task.data)
      (dueDateLateEnough task header) := by
    simp only [dueDateLateEnough, Yields.bind_iff, Yields.ite_iff]
    refine fun due _ => ⟨fun _ => by simp, fun _ issue _ => ⟨fun _ => by simp, fun _ => ?_⟩⟩
    split <;> simp [hnames]
  simp only [Yields.bind_iff, Yields.pure_iff]
  intro stated hstatedEq late hlateEq c hc
  rcases List.mem_append.1 hc with hc | hc
  · exact hstated hstatedEq c (Option.mem_toList.1 hc)
  · exact hlate hlateEq c (Option.mem_toList.1 hc)

theorem sellerAddress_places : Places sellerAddress := by
  intro task _
  simp only [sellerAddress, Yields.bind_iff (r := listedFields _ _)]
  refine fun fields _ => yields_flatten fun header hheader =>
    Yields.filterMapM fun field _ => ?_
  have hnames := Dataset.names_of_header hheader
  simp [hnames]

theorem buyerName_places : Places buyerName := by
  intro task _
  refine yields_collect fun buyer _ => ?_
  simp

theorem buyerTrn_places : Places buyerTrn := by
  intro task _
  refine yields_collect fun buyer _ => ?_
  simp

theorem buyerAddress_places : Places buyerAddress := by
  intro task _
  simp only [buyerAddress, Yields.bind_iff (r := listedFields _ _)]
  refine fun fields _ => yields_flatten fun buyer _ =>
    Yields.filterMapM fun field _ => ?_
  simp

/-! ## Procedures on lines and on records of any kind -/

/-- A case that is opened at the place of a line, whatever else it says. -/
theorem yields_linePlace {line : Record} (hline : line ∈ task.data.lines)
    {rest : Coordinates → Result (Option Case)}
    (hrest : ∀ place, task.data.Names place.invoiceId →
      Yields (fun found => ∀ c, found = some c → c.Names task.data) (rest place)) :
    Yields (fun found => ∀ c, found = some c → c.Names task.data)
      (linePlace task.data line >>= rest) := by
  rw [Yields.bind_iff]
  exact fun place hplace => hrest place (names_of_linePlace hline hplace)

theorem lineNumber_places : Places lineNumber := by
  intro task _
  refine yields_collect fun line hline => ?_
  simp only [Yields.bind_iff (r := Value.isBlank _), Yields.ite_iff]
  refine fun blank _ => ⟨fun _ => by simp, fun _ => yields_linePlace hline fun place hnames => ?_⟩
  simp [names_of_report hnames]

theorem lineQuantity_places : Places lineQuantity := by
  intro task _
  refine yields_collect fun line hline => ?_
  rw [Yields.ite_iff]
  refine ⟨fun _ => by simp, fun _ => yields_linePlace hline fun place hnames => ?_⟩
  simp [names_of_report hnames]

/-- A case on an amount of a line that does not agree with the one that is expected. -/
theorem yields_disagreement {line : Record} (hline : line ∈ task.data.lines)
    {agrees : Result Bool} {rest : Coordinates → Result (Option Case)}
    (hrest : ∀ place, task.data.Names place.invoiceId →
      Yields (fun found => ∀ c, found = some c → c.Names task.data) (rest place)) :
    Yields (fun found => ∀ c, found = some c → c.Names task.data) (do
      if ← agrees then return none
      let place ← linePlace task.data line
      rest place) := by
  rw [Yields.bind_iff]
  intro agree _
  rw [Yields.ite_iff]
  exact ⟨fun _ => by simp, fun _ => yields_linePlace hline hrest⟩

theorem lineVat_places : Places lineVat := by
  intro task _
  simp only [lineVat, Yields.bind_iff (r := toleranceOf _)]
  refine fun tolerance _ => yields_collect fun line hline => ?_
  split
  · rw [Yields.bind_iff]
    intro share _
    rw [Yields.bind_iff]
    refine fun expected _ => yields_disagreement hline fun place hnames => ?_
    simp [names_of_report hnames]
  · simp

theorem lineNet_places : Places lineNet := by
  intro task _
  simp only [lineNet, Yields.bind_iff (r := toleranceOf _)]
  refine fun tolerance _ => yields_collect fun line hline => ?_
  split
  · rw [Yields.bind_iff]
    intro product _
    rw [Yields.bind_iff]
    refine fun expected _ => yields_disagreement hline fun place hnames => ?_
    simp [names_of_report hnames]
  · simp

theorem codeInList_places : Places codeInList := by
  intro task hdata
  simp only [codeInList, Yields.bind_iff, Yields.ite_iff]
  refine fun field _ => ⟨fun _ => by simp, fun _ list _ => ⟨fun _ => by simp, fun _ => ?_⟩⟩
  intro canonicalField _ listText _ kind _
  refine yields_collect fun r hr => ?_
  simp only [Yields.bind_iff, Yields.ite_iff]
  refine fun v _ blank _ => ⟨fun _ => by simp, fun _ known _ => ⟨fun _ => by simp, fun _ => ?_⟩⟩
  intro place hplace
  have hnames := names_of_recordPlace hdata hr hplace
  simp [names_of_report hnames]

theorem presence_places : Places presence := by
  intro task hdata
  simp only [presence, Yields.bind_iff, Yields.ite_iff]
  refine fun field _ => ⟨fun _ => by simp, fun _ canonicalField _ kind _ => ?_⟩
  refine yields_collect fun r hr => ?_
  simp only [Yields.bind_iff, Yields.ite_iff]
  refine fun v _ blank _ => ⟨fun _ => by simp, fun _ place hplace => ?_⟩
  have hnames := names_of_recordPlace hdata hr hplace
  simp [names_of_report hnames]

/-! ## Runs -/

theorem procedures_place : ∀ entry ∈ procedures, Places entry.2 := by
  simp only [procedures, List.forall_mem_cons]
  refine ⟨headerPresence_places, headerPresence_places, headerPattern_places,
    headerPresence_places, headerPresence_places, currencyCode_places, taxCurrency_places,
    exchangeRate_places, paymentDueDate_places, headerPattern_places,
    allowedValues_places _ _, sellerTrn_places, sellerAddress_places,
    allowedValues_places _ _, buyerName_places, buyerTrn_places, buyerAddress_places,
    lineNetSum_places, maxDecimals_places, maxDecimals_places, maxDecimals_places,
    headerTotals_places, maxDecimals_places, taxBreakdown_places, lineVat_places,
    lineVatSum_places, hasLines_places, lineNumber_places, lineQuantity_places,
    lineNet_places, by simp⟩

theorem ruleProcedures_place : ∀ entry ∈ ruleProcedures, Places entry.2 := by
  simp only [ruleProcedures, List.forall_mem_cons]
  exact ⟨codeInList_places, presence_places, by simp⟩

theorem runRecord_names (check : Record) {data : Dataset} (hdata : data.IsIndexed) :
    Yields (fun cases => ∀ c ∈ cases, c.Names data) (runRecord check data) := by
  rw [runRecord, Yields.bind_iff]
  intro found hfound
  cases found with
  | none => simp
  | some procedure =>
      exact procedureOf_yields procedures_place ruleProcedures_place check hfound procedure rfl _
        hdata

/-- The cases of a run name invoices of the records. -/
theorem runAll_names (checks : List Value) {data : Dataset} (hdata : data.IsIndexed) :
    Yields (fun cases => ∀ c ∈ cases, c.Names data) (runAll checks data) := by
  refine yields_flatten fun check _ => ?_
  simp only [runEnabled, Yields.bind_iff, Yields.ite_iff]
  refine fun r _ => ⟨fun _ => by simp, fun _ => ?_⟩
  split
  · simp
  · rename_i cases _ hcases
    rw [Yields.bind_iff]
    exact fun _ _ => Yields.pure_iff.2 (runRecord_names r hdata hcases)
  · simp

end InvoiceReadiness.Pint
