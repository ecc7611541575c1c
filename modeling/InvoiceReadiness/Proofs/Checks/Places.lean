import InvoiceReadiness.Baseline.Run
import InvoiceReadiness.Direction
import InvoiceReadiness.Proofs.Checks.Duplicates
import InvoiceReadiness.Proofs.Custom.Findings
import InvoiceReadiness.Proofs.Dataset.Joins

/-!
# Findings name invoices of the records

What a finding says about its invoice was read off a record: off a header, or off the
buyer or the line that it is about. So the identifiers that a run reports are found among
the identifiers of its records, whether or not these belong to a header.

## Main results

* `Baseline.Check.run_names` — the findings of a baseline check.
* `Direction.misaligned_names` — the findings about our side of an invoice.
* `Custom.runAll_names` — the findings of custom checks.
-/

namespace InvoiceReadiness

/-! ## Identifiers that records have -/

/-- An identifier is empty, or one of the records names its invoice by it. -/
def Dataset.Names (data : Dataset) (id : Value) : Prop :=
  id.isFilled → ∃ kind, ∃ r ∈ data.records kind, r.get "invoice_id" = id

/-- The headers that are found by their identifiers are headers of the dataset. -/
def Dataset.IsIndexed (data : Dataset) : Prop :=
  ∀ key header, data.headerIndex.get? key = some header → header ∈ data.headers

namespace Dataset

variable {data : Dataset}

@[simp] theorem names_null : data.Names .null := nofun

theorem names_of_mem {kind : RecordKind} {r : Record} (h : r ∈ data.records kind) :
    data.Names (r.get "invoice_id") := fun _ => ⟨kind, r, h, rfl⟩

theorem names_of_header {header : Record} (h : header ∈ data.headers) :
    data.Names (header.get "invoice_id") :=
  have hmem : header ∈ data.records .headers := h
  names_of_mem hmem

theorem names_of_line {line : Record} (h : line ∈ data.lines) :
    data.Names (line.get "invoice_id") :=
  have hmem : line ∈ data.records .lines := h
  names_of_mem hmem

theorem names_orElse {v w : Value} (hv : data.Names v) (hw : data.Names w) :
    data.Names (v.orElse w) := by
  unfold Value.orElse
  split
  · exact hv
  · exact hw

theorem isIndexed_of_ofRecords {buyers headers lines : List Record}
    (h : ofRecords buyers headers lines = .ok data) : data.IsIndexed := by
  obtain ⟨buyerIndex, -, h⟩ := Result.bind_eq_ok.1 h
  obtain ⟨headerIndex, hindex, h⟩ := Result.bind_eq_ok.1 h
  obtain ⟨lineGroups, -, ⟨⟩⟩ := Result.bind_eq_ok.1 h
  obtain ⟨-, rfl⟩ := (indexBy_eq_ok_iff headerIndex).1 hindex
  intro key header hheader
  rw [Index.get?_lastOf] at hheader
  exact (List.mem_filter.1 (List.mem_of_getLast? hheader)).1

/-- The header of a record is one of the headers. -/
theorem mem_headers_of_headerFor (hdata : data.IsIndexed) {r header : Record}
    (h : data.headerFor r = .ok (some header)) : header ∈ data.headers := by
  unfold headerFor at h
  split at h
  · cases h
  · cases h
  · obtain ⟨key, -, h⟩ := Result.bind_eq_ok.1 h
    exact hdata key header (Except.ok.inj h)

/-- The coordinates of a record name its own invoice. -/
theorem invoiceId_of_coordinates {r : Record} {place : Coordinates}
    (h : data.coordinates r = .ok place) : place.invoiceId = r.get "invoice_id" := by
  obtain ⟨header, -, ⟨⟩⟩ := Result.bind_eq_ok.1 h
  rfl

end Dataset

@[simp] theorem Coordinates.ofHeader_invoiceId (header : Record) :
    (Coordinates.ofHeader header).invoiceId = header.get "invoice_id" := rfl

@[simp] theorem Coordinates.nowhere_invoiceId : Coordinates.nowhere.invoiceId = .null := rfl

/-- All findings name invoices of the records. -/
def NamesAll (data : Dataset) (findings : List Finding) : Prop :=
  ∀ f ∈ findings, data.Names f.place.invoiceId

/-! ## Baseline checks -/

namespace Baseline

@[simp] theorem Check.report_place (check : Check) (message : String) (place : Coordinates)
    (field expected actual : Value) :
    (check.report message place field expected actual).place = place := rfl

variable {data : Dataset}

theorem buyerTrnMissing_names : Yields (NamesAll data) (buyerTrnMissing data) := by
  refine yields_collect fun buyer _ => ?_
  simp

theorem buyerTrnFormat_names : Yields (NamesAll data) (buyerTrnFormat data) := by
  refine yields_collect fun buyer _ => ?_
  simp

theorem headerTotals_names : Yields (NamesAll data) (headerTotals data) := by
  refine yields_collect fun header hheader => ?_
  have hnames := Dataset.names_of_header hheader
  split <;> simp [hnames]

theorem mandatoryFields_names : Yields (NamesAll data) (mandatoryFields data) := by
  refine yields_flatten fun header hheader => Yields.filterMapM fun cell _ => ?_
  have hnames := Dataset.names_of_header hheader
  simp [hnames]

theorem buyerNotFound_names : Yields (NamesAll data) (buyerNotFound data) := by
  refine yields_collect fun header hheader => ?_
  have hnames := Dataset.names_of_header hheader
  simp [hnames]

theorem mixedVatRates_names : Yields (NamesAll data) (mixedVatRates data) := by
  refine yields_collect fun header hheader => ?_
  have hnames := Dataset.names_of_header hheader
  simp [hnames]

theorem duplicateNumber_names : Yields (NamesAll data) (duplicateNumber data) := by
  rw [duplicateNumber_eq_reportGroups]
  refine yields_reportGroups fun header hheader count => ?_
  have hnames := Dataset.names_of_header hheader
  simp [reportDuplicate, hnames]

/-- The coordinates of a line name the invoice that the line names. -/
theorem names_of_coordinates {line : Record} (hline : line ∈ data.lines) {place : Coordinates}
    (h : data.coordinates line = .ok place) : data.Names place.invoiceId := by
  rw [Dataset.invoiceId_of_coordinates h]
  exact Dataset.names_of_line hline

theorem lineTotals_names : Yields (NamesAll data) (lineTotals data) := by
  refine yields_collect fun line hline => ?_
  have hnames {place : Coordinates} (hplace : data.coordinates line = .ok place) :=
    names_of_coordinates hline hplace
  split <;> simp +contextual [hnames]

theorem vatCalculation_names : Yields (NamesAll data) (vatCalculation data) := by
  refine yields_collect fun line hline => ?_
  have hnames {place : Coordinates} (hplace : data.coordinates line = .ok place) :=
    names_of_coordinates hline hplace
  split <;> simp +contextual [hnames]

theorem negativeTotal_names : Yields (NamesAll data) (negativeTotal data) := by
  refine yields_collect fun line hline => ?_
  have hnames {place : Coordinates} (hplace : data.coordinates line = .ok place) :=
    names_of_coordinates hline hplace
  split
  · simp
  · simp only [Yields.ite_iff, Yields.bind_iff]
    refine ⟨fun _ => by simp, fun _ header _ => ?_⟩
    cases header <;> simp +contextual [hnames]

/-- The findings of a baseline check name invoices of the records. -/
theorem Check.run_names (check : Check) (data : Dataset) : Yields (NamesAll data) (check.run data) := by
  cases check with
  | buyerTrnMissing => exact buyerTrnMissing_names
  | buyerTrnFormat => exact buyerTrnFormat_names
  | duplicateNumber => exact duplicateNumber_names
  | headerTotals => exact headerTotals_names
  | lineTotals => exact lineTotals_names
  | vatCalculation => exact vatCalculation_names
  | negativeTotal => exact negativeTotal_names
  | buyerNotFound => exact buyerNotFound_names
  | mandatoryFields => exact mandatoryFields_names
  | mixedVatRates => exact mixedVatRates_names

/-- So do the findings of a run; a check that meets a fault has none. -/
theorem runAll_names (data : Dataset) :
    ∀ outcome ∈ runAll data, NamesAll data outcome.findings := by
  intro outcome houtcome
  obtain ⟨check, -, rfl⟩ := List.mem_map.1 houtcome
  show NamesAll data ((check.run data).toOption.getD [])
  cases hrun : check.run data with
  | ok findings => exact check.run_names data hrun
  | error fault => exact nofun

end Baseline

/-! ## Our side of an invoice -/

theorem Direction.misaligned_names (direction : Direction) (numbers : List Value)
    (data : Dataset) :
    Yields (NamesAll data) (direction.misaligned numbers data.headers data.buyerIndex) := by
  unfold Direction.misaligned
  simp only [Yields.bind_iff, Yields.ite_iff]
  refine fun ours _ => ⟨fun _ => yields_nil, fun _ => ?_⟩
  refine yields_collect fun header hheader => ?_
  have hnames := Dataset.names_of_header hheader
  simp [hnames]

/-! ## Custom checks -/

namespace Custom

variable {data : Dataset}

/-- What a custom check reports about a record names the invoice that the record names. -/
theorem Check.ReportsOn.names {check : Check} {kind : RecordKind} {r : Record} {f : Finding}
    (hr : r ∈ data.records kind) (h : check.ReportsOn data r f) :
    data.Names f.place.invoiceId := by
  rw [Dataset.invoiceId_of_coordinates h.coordinates]
  exact Dataset.names_of_mem hr

/-- The findings of custom checks name invoices of the records. -/
theorem runAll_names (checks : List Check) (data : Dataset) :
    Yields (NamesAll data) (runAll checks data) := by
  intro found hfound f hf
  obtain ⟨check, -, -, r, hflags, hreport⟩ := runAll_sound checks data hfound f hf
  exact hreport.names hflags.looksAt.1

end Custom

end InvoiceReadiness
