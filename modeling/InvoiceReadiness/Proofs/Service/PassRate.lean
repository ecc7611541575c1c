import InvoiceReadiness.Proofs.Pint.Places
import InvoiceReadiness.Proofs.Service.Runs
import InvoiceReadiness.Proofs.Traceability.Rates

/-!
# The pass rate of a run

The pass rate is meant as the share of invoices without an exception. What is computed
is the number of headers less the number of different identifiers that exceptions name.
The two agree if every header has an identifier of its own and no other record names an
invoice that is not there. If they do not, the rate counts invoices that are no headers,
and it can even be negative.

## Main results

* `Scoring.failingInvoices_eq_ok_iff` — which identifiers are counted.
* `Service.run_passRate` — the rate of a run, and when it is the share of headers without
  an exception.
-/

namespace InvoiceReadiness

open Traceability

/-! ## Identifiers that incidents name -/

namespace Scoring

/-- The identifiers of invoices among incidents; incidents about no invoice have none. -/
def namedInvoices (incidents : List Incident) : List Value :=
  (incidents.map Incident.invoiceId).filter Value.isFilled

/-- Every identifier counts once, however it is written. -/
theorem failingInvoices_eq_ok_iff (incidents : List Incident) (failing : Nat) :
    failingInvoices incidents = .ok failing ↔
      (∀ id ∈ namedInvoices incidents, id.isIdentifier) ∧
        failing = ((namedInvoices incidents).map Value.keyOf).toFinset.card := by
  let named := incidents.filter fun incident => incident.invoiceId.isFilled
  have hnamed : namedInvoices incidents = named.map Incident.invoiceId := List.filter_map ..
  have hloop : failingInvoices incidents = (do
      let index ← named.foldlM (fun (index : Index Unit) incident => do
        let key ← incident.invoiceId.key
        return index.alter key incident.invoiceId fun _ => ()) Index.empty
      return index.entries.length) := by
    rw [List.foldlM_filter]
    unfold failingInvoices
    congr 2
    funext index incident
    cases incident.invoiceId.isFilled <;> rfl
  rw [hloop, hnamed, List.forall_mem_map, Result.bind_eq_ok]
  constructor
  · rintro ⟨index, hindex, ⟨⟩⟩
    obtain ⟨hids, rfl⟩ := (Index.foldlM_alter_eq_ok_iff _ _ _ _ _).1 hindex
    exact ⟨hids, Index.length_entries_file _ _ _⟩
  · rintro ⟨hids, rfl⟩
    refine ⟨_, (Index.foldlM_alter_eq_ok_iff _ (fun _ _ => ()) _ _ _).2 ⟨hids, rfl⟩, ?_⟩
    rw [← Index.length_entries_file Incident.invoiceId fun _ (_ : Option Unit) => ()]
    rfl

/-! ## The rate of counts -/

/-- As long as no more invoices fail than there are, the rate is that of the others. -/
theorem passRate_eq_ok {total failing : Nat} (h : failing ≤ total) :
    passRate (.whole total) failing = .ok (.float (Binary64.percent (total - failing) total)) := by
  have hlt : Number.zero.lt (.whole total) ↔ 0 < total :=
    whole_lt_whole_iff.trans Int.natCast_pos
  unfold passRate Binary64.percent
  by_cases hnone : total = 0
  · rw [if_pos (by simpa [hnone] using hlt), if_pos (by simpa using hnone)]
    rfl
  · have hpos : 0 < total := Nat.pos_of_ne_zero hnone
    have hsub : (Number.whole total).sub (.whole failing) =
        .ok (.whole (total - failing : Nat)) := by
      rw [Int.ofNat_sub h]
      rfl
    rw [if_neg (by simpa using hlt.2 hpos), if_neg (by simpa using hnone), hsub, Result.ok_bind,
      whole_div_whole hpos (Nat.sub_le total failing), Result.ok_bind, float_mul_hundred]

end Scoring

/-- A number between zero and a hundred. -/
def Number.IsPercentage (n : Number) : Prop := Number.zero.le n ∧ n.le (.whole 100)

/-- Rounding to two places leaves a share between zero and a hundred percent. -/
theorem Binary64.roundPlaces_percent {part whole : Nat} (h : part ≤ whole) :
    (Number.float (Binary64.percent part whole)).roundPlaces 2 |>.IsPercentage :=
  ((isUpTo_percent h).roundPlaces representable_hundred 2).bounds

/-! ## Exact shares -/

/-- Two exact rates of one total are the same only if the passes are. -/
theorem Traceability.exactRate_eq_iff {total failing clean : Nat} (hfailing : failing ≤ total)
    (hclean : clean ≤ total) :
    exactRate (total - failing) failing = exactRate clean (total - clean) ↔
      clean + failing = total := by
  have hmul := exactRate_mul (total - failing) failing
  have hmul' := exactRate_mul clean (total - clean)
  rw [Nat.sub_add_cancel hfailing] at hmul
  rw [Nat.add_sub_cancel' hclean] at hmul'
  constructor
  · intro heq
    rw [heq] at hmul
    have hpasses : (100 : ℚ) * (total - failing : Nat) = 100 * clean := hmul.symm.trans hmul'
    have hcast : ((total - failing : Nat) : ℚ) = clean := by grind
    have hnat : total - failing = clean := Nat.cast_injective hcast
    omega
  · intro hsum
    have hpasses : total - failing = clean := by omega
    have hfails : total - clean = failing := by omega
    rw [hpasses, hfails]

/-! ## Headers without an exception -/

/-- The headers of which no incident names the identifier. -/
def cleanHeaders (incidents : List Incident) (headers : List Record) : List Record :=
  headers.filter fun header =>
    !(Scoring.namedInvoices incidents).any fun id => id.sameIdentity (header.get "invoice_id")

namespace Service

/-- Every header has an identifier of its own, and a buyer or a line that names an invoice
names that of a header. -/
structure DatasetBody.HasOwnIds (body : DatasetBody) : Prop where
  filled : ∀ header ∈ body.headers, (header.get "invoice_id").isFilled
  distinct : body.headers.Pairwise fun header other =>
    (header.get "invoice_id").sameIdentity (other.get "invoice_id") = false
  owned : ∀ r ∈ body.buyers ++ body.lines, (r.get "invoice_id").isFilled →
    ∃ header ∈ body.headers,
      (header.get "invoice_id").sameIdentity (r.get "invoice_id")

section OwnIds

variable {body : DatasetBody} {data : Dataset} {incidents : List Incident}

/-- An identifier that the records name is that of a header. -/
theorem DatasetBody.HasOwnIds.exists_header (hbody : body.HasOwnIds)
    (hdata : body.dataset = .ok data) {id : Value} (hid : id.isIdentifier)
    (hfilled : id.isFilled) (hnames : data.Names id) :
    ∃ header ∈ body.headers, (header.get "invoice_id").keyOf = id.keyOf := by
  obtain ⟨hbuyers, hheaders, hlines⟩ := Dataset.records_of_ofRecords hdata
  have hheaderIds := (Dataset.headers_of_ofRecords hdata).2
  obtain ⟨kind, r, hr, rfl⟩ := hnames hfilled
  have howned (hmem : r ∈ body.buyers ++ body.lines) :
      ∃ header ∈ body.headers,
        (header.get "invoice_id").keyOf = (r.get "invoice_id").keyOf := by
    obtain ⟨header, hheader, hsame⟩ := hbody.owned r hmem hfilled
    exact ⟨header, hheader, (Value.keyOf_eq_iff (hheaderIds header hheader) hid).2 hsame⟩
  cases kind with
  | buyers => exact howned (List.mem_append_left _ (hbuyers ▸ hr))
  | headers => exact ⟨r, hheaders ▸ hr, rfl⟩
  | lines => exact howned (List.mem_append_right _ (hlines ▸ hr))

/-- Headers with identifiers of their own have keys of their own. -/
theorem DatasetBody.HasOwnIds.nodup_keys (hbody : body.HasOwnIds)
    (hdata : body.dataset = .ok data) :
    (body.headers.map fun header => (header.get "invoice_id").keyOf).Nodup := by
  have hids := (Dataset.headers_of_ofRecords hdata).2
  rw [List.Nodup, List.pairwise_map]
  refine hbody.distinct.imp_of_mem fun {header other} hheader hother hdistinct hkey => ?_
  rw [(Value.keyOf_eq_iff (hids header hheader) (hids other hother)).1 hkey] at hdistinct
  cases hdistinct

/-- Where every header has an identifier of its own, as many invoices fail as there are
headers that an incident names: their keys are the keys that are counted. -/
theorem clean_add_failing (hbody : body.HasOwnIds) (hdata : body.dataset = .ok data)
    (hnames : ∀ incident ∈ incidents, data.Names incident.invoiceId) {failing : Nat}
    (hfailing : Scoring.failingInvoices incidents = .ok failing) :
    (cleanHeaders incidents body.headers).length + failing = body.headers.length := by
  obtain ⟨hids, rfl⟩ := (Scoring.failingInvoices_eq_ok_iff incidents failing).1 hfailing
  have hheaderIds := (Dataset.headers_of_ofRecords hdata).2
  let keyOf (header : Record) : Key := (header.get "invoice_id").keyOf
  let isNamed (header : Record) : Bool :=
    (Scoring.namedInvoices incidents).any fun id => id.sameIdentity (header.get "invoice_id")
  have hnamed : ∀ header ∈ body.headers, isNamed header ↔
      keyOf header ∈ (Scoring.namedInvoices incidents).map Value.keyOf := by
    intro header hheader
    rw [List.any_eq_true, List.mem_map]
    refine exists_congr fun id => and_congr_right fun hid => ?_
    exact (Value.keyOf_eq_iff (hids id hid) (hheaderIds header hheader)).symm
  have hkeys : ((body.headers.filter isNamed).map keyOf).toFinset =
      ((Scoring.namedInvoices incidents).map Value.keyOf).toFinset := by
    ext key
    rw [List.mem_toFinset, List.mem_toFinset]
    constructor
    · intro hkey
      obtain ⟨header, hheader, rfl⟩ := List.mem_map.1 hkey
      obtain ⟨hmem, hpasses⟩ := List.mem_filter.1 hheader
      exact (hnamed header hmem).1 hpasses
    · intro hkey
      obtain ⟨id, hid, rfl⟩ := List.mem_map.1 hkey
      obtain ⟨hmem, hfilled⟩ := List.mem_filter.1 hid
      obtain ⟨incident, hincident, rfl⟩ := List.mem_map.1 hmem
      obtain ⟨header, hheader, hsame⟩ :=
        hbody.exists_header hdata (hids _ hid) hfilled (hnames incident hincident)
      refine List.mem_map.2 ⟨header, List.mem_filter.2 ⟨hheader, ?_⟩, hsame⟩
      rw [hnamed header hheader, show keyOf header = _ from hsame]
      exact List.mem_map_of_mem hid
  have hnodup : ((body.headers.filter isNamed).map keyOf).Nodup :=
    (hbody.nodup_keys hdata).sublist ((List.filter_sublist).map keyOf)
  rw [← hkeys, List.toFinset_card_of_nodup hnodup, List.length_map, Nat.add_comm]
  exact (List.length_eq_length_filter_add isNamed).symm

end OwnIds

/-! ## Runs -/

variable {request : RunRequest} {report : RunReport}

/-- What findings and cases name is what the incidents name that they become. -/
theorem names_ofRun {data : Dataset} {findings : List Finding} {cases : List Pint.Case}
    {outcomes : List Baseline.Outcome} (hfindings : NamesAll data findings)
    (hcases : ∀ c ∈ cases, c.Names data)
    (houtcomes : ∀ outcome ∈ outcomes, NamesAll data outcome.findings) :
    ∀ incident ∈ Incident.ofRun findings cases outcomes, data.Names incident.invoiceId := by
  intro incident hincident
  rcases List.mem_append.1 hincident with hincident | hincident
  · rcases List.mem_append.1 hincident with hincident | hincident
    · obtain ⟨f, hf, rfl⟩ := List.mem_map.1 hincident
      exact hfindings f hf
    · obtain ⟨c, hc, rfl⟩ := List.mem_map.1 hincident
      exact hcases c hc
  · obtain ⟨outcome, houtcome, hincident⟩ := List.mem_flatMap.1 hincident
    obtain ⟨f, hf, rfl⟩ := List.mem_map.1 hincident
    exact houtcomes outcome houtcome f hf

/-- The incidents of a run name invoices of the records, and are summed up over the
headers. -/
theorem of_run_eq_ok (h : run request = .ok report) :
    ∃ data, request.dataset.dataset = .ok data ∧
      (∀ incident ∈ report.incidents, data.Names incident.invoiceId) ∧
      Scoring.summary report.incidents (.ofNat request.dataset.headers.length) =
        .ok report.summary := by
  obtain ⟨data, hreport⟩ := RunReport.exists_isOf h
  obtain ⟨-, hheaders, -⟩ := Dataset.records_of_ofRecords hreport.dataset
  refine ⟨data, hreport.dataset, names_ofRun ?_ ?_ ?_, hheaders ▸ hreport.summary⟩
  · obtain ⟨checks, found, misaligned, -, hfound, hmisaligned, hfindings⟩ := hreport.findings
    rw [hfindings]
    exact List.forall_mem_append.2 ⟨Custom.runAll_names checks data hfound,
      Direction.misaligned_names _ _ data hmisaligned⟩
  · have hcases := hreport.cases
    split at hcases
    · exact Pint.runAll_names _ (Dataset.isIndexed_of_ofRecords hreport.dataset) hcases
    · rw [← Except.ok.inj hcases]
      exact nofun
  · rw [hreport.outcomes]
    split
    · exact Baseline.runAll_names data
    · exact nofun

theorem of_summary_eq_ok {incidents : List Incident} {total : Nat} {summary : Scoring.Summary}
    (h : Scoring.summary incidents (.ofNat total) = .ok summary) :
    ∃ failing rate, Scoring.failingInvoices incidents = .ok failing ∧
      Scoring.passRate (.whole total) failing = .ok rate ∧
      summary.passRate = rate.roundPlaces 2 :=
  (Scoring.Summary.isOf_of_summary_eq_ok h).passRate

/-- **The pass rate of a run.** It is computed of the number of headers and the number of
identifiers that incidents name. As long as these are no more than the headers, it is a
percentage, and it is the share of headers of which no incident names the identifier if and
only if these headers and the identifiers add up to all. They do if every header has an
identifier of its own and no other record names an invoice that is not there. -/
theorem run_passRate (h : run request = .ok report) :
    let total := request.dataset.headers.length
    let clean := (cleanHeaders report.incidents request.dataset.headers).length
    ∃ failing rate, Scoring.failingInvoices report.incidents = .ok failing ∧
      Scoring.passRate (.whole total) failing = .ok rate ∧
      report.summary.passRate = rate.roundPlaces 2 ∧
      (total = 0 → rate = .float .hundred) ∧
      (failing ≤ total → IsRateOf (total - failing) failing rate ∧
        report.summary.passRate.IsPercentage ∧
        (exactRate (total - failing) failing = exactRate clean (total - clean) ↔
          clean + failing = total)) ∧
      (request.dataset.HasOwnIds → clean + failing = total) := by
  intro total clean
  obtain ⟨data, hdata, hnames, hsummary⟩ := of_run_eq_ok h
  obtain ⟨failing, rate, hfailing, hrate, hrounded⟩ := of_summary_eq_ok hsummary
  refine ⟨failing, rate, hfailing, hrate, hrounded, fun hnone => ?_, fun hle => ?_, fun hown => ?_⟩
  · have hzero : Scoring.passRate (.whole (0 : Nat)) failing = .ok rate := hnone ▸ hrate
    exact (Except.ok.inj hzero).symm
  · rw [Scoring.passRate_eq_ok hle] at hrate
    obtain rfl := (Except.ok.inj hrate).symm
    refine ⟨?_, ?_, ?_⟩
    · have hof := isRateOf_percent (total - failing) failing
      rwa [Nat.sub_add_cancel hle] at hof
    · rw [hrounded]
      exact Binary64.roundPlaces_percent (Nat.sub_le total failing)
    · exact exactRate_eq_iff hle (List.length_filter_le _ _)
  · exact clean_add_failing hown hdata hnames hfailing

/-- A request to run one check that finds that every line lacks a cell. -/
def requestOfLines (headers lines : List Record) : RunRequest where
  dataset := ⟨[], headers, lines⟩
  customChecks := [⟨[("name", .text "SKU"), ("rule_type", .text "missing"),
    ("dataset_scope", .text "lines"), ("parameters", .object [("field", .text "sku")])]⟩]
  withBaseline := false
  withPack := false
  direction := none
  ownNumbers := []

/-- A header or a line of an invoice. -/
def ofInvoice (id : String) : Record := ⟨[("invoice_id", .text id)]⟩

/-- One of two invoices has a line to report: half of them pass. -/
theorem run_passRate_half :
    let headers := [ofInvoice "A", ofInvoice "B"]
    ∃ report, run (requestOfLines headers [ofInvoice "A"]) = .ok report ∧
      (cleanHeaders report.incidents headers).length = 1 ∧
      ∃ rate, IsRateOf 1 1 rate ∧ report.summary.passRate = rate.roundPlaces 2 ∧
        report.summary.passRate.IsPercentage := by
  intro headers
  have hclean : (run (requestOfLines headers [ofInvoice "A"])).toOption.map (fun report =>
      (cleanHeaders report.incidents headers).length) = some 1 := by decide +kernel
  cases hrun : run (requestOfLines headers [ofInvoice "A"]) with
  | error refusal =>
      rw [hrun] at hclean
      cases hclean
  | ok report =>
      rw [hrun] at hclean
      have hclean : (cleanHeaders report.incidents headers).length = 1 := Option.some.inj hclean
      have hown : (requestOfLines headers [ofInvoice "A"]).dataset.HasOwnIds :=
        ⟨by decide +kernel, by decide +kernel, by decide +kernel⟩
      obtain ⟨failing, rate, -, -, hrounded, -, hrate, hsum⟩ := run_passRate hrun
      have hfailing : failing = 1 := by
        have hboth : (cleanHeaders report.incidents headers).length + failing = 2 := hsum hown
        omega
      obtain ⟨hof, hpercentage, -⟩ := hrate (by rw [hfailing]; decide)
      rw [hfailing] at hof
      exact ⟨report, rfl, hclean, rate, hof, hrounded, hpercentage⟩

/-- Lines of two invoices that are not there leave a single header, of which no incident
names the identifier, with a pass rate of less than nothing. -/
theorem run_passRate_negative :
    (run (requestOfLines [ofInvoice "A"] [ofInvoice "X", ofInvoice "Y"])).toOption.map
        (fun report => ((cleanHeaders report.incidents [ofInvoice "A"]).length,
          report.summary.passRate)) =
      some (1, .float (Binary64.ofInt (-100))) := by
  decide +kernel

end Service

end InvoiceReadiness
