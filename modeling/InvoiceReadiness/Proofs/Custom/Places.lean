import InvoiceReadiness.Proofs.Custom.Findings

/-!
# Which header the coordinates of a finding are from

A custom check on headers reports a header with the number, the seller and the buyer of
its invoice. These are looked up by the identifier of the invoice, so where headers share
one they are those of the last of them; the cells of the reported header count only where
that one has no values.

## Main results

* `SpeaksFor` — the header whose cells come first in the coordinates of another.
* `Dataset.coordinates_of_header` — the coordinates of a header.
* `Custom.Check.run_places` — the coordinates of what a check reports.
-/

namespace InvoiceReadiness

/-- A header is the last of those with the identifier of another header. -/
def IsLastOfInvoice (headers : List Record) (r header : Record) : Prop :=
  header.sameInvoice r ∧ ∃ before after, headers = before ++ header :: after ∧
    ∀ later ∈ after, later.sameInvoice r = false

/-- The header whose cells come first in the coordinates of a header: the last one with
its identifier, or the header itself if that identifier is not given. -/
inductive SpeaksFor (headers : List Record) (r : Record) : Record → Prop where
  | itself (hunnamed : r.namesInvoice = false) : SpeaksFor headers r r
  | last {header : Record} (hnames : r.namesInvoice)
      (hlast : IsLastOfInvoice headers r header) : SpeaksFor headers r header

/-- The coordinates of a record: the values of a header where it has them, and those of
the record itself where it does not. -/
structure Coordinates.AreOf (place : Coordinates) (header r : Record) : Prop where
  invoiceId : place.invoiceId = r.get "invoice_id"
  invoiceNumber : place.invoiceNumber =
    (header.get "invoice_number").orElse (r.get "invoice_number")
  sellerTrn : place.sellerTrn = (header.get "seller_trn").orElse (r.get "seller_trn")
  buyerId : place.buyerId = (header.get "buyer_id").orElse (r.get "buyer_id")
  lineId : place.lineId = r.get "line_id"
  lineNumber : place.lineNumber = r.get "line_number"

/-- The coordinates of a record by its own cells. -/
def Coordinates.ofRecord (r : Record) : Coordinates :=
  { Coordinates.ofHeader r with
    lineId := r.get "line_id"
    lineNumber := r.get "line_number" }

@[simp] theorem Value.orElse_self (v : Value) : v.orElse v = v := ite_self v

@[simp] theorem Record.get_empty (name : String) : Record.empty.get name = .null := rfl

@[simp] theorem Value.null_orElse (v : Value) : Value.null.orElse v = v := rfl

theorem Coordinates.AreOf.eq_ofRecord {place : Coordinates} {r : Record}
    (h : place.AreOf r r) : place = ofRecord r := by
  have hcell {v w : Value} (hv : v = w.orElse w) : v = w := hv.trans w.orElse_self
  cases place
  exact mk.injEq .. ▸ ⟨h.invoiceId, hcell h.invoiceNumber, hcell h.sellerTrn, hcell h.buyerId,
    h.lineId, h.lineNumber⟩

/-- There is one last header of an invoice. -/
theorem IsLastOfInvoice.unique {headers : List Record} {r header header' : Record}
    (h : IsLastOfInvoice headers r header) (h' : IsLastOfInvoice headers r header') :
    header = header' := by
  have hlast := Dataset.getLast?_withId_eq_some_iff.2 h
  rw [Dataset.getLast?_withId_eq_some_iff.2 h'] at hlast
  exact (Option.some.inj hlast).symm

/-- A header that names no invoice and the last header of an invoice speak for themselves. -/
theorem SpeaksFor.eq_of_own {headers : List Record} {r header : Record}
    (h : SpeaksFor headers r header)
    (hown : r.namesInvoice = false ∨ IsLastOfInvoice headers r r) : header = r := by
  cases h with
  | itself _ => rfl
  | last hnames hheader =>
      rcases hown with hunnamed | hlast
      · rw [hnames] at hunnamed
        contradiction
      · exact hheader.unique hlast

/-- The coordinates of a header are those of the last header of its invoice, and its own
where that one has no values. -/
theorem Dataset.coordinates_of_header {buyers headers lines : List Record} {data : Dataset}
    (hdata : ofRecords buyers headers lines = .ok data) {r : Record} (hr : r ∈ headers)
    {place : Coordinates} (hplace : data.coordinates r = .ok place) :
    ∃ header, SpeaksFor headers r header ∧ place.AreOf header r := by
  have hid := (identifies_of_ofRecords hdata).2.1 r hr
  rw [coordinates, headerFor_of_ofRecords hdata hid, Result.ok_bind] at hplace
  cases hnames : r.namesInvoice with
  | false =>
      simp only [hnames, Bool.false_eq_true, if_false, Option.getD_none] at hplace
      cases hplace
      exact ⟨r, .itself hnames, by constructor <;> simp⟩
  | true =>
      have hself : r.sameInvoice r := (Record.sameInvoice_iff_keyOf hid hid).2 rfl
      obtain ⟨header, hlast⟩ := exists_getLast?_withId hr hself
      simp only [hnames, if_true, hlast, Option.getD_some] at hplace
      cases hplace
      exact ⟨header, .last hnames (getLast?_withId_eq_some_iff.1 hlast), rfl, rfl, rfl, rfl, rfl,
        rfl⟩

namespace Custom.Check

variable {buyers headers lines : List Record} {data : Dataset} {check : Check}
  {found : List Finding} {r : Record} {f : Finding}

/-- A finding about a header, with the coordinates of the header that speaks for it. -/
structure ReportsAt (check : Check) (data : Dataset) (r : Record) (f : Finding) : Prop where
  reports : check.ReportsOn data r f
  speaker : ∃ header, SpeaksFor data.headers r header ∧ f.place.AreOf header r
  /-- They are its own if it names no invoice, or if it is the last header of its invoice. -/
  own : r.namesInvoice = false ∨ IsLastOfInvoice data.headers r r →
    f.place = Coordinates.ofRecord r

theorem ReportsOn.reportsAt (hdata : Dataset.ofRecords buyers headers lines = .ok data)
    (hr : r ∈ headers) (hreports : check.ReportsOn data r f) : check.ReportsAt data r f := by
  obtain ⟨header, hspeaks, hare⟩ := Dataset.coordinates_of_header hdata hr hreports.coordinates
  rw [← (Dataset.records_of_ofRecords hdata).2.1] at hspeaks
  refine ⟨hreports, ⟨header, hspeaks, hare⟩, fun hown => ?_⟩
  obtain rfl := hspeaks.eq_of_own hown
  exact hare.eq_ofRecord

theorem Flags.mem_headers (hdata : Dataset.ofRecords buyers headers lines = .ok data)
    (hscope : check.scope = .header ∨ check.scope = .crossFile) (hflags : check.Flags data r) :
    r ∈ headers := by
  have hmem : r ∈ data.records check.scope.kind := hflags.looksAt.1
  rw [← (Dataset.records_of_ofRecords hdata).2.1]
  rcases hscope with hscope | hscope <;> rwa [hscope] at hmem

/-- What a check on headers reports about a header has the identifier of that header. Its
number, seller and buyer are those of the last header with this identifier where that one
has values, and otherwise those of the reported header itself; so they are its own if it
is the last one or names no invoice. This holds of all findings, and there is such a
finding about every header that the check flags. -/
theorem run_places (hdata : Dataset.ofRecords buyers headers lines = .ok data)
    (hscope : check.scope = .header ∨ check.scope = .crossFile)
    (hrun : check.run data = .ok found) :
    (∀ f ∈ found, ∃ r ∈ headers, check.Flags data r ∧ check.ReportsAt data r f) ∧
      ∀ r, check.Flags data r → ∃ f ∈ found, check.ReportsAt data r f := by
  refine ⟨fun f hf => ?_, fun r hflags => ?_⟩
  · obtain ⟨r, hflags, hreport⟩ := check.run_sound data hrun f hf
    have hr := hflags.mem_headers hdata hscope
    exact ⟨r, hr, hflags, hreport.reportsAt hdata hr⟩
  · obtain ⟨f, hf, hreport⟩ := check.run_complete hrun hflags
    exact ⟨f, hf, hreport.reportsAt hdata (hflags.mem_headers hdata hscope)⟩

/-- A check for headers without a buyer. -/
def buyerRule : Check where
  id := .null
  name := .text "Buyer"
  description := .text ""
  scope := .header
  rule := .missing (.text "buyer_id")
  severity := .text "High"
  template := .text ""
  condition := .null
  isActive := true

/-- The header of an invoice, with its number. -/
def numberedHeader (number : String) (more : Members) : Record :=
  ⟨("invoice_id", .text "I1") :: ("invoice_number", .text number) :: more⟩

/-- The first of two headers of an invoice has no buyer. It is reported with the number of
the second one, and with its own seller, since the second one names none. -/
theorem run_places_repeated :
    let first := numberedHeader "N1" [("seller_trn", .text "S1")]
    let second := numberedHeader "N2" [("buyer_id", .text "B2")]
    ∃ data f, Dataset.ofRecords [] [first, second] [] = .ok data ∧
      buyerRule.run data = .ok [f] ∧ f.place.invoiceNumber = .text "N2" ∧
      f.place.sellerTrn = .text "S1" ∧
      ∃ r ∈ [first, second], buyerRule.Flags data r ∧ buyerRule.ReportsAt data r f := by
  intro first second
  obtain ⟨data, f, hdata, hrun, hnumber, hseller⟩ : ∃ data f,
      Dataset.ofRecords [] [first, second] [] = .ok data ∧ buyerRule.run data = .ok [f] ∧
        f.place.invoiceNumber = .text "N2" ∧ f.place.sellerTrn = .text "S1" :=
    ⟨_, _, rfl, rfl, rfl, rfl⟩
  refine ⟨data, f, hdata, hrun, hnumber, hseller, ?_⟩
  exact (run_places hdata (.inl rfl) hrun).1 f (List.mem_singleton_self f)

/-- So the number is not that of the header that the check flags, although this one has a
number. -/
theorem run_misplaces :
    let first := numberedHeader "N1" []
    let second := numberedHeader "N2" [("buyer_id", .text "B2")]
    ∃ data found, Dataset.ofRecords [] [first, second] [] = .ok data ∧
      buyerRule.run data = .ok found ∧
      ¬∀ f ∈ found, ∃ r, buyerRule.Flags data r ∧ buyerRule.ReportsOn data r f ∧
        ((r.get "invoice_number").isFilled →
          f.place.invoiceNumber = r.get "invoice_number") := by
  intro first second
  refine ⟨_, _, rfl, rfl, fun hplaced => ?_⟩
  obtain ⟨r, hflags, -, hnumber⟩ := hplaced _ (List.mem_singleton_self _)
  have hr : r ∈ [first, second] := hflags.looksAt.1
  rcases List.mem_pair.1 hr with rfl | rfl
  · have hnumbers : Value.text "N2" = .text "N1" := hnumber rfl
    simp at hnumbers
  · obtain ⟨-, records, -, -, hflags⟩ := hflags
    cases hflags with
    | missing hv hblank =>
        cases hv
        cases hblank

end Custom.Check

end InvoiceReadiness
