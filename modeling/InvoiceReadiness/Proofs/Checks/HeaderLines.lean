import InvoiceReadiness.Baseline.Run
import InvoiceReadiness.Pint.LineProcedures
import InvoiceReadiness.Proofs.Dataset.Collecting
import InvoiceReadiness.Proofs.Dataset.Joins

/-!
# Headers and their lines

Five checks decide about a header by its lines. The lines are looked up by the identifier
of the header, and the header of a line by the identifier of the line. Of a line that
names an invoice the two lookups say the same. A line that names none has no header; but
the lookup of lines makes no such exception, and a header that names no invoice either
has all those lines.

## Main results

* `Dataset.mem_linesFor_iff`, `Dataset.exists_headerFor_iff` — which lines a header has,
  and which headers a line has.
* `decideAlike` — the five checks see the lines of the headers and nothing else of the
  lines.
* `Dataset.lines_of_headers` — lines that name no invoice are lines of the headers that
  name none, and have no effect on the decisions about other headers.
-/

namespace InvoiceReadiness

namespace Dataset

variable {buyers headers lines : List Record} {data : Dataset} {header line : Record}

/-! ## The two lookups -/

/-- A header has the lines with its identifier, whatever that is. -/
theorem mem_linesFor_iff (hdata : ofRecords buyers headers lines = .ok data)
    (hheader : header ∈ headers) (hline : line ∈ lines) :
    ∃ found, data.linesFor (header.get "invoice_id") = .ok found ∧
      (line ∈ found ↔ line.sameInvoice header) := by
  have hid := (identifies_of_ofRecords hdata).2.1 header hheader
  refine ⟨_, linesFor_of_ofRecords hdata hid, ?_⟩
  rw [withId, List.mem_filter]
  exact and_iff_right hline

/-- A line has a header with the identifier of a given one if it has that identifier
itself, and names an invoice by it. -/
theorem exists_headerFor_iff (hdata : ofRecords buyers headers lines = .ok data)
    (hheader : header ∈ headers) (hline : line ∈ lines) :
    ∃ target, data.headerFor line = .ok target ∧
      ((∃ h ∈ target, h.sameInvoice header) ↔ line.namesInvoice ∧ line.sameInvoice header) := by
  obtain ⟨-, hheaders, hlines⟩ := identifies_of_ofRecords hdata
  have hid := hlines line hline
  have hheaderid := hheaders header hheader
  refine ⟨_, headerFor_of_ofRecords hdata hid, ?_⟩
  cases hnames : line.namesInvoice with
  | false => simp
  | true =>
      simp only [if_true, true_and]
      constructor
      · rintro ⟨target, htarget, hsame⟩
        obtain ⟨hmem, hfound⟩ := of_getLast?_withId htarget
        exact (Record.sameInvoice_congr (hheaders target hmem) hid hheaderid hfound).1 hsame
      · intro hsame
        obtain ⟨target, htarget⟩ := exists_getLast?_withId hheader
          ((Record.sameInvoice_comm hid hheaderid).1 hsame)
        obtain ⟨hmem, hfound⟩ := of_getLast?_withId htarget
        exact ⟨target, htarget,
          (Record.sameInvoice_congr (hheaders target hmem) hid hheaderid hfound).2 hsame⟩

/-! ## Without the lines that name no invoice -/

/-- Some of the lines can be left out of a dataset. -/
theorem exists_ofRecords_filter (hdata : ofRecords buyers headers lines = .ok data)
    (keep : Record → Bool) :
    ∃ kept, ofRecords buyers headers (lines.filter keep) = .ok kept := by
  obtain ⟨buyerIndex, hbuyers, hdata⟩ := Result.bind_eq_ok.1 hdata
  obtain ⟨headerIndex, hheaders, hdata⟩ := Result.bind_eq_ok.1 hdata
  obtain ⟨lineGroups, hgroups, -⟩ := Result.bind_eq_ok.1 hdata
  have hids : Identifies "invoice_id" (lines.filter keep) := fun line hline =>
    ((groupBy_eq_ok_iff lineGroups).1 hgroups).1 line (List.mem_of_mem_filter hline)
  rw [ofRecords, hbuyers, Result.ok_bind, hheaders, Result.ok_bind,
    (groupBy_eq_ok_iff _).2 ⟨hids, rfl⟩]
  exact ⟨_, rfl⟩

/-- A header that names an invoice keeps its lines. -/
theorem withId_filter_namesInvoice (hnames : header.namesInvoice) (lines : List Record) :
    withId "invoice_id" (header.get "invoice_id") (lines.filter Record.namesInvoice) =
      withId "invoice_id" (header.get "invoice_id") lines := by
  rw [withId, withId, List.filter_filter]
  refine List.filter_congr fun line _ => ?_
  cases hsame : line.sameInvoice header with
  | false => exact (congrArg (· && _) hsame).trans (Bool.false_and _) |>.trans hsame.symm
  | true =>
      have hline : line.namesInvoice := by
        rwa [Record.namesInvoice_eq_of_sameInvoice hsame]
      exact (congrArg (_ && ·) hline).trans (Bool.and_true _)

end Dataset

/-! ## Decisions that rest on the lines of a header -/

/-- The checks that decide about a header by its lines decide alike on two datasets:
on the sums of the lines, on whether there are any, on what is taxed, and on the rates. -/
structure DecideAlike (data data' : Dataset) : Prop where
  netSum : ∀ check parameters,
    Pint.lineNetSum ⟨check, parameters, data⟩ = Pint.lineNetSum ⟨check, parameters, data'⟩
  vatSum : ∀ check parameters,
    Pint.lineVatSum ⟨check, parameters, data⟩ = Pint.lineVatSum ⟨check, parameters, data'⟩
  presence : ∀ check parameters,
    Pint.hasLines ⟨check, parameters, data⟩ = Pint.hasLines ⟨check, parameters, data'⟩
  taxBreakdown : ∀ check parameters,
    Pint.taxBreakdown ⟨check, parameters, data⟩ = Pint.taxBreakdown ⟨check, parameters, data'⟩
  vatRates : Baseline.mixedVatRates data = Baseline.mixedVatRates data'

section

variable {data data' : Dataset}

theorem sumOfLines_eq {header : Record} {column : String}
    (hlines : data.linesFor (header.get "invoice_id") =
      data'.linesFor (header.get "invoice_id")) :
    Pint.sumOfLines data header column = Pint.sumOfLines data' header column := by
  rw [Pint.sumOfLines, Pint.sumOfLines, hlines]

/-- Headers with the same lines are decided about alike. -/
theorem decideAlike (hheaders : data'.headers = data.headers)
    (hlines : ∀ header ∈ data.headers,
      data.linesFor (header.get "invoice_id") = data'.linesFor (header.get "invoice_id")) :
    DecideAlike data data' where
  netSum check parameters := by
    unfold Pint.lineNetSum
    refine congrArg _ (funext fun tolerance => ?_)
    simp only [hheaders]
    refine collect_congr fun header hheader => ?_
    rw [sumOfLines_eq (hlines header hheader)]
    rfl
  vatSum check parameters := by
    unfold Pint.lineVatSum
    refine congrArg _ (funext fun tolerance => ?_)
    simp only [hheaders]
    refine collect_congr fun header hheader => ?_
    rw [sumOfLines_eq (hlines header hheader)]
    rfl
  presence check parameters := by
    unfold Pint.hasLines
    simp only [hheaders]
    refine collect_congr fun header hheader => ?_
    rw [hlines header hheader]
    rfl
  taxBreakdown check parameters := by
    unfold Pint.taxBreakdown
    simp only [hheaders]
    refine collect_congr fun header hheader => ?_
    rw [hlines header hheader]
    rfl
  vatRates := by
    unfold Baseline.mixedVatRates
    rw [hheaders]
    refine collect_congr fun header hheader => ?_
    rw [hlines header hheader]

end

namespace Dataset

variable {buyers headers lines : List Record} {data : Dataset}

/-- A header and a line find each other if they have one identifier of an invoice, except
that a line that names no invoice finds no header. So the two lookups differ for headers
and lines that name no invoice in the same way, and only there. The decisions about any
headers that name an invoice are those without all the lines that name none. -/
theorem lines_of_headers (hdata : ofRecords buyers headers lines = .ok data) :
    (∀ header ∈ headers, ∀ line ∈ lines, ∃ found target,
      data.linesFor (header.get "invoice_id") = .ok found ∧ data.headerFor line = .ok target ∧
      (line ∈ found ↔ line.sameInvoice header) ∧
      ((∃ h ∈ target, h.sameInvoice header) ↔ line.namesInvoice ∧ line.sameInvoice header) ∧
      ((line ∈ found ↔ ∃ h ∈ target, h.sameInvoice header) ↔
        line.namesInvoice ∨ ¬line.sameInvoice header)) ∧
    ∃ named, ofRecords buyers headers (lines.filter Record.namesInvoice) = .ok named ∧
      ∀ chosen ⊆ headers, (∀ header ∈ chosen, header.namesInvoice) →
        DecideAlike { data with headers := chosen } { named with headers := chosen } := by
  refine ⟨fun header hheader line hline => ?_, ?_⟩
  · obtain ⟨found, hfound, hlineiff⟩ := mem_linesFor_iff hdata hheader hline
    obtain ⟨target, htarget, hheaderiff⟩ := exists_headerFor_iff hdata hheader hline
    refine ⟨found, target, hfound, htarget, hlineiff, hheaderiff, ?_⟩
    rw [hlineiff, hheaderiff]
    tauto
  · obtain ⟨named, hnamed⟩ := exists_ofRecords_filter hdata Record.namesInvoice
    refine ⟨named, hnamed, fun chosen hchosen hnames => decideAlike rfl fun header hheader => ?_⟩
    have hid := (identifies_of_ofRecords hdata).2.1 header (hchosen hheader)
    show data.linesFor _ = named.linesFor _
    rw [linesFor_of_ofRecords hdata hid, linesFor_of_ofRecords hnamed hid,
      withId_filter_namesInvoice (hnames header hheader)]

/-- A line without an identifier is a line of the header without one, which is not its
header; it has no effect on what is decided about the other header. -/
theorem lines_of_headers_mixed :
    let named : Record := ⟨[("invoice_id", .text "I1"), ("total_excl_vat", .ofInt 5)]⟩
    let unnamed : Record := ⟨[("total_excl_vat", .ofInt 7)]⟩
    let line : Record := ⟨[("invoice_id", .text "I1"), ("line_total_excl_vat", .ofInt 5)]⟩
    let stray : Record := ⟨[("line_total_excl_vat", .ofInt 7)]⟩
    ∃ data, ofRecords [] [named, unnamed] [line, stray] = .ok data ∧
      (∃ found target, data.linesFor .null = .ok found ∧ data.headerFor stray = .ok target ∧
        stray ∈ found ∧ ¬∃ h ∈ target, h.sameInvoice unnamed) ∧
      ∃ data', ofRecords [] [named, unnamed] [line] = .ok data' ∧
        DecideAlike { data with headers := [named] } { data' with headers := [named] } := by
  intro named unnamed line stray
  have hdata : ∃ data, ofRecords [] [named, unnamed] [line, stray] = .ok data := ⟨_, rfl⟩
  obtain ⟨data, hdata⟩ := hdata
  obtain ⟨hjoins, data', hdata', halike⟩ := lines_of_headers hdata
  obtain ⟨found, target, hfound, htarget, hline, hheader, -⟩ :=
    hjoins unnamed (by simp) stray (by simp)
  have hsame : stray.sameInvoice unnamed := by decide
  have hstray : ¬stray.namesInvoice := by decide
  refine ⟨data, hdata, ⟨found, target, hfound, htarget, hline.2 hsame, ?_⟩, data', hdata', ?_⟩
  · rw [hheader]
    exact fun h => hstray h.1
  · have hnamed : named.namesInvoice := by decide
    exact halike [named] (by simp) (by simpa using hnamed)

/-- The lookups are not symmetric: a header and a line that name no invoice are enough.
The line counts as one of the header, so no line of the header is missed. -/
theorem lines_of_headers_unnamed :
    let header : Record := ⟨[("invoice_number", .text "N1")]⟩
    let line : Record := ⟨[("line_id", .text "L1")]⟩
    ∃ data, ofRecords [] [header] [line] = .ok data ∧
      (¬∀ h ∈ data.headers, ∀ l ∈ data.lines,
        (∃ found, data.linesFor (h.get "invoice_id") = .ok found ∧ l ∈ found) ↔
          ∃ target, data.headerFor l = .ok (some target) ∧ target.sameInvoice h) ∧
      ∀ check parameters, Pint.hasLines ⟨check, parameters, data⟩ = .ok [] := by
  intro header line
  refine ⟨_, rfl, fun hsymmetric => ?_, fun check parameters => rfl⟩
  obtain ⟨target, htarget, -⟩ :=
    (hsymmetric header (by simp) line (by simp)).1 ⟨[line], rfl, by simp⟩
  have hnone : (.ok none : Result (Option Record)) = .ok (some target) := htarget
  cases hnone

end Dataset

end InvoiceReadiness
