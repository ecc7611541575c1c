import InvoiceReadiness.Proofs.Checks.Findings
import InvoiceReadiness.Proofs.Pint.Ordinary
import InvoiceReadiness.Proofs.Pint.Places

/-!
# The type of a credit note

Three checks look at the type of an invoice. A baseline check lets a line have a negative
total if the type of its header is the text `CREDIT_NOTE`, and no other. One check of the
pack asks for any type, and another one for a code of the list of document types, in which
that text is not: there a credit note is 381. So no type lets an invoice with a negative
line through all three.

## Main results

* `Pint.headerPresence_reports`, `Pint.codeInList_reports` — what two procedures of the pack
  report.
* `no_type_passes` — whatever the type is, one of the three checks does not pass.
-/

namespace InvoiceReadiness

/-! ## Records with another value in a cell -/

/-- The record with a value in a cell, whatever was there. -/
def Record.withCell (r : Record) (name : String) (v : Value) : Record := ⟨r.members.set name v⟩

@[simp] theorem Record.get_withCell_self (r : Record) (name : String) (v : Value) :
    (r.withCell name v).get name = v := Members.get_set_self r.members name v

theorem Record.get_withCell_ne (r : Record) {name other : String} (hne : other ≠ name)
    (v : Value) : (r.withCell name v).get other = r.get other :=
  Members.get_set_ne r.members hne v

/-- The header of a line stands somewhere among the headers, with none of its invoice after
it. With another value in a cell that is no identifier it still is the header of the line. -/
theorem Dataset.headerFor_withCell {buyers headers lines : List Record} {data : Dataset}
    (hdata : ofRecords buyers headers lines = .ok data) {line header : Record}
    (hline : line ∈ lines) (hheader : data.headerFor line = .ok (some header)) {cell : String}
    (hcell : "invoice_id" ≠ cell) :
    ∃ before after, headers = before ++ header :: after ∧
      (∀ later ∈ after, later.sameInvoice line = false) ∧
      ∀ v, ∃ changed, ofRecords buyers (before ++ header.withCell cell v :: after) lines =
          .ok changed ∧
        changed.headers = before ++ header.withCell cell v :: after ∧ changed.lines = lines ∧
        changed.headerFor line = .ok (some (header.withCell cell v)) := by
  obtain ⟨hbuyers, hheaders, hlines⟩ := identifies_of_ofRecords hdata
  rw [headerFor_of_ofRecords hdata (hlines line hline)] at hheader
  by_cases hnames : line.namesInvoice
  · rw [if_pos hnames] at hheader
    obtain ⟨hid, before, after, rfl, hlast⟩ :=
      getLast?_withId_eq_some_iff.1 (Except.ok.inj hheader)
    refine ⟨before, after, rfl, hlast, fun v => ?_⟩
    have hsame : (header.withCell cell v).get "invoice_id" = header.get "invoice_id" :=
      header.get_withCell_ne hcell v
    have hheaders' : Identifies "invoice_id" (before ++ header.withCell cell v :: after) := by
      simp only [Identifies, List.forall_mem_append, List.forall_mem_cons, hsame] at hheaders ⊢
      exact hheaders
    obtain ⟨changed, hchanged, -, hrecords, hlines', -⟩ :=
      ofRecords_joins buyers _ lines hbuyers hheaders' hlines
    refine ⟨changed, hchanged, hrecords, hlines', ?_⟩
    rw [headerFor_of_ofRecords hchanged (hlines line hline), if_pos hnames]
    refine congrArg Except.ok (getLast?_withId_eq_some_iff.2 ?_)
    exact ⟨hsame ▸ hid, before, after, rfl, hlast⟩
  · rw [if_neg hnames] at hheader
    cases hheader

namespace Pint

/-! ## Two procedures of the pack -/

variable {task : Task} {name : String}

/-- The procedure for presence reports the headers whose cell is vacant. -/
theorem headerPresence_reports (hname : NamesCell name) (hfilled : name ≠ "")
    (hfield : task.parameter "field" = .ok (.text name)) :
    Yields (ReportsExactly task.data.headers (fun h => (h.get name).isVacant)
      fun h c => c.observation.place = .ofHeader h) (headerPresence task) := by
  have hfilled : (Value.text name).isFilled = true := bne_iff_ne.2 hfilled
  rw [headerPresence, hfield, Result.ok_bind, hfilled, Bool.not_true,
    if_neg Bool.false_ne_true]
  refine reportsExactly_of_collect fun h _ => ?_
  rw [resolveAt_text hname, Result.ok_bind]
  simp only [Yields.bind_iff, Yields.ite_iff, Yields.pure_iff, says_none, says_some]
  intro blank hblank
  have hvacant := Value.isVacant_of_isBlank hblank
  refine ⟨fun hnot => ?_, fun hyes label _ shown _ c hc => ⟨?_, ?_⟩⟩
  · simpa [hvacant] using hnot
  · simpa [hvacant] using hyes
  · rw [observation_of_report hc]

/-- A cell is filled and holds no code of a list. -/
def holdsNoCode (list : String) (v : Value) : Bool :=
  !v.isVacant && !((isCodeIn (.text list) v).toOption.getD false)

/-- The procedure for codes reports the headers whose cell holds no code of the list. -/
theorem codeInList_reports {list : String} (hname : NamesCell name)
    (hcanonical : canonicalName name = name)
    (hkind : kindOfName name (task.check.get "scope") = .headers)
    (hfilled : name ≠ "" ∧ list ≠ "") (hfield : task.parameter "field" = .ok (.text name))
    (hlist : task.parameter "codelist" = .ok (.text list)) :
    Yields (ReportsExactly task.data.headers (fun h => holdsNoCode list (h.get name))
      fun h c => recordPlace task.data h = .ok c.observation.place) (codeInList task) := by
  have hname' : (Value.text name).isFilled = true := bne_iff_ne.2 hfilled.1
  have hlist' : (Value.text list).isFilled = true := bne_iff_ne.2 hfilled.2
  simp only [codeInList, hfield, hlist, Result.ok_bind, hname', hlist', Bool.not_true,
    Bool.false_eq_true, if_false, canonical_text, hcanonical, shown_text, kindOfField_text, hkind]
  refine reportsExactly_of_collect fun h _ => ?_
  rw [resolveAt_text hname, Result.ok_bind]
  simp only [Yields.bind_iff, Yields.ite_iff, Yields.pure_iff, says_none, says_some]
  intro blank hblank
  have hvacant := Value.isVacant_of_isBlank hblank
  refine ⟨fun hyes => ?_, fun hno isCode hisCode => ⟨fun hcode => ?_,
    fun hnocode place hplace text _ c hc => ⟨?_, ?_⟩⟩⟩
  · simp [holdsNoCode, hvacant, hyes]
  · simp [holdsNoCode, hisCode, hcode, Except.toOption]
  · simp_all [holdsNoCode, Except.toOption]
  · rw [observation_of_report hc, hplace]

/-! ## Passing a check -/

/-- A case is about a header: it stands where the header or the invoice of the header is. -/
def IsAbout (data : Dataset) (h : Record) (c : Case) : Prop :=
  c.observation.place = .ofHeader h ∨ recordPlace data h = .ok c.observation.place

/-- A check of the pack ends well and opens no case about a header. -/
def PackCheck.Passes (check : PackCheck) (data : Dataset) (h : Record) : Prop :=
  ∃ cases, runRecord check.record data = .ok cases ∧ ∀ c ∈ cases, ¬IsAbout data h c

variable {data : Dataset} {h : Record} {check : PackCheck}

/-- The check for a type passes no header without one. -/
theorem isVacant_of_passes (hcheck : check? "UAE-UC1-CHK-004" = some check)
    (hh : h ∈ data.headers) (hpasses : check.Passes data h) :
    (h.get "invoice_type").isVacant = false := by
  obtain rfl := Option.some.inj hcheck
  obtain ⟨cases, hcases, hnone⟩ := hpasses
  rw [runRecord_eq rfl] at hcases
  have hname : NamesCell "invoice_type" := by decide
  have hreports := headerPresence_reports hname (by decide) rfl hcases
  rw [Bool.eq_false_iff]
  intro hvacant
  obtain ⟨c, hc, hplace⟩ := hreports.complete h hh hvacant
  exact hnone c hc (.inl hplace)

/-- The check of the type passes headers without a type, and those whose type is a code. -/
theorem isVacant_or_code_of_passes (hcheck : check? "UAE-UC1-CHK-037" = some check)
    (hh : h ∈ data.headers) (hpasses : check.Passes data h) :
    (h.get "invoice_type").isVacant ∨
      ∃ code ∈ invoiceTypeCodes, normalizedCode (h.get "invoice_type") = .ok code := by
  obtain rfl := Option.some.inj hcheck
  obtain ⟨cases, hcases, hnone⟩ := hpasses
  rw [runRecord_eq rfl] at hcases
  have hname : NamesCell "invoice_type" := by decide
  have hreports := codeInList_reports hname rfl rfl (by decide) rfl rfl hcases
  have hcode : holdsNoCode "UNCL1001" (h.get "invoice_type") = false := by
    rw [Bool.eq_false_iff]
    intro hflagged
    obtain ⟨c, hc, hplace⟩ := hreports.complete h hh hflagged
    exact hnone c hc (.inr hplace)
  rw [holdsNoCode, Bool.and_eq_false_iff, Bool.not_eq_false', Bool.not_eq_false'] at hcode
  refine hcode.imp_right fun hcode => ?_
  cases hisCode : isCodeIn (.text "UNCL1001") (h.get "invoice_type") with
  | error fault =>
      rw [hisCode] at hcode
      cases hcode
  | ok isCode =>
      obtain rfl : isCode = true := by rwa [hisCode] at hcode
      obtain ⟨code, hnormal, hisCode⟩ := Result.bind_eq_ok.1 hisCode
      exact ⟨code, List.contains_iff_mem.1 (Except.ok.inj hisCode), hnormal⟩

end Pint

/-- Zero is to a number as the number is to zero, the other way round. -/
theorem Number.zero_compare? (x : Number) :
    zero.compare? x = (x.compare? zero).map Ordering.swap := by
  cases x with
  | whole n => exact congrArg some Std.OrientedOrd.eq_swap
  | float x => simp [zero, compare?, Option.map_map, Function.comp_def]

namespace Baseline

/-- A check ends well and has no finding about a record. -/
def Check.Passes (check : Check) (data : Dataset) (r : Record) : Prop :=
  ∃ found, check.run data = .ok found ∧ ∀ f ∈ found, ¬check.IsAbout data r f

variable {data : Dataset}

theorem Check.not_flags_of_passes {check : Check} {r : Record} (hr : r ∈ check.looksAt data)
    (hpasses : check.Passes data r) : ¬check.Flags data r := by
  obtain ⟨found, hfound, hnone⟩ := hpasses
  intro hflags
  obtain ⟨f, hf, habout⟩ := (check.run_reports data hfound).complete r hr hflags
  exact hnone f hf habout

theorem isNegative_of_lt {line : Record} {total : Number}
    (htotal : (line.get "line_total_excl_vat").toNumber? = some total)
    (hnegative : total.lt .zero) : isNegative line := by
  have hcompare : Number.zero.compare? total = some .gt := by
    rw [Number.zero_compare?, beq_iff_eq.1 hnegative]
    rfl
  rw [isNegative, htotal, Option.any_some, Number.le, hcompare]
  rfl

theorem flags_negativeTotal_iff {line header : Record} (hnegative : isNegative line)
    (hheader : data.headerFor line = .ok (some header)) :
    Check.negativeTotal.Flags data line ↔ header.get "invoice_type" ≠ .text "CREDIT_NOTE" := by
  rw [ne_eq, ← Value.same_text_iff]
  simp [Check.Flags, hnegative, lacksCreditNote, hheader, Except.toOption]

/-- The baseline check passes no line with a negative total unless its header has the type of
a credit note. -/
theorem eq_creditNote_of_passes {line header : Record} (hline : line ∈ data.lines)
    (hnegative : isNegative line) (hheader : data.headerFor line = .ok (some header))
    (hpasses : Check.negativeTotal.Passes data line) :
    header.get "invoice_type" = .text "CREDIT_NOTE" := by
  have hflags := Check.not_flags_of_passes hline hpasses
  rwa [flags_negativeTotal_iff hnegative hheader, not_not] at hflags

end Baseline

/-- The text that the baseline check asks for is no code of the list. -/
theorem creditNote_not_code : ¬∃ code ∈ Pint.invoiceTypeCodes,
    Pint.normalizedCode (.text "CREDIT_NOTE") = .ok code := by
  have hnormal : Pint.normalizedCode (.text "CREDIT_NOTE") = .ok "CREDIT_NOTE" := by
    decide +kernel
  rw [hnormal]
  rintro ⟨code, hcode, ⟨⟩⟩
  exact absurd hcode (by decide)

/-- The baseline check of a negative line and the check of the pack for the code of the type
of its header do not pass together. -/
theorem not_passes_both {data : Dataset} {line header : Record} {listed : Pint.PackCheck}
    (hlisted : Pint.check? "UAE-UC1-CHK-037" = some listed) (hline : line ∈ data.lines)
    (hnegative : Baseline.isNegative line) (hmem : header ∈ data.headers)
    (hheader : data.headerFor line = .ok (some header)) :
    ¬(Baseline.Check.negativeTotal.Passes data line ∧ listed.Passes data header) := by
  rintro ⟨hbaseline, hpack⟩
  have hcode := Pint.isVacant_or_code_of_passes hlisted hmem hpack
  rw [Baseline.eq_creditNote_of_passes hline hnegative hheader hbaseline] at hcode
  rcases hcode with hvacant | hcode
  · exact absurd hvacant (by decide)
  · exact creditNote_not_code hcode

/-- Take a line with a negative total, the header that it points at, and any value as the type
of that header, all else being as it was. The baseline check flags the line unless the type
is the text of a credit note; the check of the pack for a type does not pass the header if
it has none, and the one for its code does not if it has one that is not in the list. So the
three of them never pass together. -/
theorem no_type_passes {buyers headers lines : List Record} {data : Dataset}
    (hdata : Dataset.ofRecords buyers headers lines = .ok data) {line header : Record}
    {total : Number} (hline : line ∈ lines)
    (htotal : (line.get "line_total_excl_vat").toNumber? = some total)
    (hnegative : total.lt .zero) (hheader : data.headerFor line = .ok (some header))
    {present listed : Pint.PackCheck}
    (hpresent : Pint.check? "UAE-UC1-CHK-004" = some present)
    (hlisted : Pint.check? "UAE-UC1-CHK-037" = some listed) :
    ∃ before after, headers = before ++ header :: after ∧
      (∀ later ∈ after, later.sameInvoice line = false) ∧
      ∀ v, let typed := header.withCell "invoice_type" v
        ∃ changed, Dataset.ofRecords buyers (before ++ typed :: after) lines = .ok changed ∧
          changed.headerFor line = .ok (some typed) ∧
          (Baseline.Check.negativeTotal.Flags changed line ↔ v ≠ .text "CREDIT_NOTE") ∧
          (Baseline.Check.negativeTotal.Passes changed line → v = .text "CREDIT_NOTE") ∧
          (present.Passes changed typed → v.isVacant = false) ∧
          (listed.Passes changed typed → v.isVacant ∨
            ∃ code ∈ Pint.invoiceTypeCodes, Pint.normalizedCode v = .ok code) ∧
          ¬(Baseline.Check.negativeTotal.Passes changed line ∧
            present.Passes changed typed ∧ listed.Passes changed typed) := by
  have hcell : "invoice_id" ≠ "invoice_type" := by decide
  obtain ⟨before, after, rfl, hlast, hchange⟩ :=
    Dataset.headerFor_withCell hdata hline hheader hcell
  refine ⟨before, after, rfl, hlast, fun v => ?_⟩
  obtain ⟨changed, hchanged, hheaders, hlines, hfor⟩ := hchange v
  have hnegative := Baseline.isNegative_of_lt htotal hnegative
  have htype := header.get_withCell_self "invoice_type" v
  have hmem : header.withCell "invoice_type" v ∈ changed.headers := by
    rw [hheaders]
    exact List.mem_append_right before List.mem_cons_self
  have hmemLine : line ∈ changed.lines := hlines ▸ hline
  have hflags := Baseline.flags_negativeTotal_iff hnegative hfor
  have hcredit := Baseline.eq_creditNote_of_passes hmemLine hnegative hfor
  have hvacant (h : present.Passes changed (header.withCell "invoice_type" v)) :=
    Pint.isVacant_of_passes hpresent hmem h
  have hcode (h : listed.Passes changed (header.withCell "invoice_type" v)) :=
    Pint.isVacant_or_code_of_passes hlisted hmem h
  rw [htype] at hflags hcredit hvacant hcode
  refine ⟨changed, hchanged, hfor, hflags, hcredit, hvacant, hcode, ?_⟩
  rintro ⟨hbaseline, -, hpack⟩
  exact not_passes_both hlisted hmemLine hnegative hmem hfor ⟨hbaseline, hpack⟩

/-- An invoice of minus one hundred with the code of a credit note is flagged by the baseline
check, as it is with any type but the text that the check asks for. -/
theorem no_type_passes_381 :
    let line : Record := ⟨[("invoice_id", .text "A"), ("line_total_excl_vat", .ofInt (-100))]⟩
    let header : Record := ⟨[("invoice_id", .text "A"), ("invoice_type", .text "381")]⟩
    ∃ data present listed, Dataset.ofRecords [] [header] [line] = .ok data ∧
      data.headerFor line = .ok (some header) ∧ Number.lt (.whole (-100)) .zero ∧
      Pint.check? "UAE-UC1-CHK-004" = some present ∧
      Pint.check? "UAE-UC1-CHK-037" = some listed ∧
      ∃ before after, [header] = before ++ header :: after ∧
        ∀ v, let typed := header.withCell "invoice_type" v
          ∃ changed, Dataset.ofRecords [] (before ++ typed :: after) [line] = .ok changed ∧
            (Baseline.Check.negativeTotal.Flags changed line ↔ v ≠ .text "CREDIT_NOTE") ∧
            ¬(Baseline.Check.negativeTotal.Passes changed line ∧
              present.Passes changed typed ∧ listed.Passes changed typed) := by
  intro line header
  obtain ⟨data, hdata⟩ : ∃ data, Dataset.ofRecords [] [header] [line] = .ok data := ⟨_, rfl⟩
  have hheader : data.headerFor line = .ok (some header) := by
    obtain rfl := Except.ok.inj hdata
    rfl
  have hnegative : Number.lt (.whole (-100)) .zero := by decide
  obtain ⟨before, after, hsplit, -, hall⟩ :=
    no_type_passes hdata List.mem_cons_self rfl hnegative hheader rfl rfl
  refine ⟨data, _, _, hdata, hheader, hnegative, rfl, rfl, before, after, hsplit, fun v => ?_⟩
  obtain ⟨changed, hchanged, -, hflags, -, -, -, hnone⟩ := hall v
  exact ⟨changed, hchanged, hflags, hnone⟩

/-- No type at all lets the invoice of that line through. -/
theorem no_type_at_all :
    let line : Record := ⟨[("invoice_id", .text "A"), ("line_total_excl_vat", .ofInt (-100))]⟩
    ∃ present listed, Pint.check? "UAE-UC1-CHK-004" = some present ∧
      Pint.check? "UAE-UC1-CHK-037" = some listed ∧
      ∀ type : Value, let header : Record := ⟨[("invoice_id", .text "A"), ("invoice_type", type)]⟩
        ∃ data, Dataset.ofRecords [] [header] [line] = .ok data ∧
          data.headerFor line = .ok (some header) ∧
          ¬(Baseline.Check.negativeTotal.Passes data line ∧
            present.Passes data header ∧ listed.Passes data header) := by
  intro line
  refine ⟨_, _, rfl, rfl, fun type => ⟨_, rfl, rfl, ?_⟩⟩
  rintro ⟨hbaseline, -, hpack⟩
  have hnegative : Baseline.isNegative line := by decide
  exact not_passes_both rfl List.mem_cons_self hnegative List.mem_cons_self rfl ⟨hbaseline, hpack⟩

end InvoiceReadiness
