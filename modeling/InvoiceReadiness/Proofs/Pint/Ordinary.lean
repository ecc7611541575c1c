import InvoiceReadiness.Pint.Run
import InvoiceReadiness.Proofs.Checks.Ordinary

/-!
# The check pack on ordinary headers

No check of the pack fails on an ordinary header. Whatever a procedure can fail on is in
the header or in the parameters of its check: a cell that cannot be shown, an amount that
is too large, a field that is no text, a pattern that is none. The first two an ordinary
header does not have, and the others no check of the pack has.

A procedure is proved to end well once, for any parameters that name cells; the pack is
walked through check by check at the end.

## Main results

* `pack_returns` — every check of the pack, run on an ordinary header.
-/

namespace InvoiceReadiness.Pint

/-- The task of a check of the pack on one header. -/
def headerTask (check : PackCheck) (data : Dataset) (h : Record) : Task :=
  ⟨check.record, .object check.parameters, data.onlyHeader h⟩

/-- A name is the path to one cell. -/
def NamesCell (name : String) : Prop := Value.segments name = [name.toList]

instance (name : String) : Decidable (NamesCell name) :=
  inferInstanceAs (Decidable (_ = _))

variable {check : PackCheck} {data : Dataset} {h : Record}

@[simp] theorem headerTask_headers : (headerTask check data h).data.headers = [h] := rfl

@[simp] theorem headerTask_parameter (name : String) :
    (headerTask check data h).parameter name = .ok (check.parameters.get name) := rfl

/-- A check of the pack can open any case. -/
@[simp] theorem returns_report (observation : Observation) :
    Returns ((headerTask check data h).report observation) := by
  have hid : (headerTask check data h).checkId = .ok (.text check.id) := rfl
  have hterms : (headerTask check data h).check.get "pint_reference_terms" =
      .list (check.terms.map Value.text) := rfl
  have hseverity : (headerTask check data h).severity = .text check.severity.name := by
    show (Value.text check.severity.name).orElse (.text Severity.medium.name) = _
    cases check.severity <;> rfl
  have hhours (name : String) : Returns (hoursFor (.text name)) := ⟨_, rfl⟩
  rw [Task.report, hid, hseverity]
  simp [hterms, hhours, Value.elements]

theorem resolveAt_text {name : String} (hname : NamesCell name) :
    h.resolveAt (.text name) = .ok (h.get name) :=
  Expression.resolve_cell h hname

theorem canonical_text (name : String) :
    canonical (.text name) = .ok (.text (canonicalName name)) := rfl

@[simp] theorem shown_text (s : String) : (Value.text s).shown = .ok s := rfl

theorem returns_toleranceOf : Returns (toleranceOf (headerTask check data h)) := by
  rw [toleranceOf, headerTask_parameter, Result.ok_bind]
  split <;> exact ⟨_, rfl⟩

theorem returns_isCodeIn {v : Value} (hv : v.withinDigits) (list : String) :
    Returns (isCodeIn (.text list) v) := by
  have hcodes : Returns (codesOfValue (.text list)) := ⟨_, rfl⟩
  simp [isCodeIn, normalizedCode, Value.returns_shown hv, hcodes]

theorem returns_filledText {v : Value} (hv : v.withinDigits) : Returns (filledText v) :=
  Value.returns_shown (Value.withinDigits_orElse hv rfl)

theorem returns_zeroText : Returns (Number.zero.fixedText 2) :=
  (Number.zero_within _).returns_fixedText amountBound_le 2

theorem linesFor_headerTask (hlines : data.linesFor (h.get "invoice_id") = .ok []) :
    (headerTask check data h).data.linesFor (h.get "invoice_id") = .ok [] := hlines

theorem sumOfLines_headerTask (hlines : data.linesFor (h.get "invoice_id") = .ok [])
    (column : String) : sumOfLines (headerTask check data h).data h column = .ok .zero := by
  rw [sumOfLines, linesFor_headerTask hlines]
  rfl

/-! ## Procedures on headers -/

section Headers

variable (hh : h.IsOrdinary)
include hh

theorem returns_numberText : Returns (numberText h) := hh.returns_shown "invoice_number"

theorem headerPresence_returns {name : String}
    (hfield : check.parameters.get "field" = .text name) (hname : NamesCell name) :
    Returns (headerPresence (headerTask check data h)) := by
  have hlabel : Returns ((h.get "invoice_number").orElse (h.get "invoice_id")).shown :=
    Value.returns_shown (Value.withinDigits_orElse (hh.cell _) (hh.cell _))
  simp [headerPresence, hfield, returns_collect, resolveAt_text hname, hh.returns_isBlank,
    hlabel, reportAbsent]

theorem headerPattern_returns {name source : String}
    (hfield : check.parameters.get "field" = .text name) (hname : NamesCell name)
    (hsource : check.parameters.get "pattern" = .text source)
    (hpattern : (patternOf (.text source)).isOk) :
    Returns (headerPattern (headerTask check data h)) := by
  simp only [headerPattern, headerTask_parameter, hfield, hsource, Result.ok_bind,
    Returns.ite_iff, Returns.pure_iff, Returns.bind_iff, Returns.of_isOk hpattern,
    implies_true, true_and]
  intro _ pattern _
  cases pattern with
  | none => exact ⟨[], rfl⟩
  | some pattern =>
      simp [returns_collect, resolveAt_text hname, hh.returns_isBlank, hh.returns_shown,
        returns_numberText hh]

theorem currencyCode_returns {name : String}
    (hfield : (check.parameters.get "field").orElse (.text "currency") = .text name)
    (hname : NamesCell name) : Returns (currencyCode (headerTask check data h)) := by
  simp [currencyCode, hfield, returns_collect, resolveAt_text hname, hh.returns_isBlank,
    hh.returns_shown, returns_numberText hh, returns_isCodeIn (hh.cell _)]

theorem taxCurrency_returns {base : String}
    (hbase : (check.parameters.get "tax_currency").orElse (.text "AED") = .text base) :
    Returns (taxCurrency (headerTask check data h)) := by
  simp [taxCurrency, hbase, returns_collect, returns_filledText (hh.cell _),
    returns_numberText hh]

theorem exchangeRate_returns {currency rate base : String}
    (hcurrency : (check.parameters.get "currency_field").orElse (.text "currency") =
      .text currency)
    (hcurrencyName : NamesCell (canonicalName currency))
    (hrate : (check.parameters.get "fx_field").orElse (.text "fx_rate") = .text rate)
    (hrateName : NamesCell (canonicalName rate))
    (hbase : (check.parameters.get "base_currency").orElse (.text "AED") = .text base) :
    Returns (exchangeRate (headerTask check data h)) := by
  simp [exchangeRate, hcurrency, hrate, hbase, canonical_text, returns_collect,
    resolveAt_text hcurrencyName, resolveAt_text hrateName, returns_filledText (hh.cell _),
    hh.returns_shown, returns_numberText hh]

theorem paymentDueDate_returns : Returns (paymentDueDate (headerTask check data h)) := by
  have hamount : Returns (h.get "amount_due").amount.text :=
    (hh.within_amount _).returns_text amountBound_le
  have hstated : Returns (dueDateStated (headerTask check data h) h) := by
    simp [dueDateStated, hh.returns_isBlank, hamount, returns_numberText hh]
  have hlate : Returns (dueDateLateEnough (headerTask check data h) h) := by
    simp only [dueDateLateEnough, Returns.bind_iff, Returns.ite_iff, hh.returns_isBlank,
      true_and]
    refine fun due _ => ⟨fun _ => ⟨_, rfl⟩, fun _ issue _ => ⟨fun _ => ⟨_, rfl⟩, fun _ => ?_⟩⟩
    split
    · simp [hh.returns_shown, returns_numberText hh]
    · exact ⟨none, rfl⟩
  simp [paymentDueDate, List.mapM_cons, hstated, hlate]

theorem allowedValues_returns {defaultField label name : String} {v : Value}
    {more : List Value} (hfield : (check.parameters.get "field").orElse (.text defaultField) =
      .text name)
    (hname : NamesCell (canonicalName name))
    (hallowed : check.parameters.get "allowed_values" = .list (v :: more))
    (hshown : Returns ((v :: more).mapM Value.shown)) :
    Returns (allowedValues defaultField label (headerTask check data h)) := by
  simp only [allowedValues, headerTask_parameter, hfield, canonical_text, hallowed,
    Result.ok_bind, Returns.bind_iff, hshown, true_and]
  simp [returns_collect, resolveAt_text hname, hh.returns_isBlank, hh.returns_shown,
    returns_numberText hh]

theorem sellerTrn_returns : Returns (sellerTrn (headerTask check data h)) := by
  simp [sellerTrn, returns_collect, Value.isTrn, hh.returns_isBlank, hh.returns_shown,
    returns_numberText hh]

theorem sellerAddress_returns {names : List String}
    (hfields : listedFields (headerTask check data h)
      ["seller_address", "seller_city", "seller_country"] = .ok (names.map Value.text))
    (hnames : ∀ name ∈ names, NamesCell name) :
    Returns (sellerAddress (headerTask check data h)) := by
  have hcell (field : Value) (hfield : field ∈ names.map Value.text) :
      ∃ name, field = .text name ∧ NamesCell name := by
    obtain ⟨name, hname, rfl⟩ := List.mem_map.1 hfield
    exact ⟨name, rfl, hnames name hname⟩
  rw [sellerAddress, hfields, Result.ok_bind, Returns.bind_iff]
  refine ⟨Returns.mapM fun header hheader => Returns.filterMapM fun field hfield => ?_, by simp⟩
  obtain rfl := List.mem_singleton.1 hheader
  obtain ⟨name, rfl, hname⟩ := hcell field hfield
  simp [resolveAt_text hname, hh.returns_isBlank, returns_numberText hh, reportAbsent]

/-! ## Procedures on amounts -/

theorem returns_countDecimals (name : String) : Returns (countDecimals (h.get name)) := by
  unfold countDecimals
  split
  · exact ⟨0, rfl⟩
  · rename_i n hn
    have hfinite := (hh.within hn).returns_isFinite amountBound_le
    simp only [Returns.bind_iff, Returns.ite_iff, hfinite, true_and]
    refine fun _ _ => ⟨fun _ => ⟨0, rfl⟩, fun _ => ?_⟩
    cases n <;> exact ⟨_, rfl⟩

theorem maxDecimals_returns {name : String} {limit : Nat}
    (hfield : check.parameters.get "field" = .text name) (hname : NamesCell name)
    (hlimit : check.parameters.get "max_decimals" = .ofNat limit)
    (hdigits : (Value.ofNat limit).withinDigits) :
    Returns (maxDecimals (headerTask check data h)) := by
  have hnumber : (Value.ofNat limit).number? = some (.whole limit) := rfl
  simp [maxDecimals, hfield, hlimit, hnumber, Value.returns_shown hdigits, returns_collect,
    resolveAt_text hname, returns_countDecimals hh, hh.returns_shown, returns_numberText hh]

theorem headerTotals_returns : Returns (headerTotals (headerTask check data h)) := by
  simp only [headerTotals, Returns.bind_iff, returns_toleranceOf, true_and]
  refine fun tolerance _ => returns_collect.2 ?_
  unfold totalsCase
  split
  · rename_i incl excl vat hincl hexcl hvat
    obtain ⟨sum, hsum, htext, hagree⟩ := hh.exists_sum hexcl hvat hincl tolerance
    simp [hsum, htext, hagree, hh.returns_text hincl, hh.returns_text hexcl,
      hh.returns_text hvat, returns_numberText hh]
  · exact ⟨none, rfl⟩

/-- The sum of no lines can be held against any total of the header. -/
theorem returns_againstZero (column : String) (tolerance : Number) :
    Returns (Number.zero.agree (h.get column).amount tolerance) :=
  (Number.zero_within _).returns_agree (hh.within_amount column) amountBound_le tolerance

section Lines

variable (hlines : data.linesFor (h.get "invoice_id") = .ok [])
include hlines

theorem lineNetSum_returns : Returns (lineNetSum (headerTask check data h)) := by
  simp only [lineNetSum, Returns.bind_iff, returns_toleranceOf, true_and]
  refine fun tolerance _ => returns_collect.2 ?_
  have htext := (hh.within_amount "total_excl_vat").returns_text amountBound_le
  simp [sumOfLines_headerTask hlines, returns_againstZero hh, htext, returns_zeroText,
    returns_numberText hh]

theorem lineVatSum_returns : Returns (lineVatSum (headerTask check data h)) := by
  simp only [lineVatSum, Returns.bind_iff, returns_toleranceOf, true_and]
  refine fun tolerance _ => returns_collect.2 ?_
  have htext := (hh.within_amount "vat_total").returns_text amountBound_le
  simp [sumOfLines_headerTask hlines, returns_againstZero hh, htext, returns_zeroText,
    returns_numberText hh]

theorem taxBreakdown_returns : Returns (taxBreakdown (headerTask check data h)) := by
  refine returns_collect.2 ?_
  rw [linesFor_headerTask hlines]
  simp [statesTax, hh.returns_isBlank, returns_numberText hh]

theorem hasLines_returns : Returns (hasLines (headerTask check data h)) := by
  refine returns_collect.2 ?_
  rw [linesFor_headerTask hlines]
  simp [returns_numberText hh]

end Lines

end Headers

/-! ## Procedures on records of any kind -/

theorem returns_recordPlace (hid : (h.get "invoice_id").isIdentifier) :
    Returns (recordPlace (headerTask check data h).data h) := by
  have hheader : Returns ((headerTask check data h).data.headerFor h) :=
    Dataset.exists_headerFor _ hid
  simp [recordPlace, hheader]

/-- The only record of any kind is the header. -/
theorem returns_collect_records {kind : RecordKind} {f : Record → Result (Option Case)}
    (hf : Returns (f h)) : Returns (collect ((headerTask check data h).data.records kind) f) := by
  cases kind with
  | headers => exact returns_collect.2 hf
  | _ => exact ⟨[], rfl⟩

theorem kindOfField_text (name : String) (scope : Value) :
    kindOfField (.text name) scope = .ok (kindOfName (canonicalName name) scope) := rfl

theorem codeInList_returns (hh : h.IsOrdinary) (hid : (h.get "invoice_id").isIdentifier)
    {name list : String} (hfield : check.parameters.get "field" = .text name)
    (hname : NamesCell (canonicalName name))
    (hlist : check.parameters.get "codelist" = .text list) :
    Returns (codeInList (headerTask check data h)) := by
  simp only [codeInList, headerTask_parameter, hfield, hlist, Result.ok_bind, canonical_text,
    kindOfField_text, shown_text, Returns.ite_iff, Returns.pure_iff, implies_true, true_and]
  refine fun _ _ => returns_collect_records ?_
  simp [resolveAt_text hname, hh.returns_isBlank, hh.returns_shown,
    returns_isCodeIn (hh.cell _), returns_recordPlace hid]

theorem presence_returns (hh : h.IsOrdinary) (hid : (h.get "invoice_id").isIdentifier)
    {name : String} (hfield : check.parameters.get "field" = .text name)
    (hname : NamesCell (canonicalName name)) :
    Returns (presence (headerTask check data h)) := by
  have hcheck : (headerTask check data h).check.get "check_name" = .text check.name := rfl
  simp only [presence, headerTask_parameter, hfield, Result.ok_bind, canonical_text,
    kindOfField_text, Returns.ite_iff, Returns.pure_iff, implies_true, true_and]
  refine fun _ => returns_collect_records ?_
  simp [resolveAt_text hname, hh.returns_isBlank, hcheck, returns_recordPlace hid]

/-! ## Procedures on buyers and lines -/

theorem buyerName_returns : Returns (buyerName (headerTask check data h)) := ⟨[], rfl⟩

theorem buyerTrn_returns : Returns (buyerTrn (headerTask check data h)) := ⟨[], rfl⟩

theorem lineNumber_returns : Returns (lineNumber (headerTask check data h)) := ⟨[], rfl⟩

theorem lineQuantity_returns : Returns (lineQuantity (headerTask check data h)) := ⟨[], rfl⟩

theorem buyerAddress_returns {fields : List Value}
    (hfields : listedFields (headerTask check data h) ["buyer_address", "buyer_country"] =
      .ok fields) : Returns (buyerAddress (headerTask check data h)) := by
  rw [buyerAddress, hfields]
  exact ⟨[], rfl⟩

theorem lineVat_returns : Returns (lineVat (headerTask check data h)) := by
  simp only [lineVat, Returns.bind_iff, returns_toleranceOf, true_and]
  exact fun _ _ => ⟨[], rfl⟩

theorem lineNet_returns : Returns (lineNet (headerTask check data h)) := by
  simp only [lineNet, Returns.bind_iff, returns_toleranceOf, true_and]
  exact fun _ _ => ⟨[], rfl⟩

/-! ## The pack -/

/-- A check of the pack runs the procedure of its identifier or of its kind of rule. -/
theorem runRecord_eq {procedure : Procedure}
    (hprocedure : procedureOf check.record = .ok (some procedure)) (data : Dataset) :
    runRecord check.record data = procedure ⟨check.record, .object check.parameters, data⟩ := by
  have hparameters : (check.record.get "parameters").orElse (.object []) =
      .object check.parameters := by
    show (Value.object check.parameters).orElse (.object []) = _
    cases check.parameters <;> rfl
  rw [runRecord, hprocedure, Result.ok_bind, hparameters]

theorem returns_runRecord {procedure : Procedure}
    (hreturns : Returns (procedure (headerTask check data h)))
    (hprocedure : procedureOf check.record = .ok (some procedure)) :
    Returns (runRecord check.record (data.onlyHeader h)) := by
  rw [runRecord_eq hprocedure]
  exact hreturns

theorem headerChecks_return (hh : h.IsOrdinary) :
    ∀ check ∈ headerChecks, Returns (runRecord check.record (data.onlyHeader h)) := by
  simp only [headerChecks, List.forall_mem_cons]
  refine ⟨returns_runRecord (headerPresence_returns hh rfl (by decide)) rfl,
    returns_runRecord (headerPresence_returns hh rfl (by decide)) rfl,
    returns_runRecord (headerPattern_returns hh rfl (by decide) rfl (by decide +kernel)) rfl,
    returns_runRecord (headerPresence_returns hh rfl (by decide)) rfl,
    returns_runRecord (headerPresence_returns hh rfl (by decide)) rfl,
    returns_runRecord (currencyCode_returns hh rfl (by decide)) rfl,
    returns_runRecord (taxCurrency_returns hh rfl) rfl,
    returns_runRecord (exchangeRate_returns hh rfl (by decide) rfl (by decide) rfl) rfl,
    returns_runRecord (paymentDueDate_returns hh) rfl,
    returns_runRecord (headerPattern_returns hh rfl (by decide) rfl (by decide +kernel)) rfl,
    returns_runRecord (allowedValues_returns hh rfl (by decide) rfl ⟨_, rfl⟩) rfl, by simp⟩

theorem partyChecks_return (hh : h.IsOrdinary) (hid : (h.get "invoice_id").isIdentifier) :
    ∀ check ∈ partyChecks, Returns (runRecord check.record (data.onlyHeader h)) := by
  have hnames : ∀ name ∈ ["seller_address", "seller_city", "seller_country"],
      NamesCell name := by decide
  simp only [partyChecks, List.forall_mem_cons]
  refine ⟨returns_runRecord (presence_returns hh hid rfl (by decide)) rfl,
    returns_runRecord (sellerTrn_returns hh) rfl,
    returns_runRecord (presence_returns hh hid rfl (by decide)) rfl,
    returns_runRecord (sellerAddress_returns hh rfl hnames) rfl,
    returns_runRecord (allowedValues_returns hh rfl (by decide) rfl ⟨_, rfl⟩) rfl,
    returns_runRecord buyerName_returns rfl,
    returns_runRecord buyerTrn_returns rfl,
    returns_runRecord (presence_returns hh hid rfl (by decide)) rfl,
    returns_runRecord (buyerAddress_returns rfl) rfl, by simp⟩

theorem totalsChecks_return (hh : h.IsOrdinary)
    (hlines : data.linesFor (h.get "invoice_id") = .ok []) :
    ∀ check ∈ totalsChecks, Returns (runRecord check.record (data.onlyHeader h)) := by
  have hplaces : (Value.ofNat 2).withinDigits := by decide +kernel
  simp only [totalsChecks, List.forall_mem_cons]
  refine ⟨returns_runRecord (lineNetSum_returns hh hlines) rfl,
    returns_runRecord (maxDecimals_returns hh rfl (by decide) rfl hplaces) rfl,
    returns_runRecord (maxDecimals_returns hh rfl (by decide) rfl hplaces) rfl,
    returns_runRecord (maxDecimals_returns hh rfl (by decide) rfl hplaces) rfl,
    returns_runRecord (headerTotals_returns hh) rfl,
    returns_runRecord (maxDecimals_returns hh rfl (by decide) rfl hplaces) rfl,
    returns_runRecord (taxBreakdown_returns hh hlines) rfl,
    returns_runRecord lineVat_returns rfl,
    returns_runRecord (lineVatSum_returns hh hlines) rfl, by simp⟩

theorem lineChecks_return (hh : h.IsOrdinary) (hid : (h.get "invoice_id").isIdentifier)
    (hlines : data.linesFor (h.get "invoice_id") = .ok []) :
    ∀ check ∈ lineChecks, Returns (runRecord check.record (data.onlyHeader h)) := by
  simp only [lineChecks, List.forall_mem_cons]
  refine ⟨returns_runRecord (hasLines_returns hh hlines) rfl,
    returns_runRecord lineNumber_returns rfl,
    returns_runRecord lineQuantity_returns rfl,
    returns_runRecord (presence_returns hh hid rfl (by decide)) rfl,
    returns_runRecord lineNet_returns rfl,
    returns_runRecord (codeInList_returns hh hid rfl (by decide) rfl) rfl,
    returns_runRecord (codeInList_returns hh hid rfl (by decide) rfl) rfl,
    returns_runRecord (codeInList_returns hh hid rfl (by decide) rfl) rfl, by simp⟩

/-- No check of the pack fails on an ordinary header that can be found and has no lines. -/
theorem pack_returns (hh : h.IsOrdinary) (hid : (h.get "invoice_id").isIdentifier)
    (hlines : data.linesFor (h.get "invoice_id") = .ok []) :
    ∀ check ∈ pack, Returns (runRecord check.record (data.onlyHeader h)) := by
  simp only [pack, List.forall_mem_append]
  exact ⟨⟨⟨headerChecks_return hh, partyChecks_return hh hid⟩,
    totalsChecks_return hh hlines⟩, lineChecks_return hh hid hlines⟩

end InvoiceReadiness.Pint
