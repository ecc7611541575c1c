import InvoiceReadiness.Proofs.Pint.Verdicts
import InvoiceReadiness.Proofs.Text.Spelling

/-!
# Spellings of the currency

Three checks of the pack read the currency of an invoice: it has to be a code of the list of
currencies, and if it is not the dirham, a tax currency and an exchange rate are needed. The
first and the last look at the code without its padding and in upper case, so they judge one
code alike however it is spelled. The check of the tax currency raises the code to upper case
and leaves the padding where it is, so it takes a padded dirham for another currency.

## Main results

* `currencyCode_verdict`, `taxCurrency_verdict`, `exchangeRate_verdict` — the verdicts of the
  three checks on a header whose currency is a text.
* `currencies_respelled` — which verdicts change with the spelling, and which do not.
-/

namespace InvoiceReadiness.Pint

open PackCheck

/-! ## Procedures -/

theorem filledText_text (s : String) : filledText (.text s) = .ok s := by
  by_cases hs : s = ""
  · rw [hs]
    rfl
  · have hfilled : (Value.text s).isFilled := bne_iff_ne.2 hs
    rw [filledText, Value.orElse, if_pos hfilled]
    rfl

theorem isCodeIn_currencies (s : String) : isCodeIn (.text "ISO4217") (.text s) =
    .ok (currencyCodes.contains (upper (trim s))) := rfl

section Procedures

variable {check : PackCheck}

theorem currencyCode_collects (hprocedure : procedureOf check.record = .ok (some currencyCode))
    (hfield : check.parameters.get "field" = .text "currency") :
    ∃ judge, check.Collects judge ∧ ∀ h s, h.get "currency" = .text s →
      (do return (← judge h).isSome : Result Bool) =
        if trim s = "" ∨ upper (trim s) ∈ currencyCodes then .ok false else opened h := by
  apply Exists.intro
  apply And.intro
  · intro data
    have hdefault : (Value.text "currency").orElse (.text "currency") = .text "currency" := rfl
    rw [runRecord_eq hprocedure]
    show currencyCode (check.task data) = _
    simp only [currencyCode, task_parameter, Result.ok_bind, hfield, hdefault, report_eq]
    rfl
  · intro h s hs
    have hname : NamesCell "currency" := by decide
    rw [resolveAt_text hname, hs, Result.ok_bind, Value.isBlank_text, isCodeIn_currencies, opened]
    by_cases hblank : trim s = ""
    · rw [decide_eq_true hblank, if_pos (.inl hblank)]
      rfl
    · rw [decide_eq_false hblank]
      by_cases hcode : upper (trim s) ∈ currencyCodes
      · rw [List.contains_iff_mem.2 hcode, if_pos (.inr hcode)]
        rfl
      · rw [eq_false_of_ne_true (hcode ∘ List.contains_iff_mem.1),
          if_neg (not_or_intro hblank hcode)]
        cases numberText h <;> rfl

theorem taxCurrency_collects (hprocedure : procedureOf check.record = .ok (some taxCurrency))
    (hbase : check.parameters.get "tax_currency" = .text "AED") :
    ∃ judge, check.Collects judge ∧ ∀ h s, h.get "currency" = .text s →
      (do return (← judge h).isSome : Result Bool) = (do
        let given ← filledText (h.get "tax_currency")
        let code := if trim given = "" then s else trim given
        if upper code = "AED" then return false
        opened h) := by
  apply Exists.intro
  apply And.intro
  · intro data
    have hdefault : (Value.text "AED").orElse (.text "AED") = .text "AED" := rfl
    rw [runRecord_eq hprocedure]
    show taxCurrency (check.task data) = _
    simp only [taxCurrency, task_parameter, Result.ok_bind, hbase, hdefault, shown_text, report_eq]
    rfl
  · intro h s hs
    have hbase : upper "AED" = "AED" := by decide
    rw [hs, filledText_text, Result.ok_bind, hbase, opened]
    cases filledText (h.get "tax_currency") with
    | error fault => rfl
    | ok given =>
        simp only [Result.ok_bind]
        by_cases hgiven : trim given = ""
        · have hempty : upper "" = "" := rfl
          rw [hgiven]
          by_cases hcode : upper s = "AED"
          · simp [hempty, hcode]
          · cases numberText h <;> simp [hempty, hcode]
        · have hempty : upper (trim given) ≠ "" := mt upper_eq_empty_iff.1 hgiven
          by_cases hcode : upper (trim given) = "AED"
          · simp [hgiven, hcode]
          · cases numberText h <;> simp [hgiven, hempty, hcode]

theorem exchangeRate_collects (hprocedure : procedureOf check.record = .ok (some exchangeRate))
    (hcurrency : check.parameters.get "currency_field" = .text "currency")
    (hrate : check.parameters.get "fx_field" = .text "fx_rate")
    (hbase : check.parameters.get "base_currency" = .text "AED") :
    ∃ judge, check.Collects judge ∧ ∀ h s, h.get "currency" = .text s →
      (do return (← judge h).isSome : Result Bool) = (do
        let rate := h.get "fx_rate"
        if trim s = "" ∨ upper (trim s) = "AED" then return false
        if rate.toNumber?.any Number.zero.lt then return false
        let _ ← if rate.isNull then pure emptyText else rate.shown
        opened h) := by
  apply Exists.intro
  apply And.intro
  · intro data
    have hcurrency' : (Value.text "currency").orElse (.text "currency") = .text "currency" := rfl
    have hrate' : (Value.text "fx_rate").orElse (.text "fx_rate") = .text "fx_rate" := rfl
    have hbase' : (Value.text "AED").orElse (.text "AED") = .text "AED" := rfl
    rw [runRecord_eq hprocedure]
    show exchangeRate (check.task data) = _
    simp only [exchangeRate, task_parameter, Result.ok_bind, hcurrency, hcurrency', hrate, hrate',
      hbase, hbase', canonical_text, shown_text, report_eq]
    rfl
  · intro h s hs
    have hcurrencyName : NamesCell (canonicalName "currency") := by decide
    have hrateName : NamesCell (canonicalName "fx_rate") := by decide
    have hcurrency : h.get (canonicalName "currency") = .text s := hs
    have hrate : h.get (canonicalName "fx_rate") = h.get "fx_rate" := rfl
    have hbase : upper "AED" = "AED" := by decide
    have hempty := upper_eq_empty_iff (s := trim s)
    rw [resolveAt_text hcurrencyName, resolveAt_text hrateName, hcurrency, hrate, Result.ok_bind,
      filledText_text, Result.ok_bind, Result.ok_bind, hbase, opened]
    by_cases hpasses : trim s = "" ∨ upper (trim s) = "AED"
    · simp [hempty, hpasses]
    · by_cases hpositive : (h.get "fx_rate").toNumber?.any Number.zero.lt
      · simp [hempty, hpasses, hpositive]
      · by_cases hnull : (h.get "fx_rate").isNull
        · simp [hempty, hpasses, hpositive, hnull]
        · simp [hempty, hpasses, hpositive, hnull]

end Procedures

/-! ## Checks of the pack -/

section Checks

variable {check : PackCheck} {data : Dataset} {h : Record} {s : String}

/-- The currency has to be a code of the list, unless the cell is blank. -/
theorem currencyCode_verdict (hcheck : check ∈ pack) (hid : check.id = "UAE-UC1-CHK-006") :
    check.JudgesEach ∧ ∀ data h s, h.get "currency" = .text s → check.verdict data h =
      if trim s = "" ∨ upper (trim s) ∈ currencyCodes then .ok false else opened h := by
  obtain ⟨judge, hjudge, hsaid⟩ := currencyCode_collects (procedureOf_eq hid rfl)
    (eq_of_mem_pack (f := fun check => check.parameters.get "field") hcheck hid rfl)
  exact ⟨hjudge.judgesEach, fun data h s hs => (hjudge.verdict_eq data h).trans (hsaid h s hs)⟩

/-- The tax currency has to be the dirham; where none is given, the currency itself, as it
is padded, stands for it. -/
theorem taxCurrency_verdict (hcheck : check ∈ pack) (hid : check.id = "UAE-UC1-CHK-007") :
    check.JudgesEach ∧ ∀ data h s, h.get "currency" = .text s → check.verdict data h = (do
      let given ← filledText (h.get "tax_currency")
      let code := if trim given = "" then s else trim given
      if upper code = "AED" then return false
      opened h) := by
  obtain ⟨judge, hjudge, hsaid⟩ := taxCurrency_collects (procedureOf_eq hid rfl)
    (eq_of_mem_pack (f := fun check => check.parameters.get "tax_currency") hcheck hid rfl)
  exact ⟨hjudge.judgesEach, fun data h s hs => (hjudge.verdict_eq data h).trans (hsaid h s hs)⟩

/-- An exchange rate is needed unless the currency is blank or the dirham. -/
theorem exchangeRate_verdict (hcheck : check ∈ pack) (hid : check.id = "UAE-UC1-CHK-008") :
    check.JudgesEach ∧ ∀ data h s, h.get "currency" = .text s → check.verdict data h = (do
      let rate := h.get "fx_rate"
      if trim s = "" ∨ upper (trim s) = "AED" then return false
      if rate.toNumber?.any Number.zero.lt then return false
      let _ ← if rate.isNull then pure emptyText else rate.shown
      opened h) := by
  obtain ⟨judge, hjudge, hsaid⟩ := exchangeRate_collects (procedureOf_eq hid rfl)
    (eq_of_mem_pack (f := fun check => check.parameters.get "currency_field") hcheck hid rfl)
    (eq_of_mem_pack (f := fun check => check.parameters.get "fx_field") hcheck hid rfl)
    (eq_of_mem_pack (f := fun check => check.parameters.get "base_currency") hcheck hid rfl)
  exact ⟨hjudge.judgesEach, fun data h s hs => (hjudge.verdict_eq data h).trans (hsaid h s hs)⟩

end Checks

/-! ## Other spellings -/

/-- Two headers that differ in the padding and in the letter case of their currency alone. -/
structure Respells (h h' : Record) (s s' : String) : Prop where
  others : ∀ name, name ≠ "currency" → h'.get name = h.get name
  currency : h.get "currency" = .text s
  currency' : h'.get "currency" = .text s'
  alike : SameButCase (trim s) (trim s')

/-- A header gives no tax currency if there is nothing in the cell, or blanks alone. -/
def LacksTaxCurrency (h : Record) : Prop :=
  ∃ given, filledText (h.get "tax_currency") = .ok given ∧ trim given = ""

theorem lacksTaxCurrency_of_isBlank {h : Record}
    (hblank : (h.get "tax_currency").isBlank = .ok true) : LacksTaxCurrency h := by
  have hvacant := Value.isVacant_of_isBlank hblank
  rw [LacksTaxCurrency]
  cases hcell : h.get "tax_currency" with
  | null => exact ⟨"", rfl, by decide⟩
  | text t =>
      rw [hcell, Value.isBlank_text] at hblank
      exact ⟨t, filledText_text t, of_decide_eq_true (Except.ok.inj hblank)⟩
  | _ =>
      rw [hcell] at hvacant
      cases hvacant

section Respelled

variable {check : PackCheck} {data : Dataset} {h h' : Record} {s s' : String}

theorem Respells.opened_eq (hr : Respells h h' s s') : opened h' = opened h := by
  rw [opened, opened, numberText, numberText, hr.others "invoice_number" (by decide)]

theorem isBlankChar_dirham : ∀ c ∈ "AED".toList, isBlankChar c = false := by
  have hall : "AED".toList.all (!isBlankChar ·) := by decide
  intro c hc
  simpa using List.all_eq_true.1 hall c hc

/-- The check of the tax currency tells two spellings of the dirham apart, if one of them is
padded and there is no tax currency. -/
theorem taxCurrency_respelled (hcheck : check ∈ pack) (hid : check.id = "UAE-UC1-CHK-007")
    (hr : Respells h h' s s') :
    check.verdict data h' = check.verdict data h ↔
      (LacksTaxCurrency h → upper (trim s) = "AED" → (trim s' = s' ↔ trim s = s)) := by
  obtain ⟨-, hverdict⟩ := taxCurrency_verdict hcheck hid
  have hcode (t : String) : upper t = "AED" ↔ upper (trim t) = "AED" ∧ trim t = t :=
    upper_eq_iff isBlankChar_dirham
  have hupper : upper (trim s') = upper (trim s) := (upper_eq_of_sameButCase hr.alike).symm
  rw [hverdict data h' s' hr.currency', hverdict data h s hr.currency, hr.opened_eq,
    hr.others "tax_currency" (by decide), LacksTaxCurrency]
  cases filledText (h.get "tax_currency") with
  | error fault => simp
  | ok given =>
      simp only [Result.ok_bind, Except.ok.injEq, exists_eq_left']
      by_cases hgiven : trim given = ""
      · have hne : opened h ≠ pure false := opened_ne h
        simp only [hgiven, if_true, hcode s, hcode s', hupper, true_imp_iff]
        by_cases hbase : upper (trim s) = "AED"
        · by_cases hpadded : trim s = s
          · by_cases hpadded' : trim s' = s'
            · simp [hpadded, hpadded']
            · simp [hpadded, hpadded', hne]
          · by_cases hpadded' : trim s' = s'
            · simp [hbase, hpadded, hpadded', hne.symm]
            · simp [hpadded, hpadded']
        · simp [hbase]
      · simp [hgiven]

/-- The other two checks judge all spellings alike. -/
theorem verdict_respelled (hcheck : check ∈ pack)
    (hid : check.id = "UAE-UC1-CHK-006" ∨ check.id = "UAE-UC1-CHK-008")
    (hr : Respells h h' s s') : check.verdict data h' = check.verdict data h := by
  have hupper : upper (trim s') = upper (trim s) := (upper_eq_of_sameButCase hr.alike).symm
  have hempty : trim s' = "" ↔ trim s = "" := hr.alike.eq_empty_iff.symm
  rcases hid with hid | hid
  · obtain ⟨-, hverdict⟩ := currencyCode_verdict hcheck hid
    rw [hverdict data h' s' hr.currency', hverdict data h s hr.currency, hr.opened_eq, hupper]
    simp only [hempty]
  · obtain ⟨-, hverdict⟩ := exchangeRate_verdict hcheck hid
    rw [hverdict data h' s' hr.currency', hverdict data h s hr.currency, hr.opened_eq, hupper,
      hr.others "fx_rate" (by decide)]
    simp only [hempty]

/-- The verdicts on a header whose currency is a spelling of the dirham and that gives no tax
currency. -/
theorem verdicts_of_base (hs : h.get "currency" = .text s) (hbase : SameButCase (trim s) "AED")
    (htax : LacksTaxCurrency h) (hcheck : check ∈ pack) :
    (check.id = "UAE-UC1-CHK-006" ∨ check.id = "UAE-UC1-CHK-008" →
      check.verdict data h = .ok false) ∧
    (check.id = "UAE-UC1-CHK-007" →
      check.verdict data h = if trim s = s then .ok false else opened h) := by
  have hupper : upper (trim s) = "AED" := upper_eq_of_sameButCase hbase
  constructor
  · rintro (hid | hid)
    · have hcode : "AED" ∈ currencyCodes := by decide
      rw [(currencyCode_verdict hcheck hid).2 data h s hs, hupper, if_pos (.inr hcode)]
    · rw [(exchangeRate_verdict hcheck hid).2 data h s hs, hupper, if_pos (.inr rfl)]
      rfl
  · intro hid
    obtain ⟨given, hgiven, hempty⟩ := htax
    have hcode : upper s = "AED" ↔ trim s = s := by
      rw [upper_eq_iff isBlankChar_dirham, hupper]
      simp
    rw [(taxCurrency_verdict hcheck hid).2 data h s hs, hgiven, Result.ok_bind]
    simp only [hempty, if_true, hcode]
    rfl

/-- **Spellings of the currency.** Three checks of the pack read the currency; each judges the
headers of a dataset one by one. On two headers that differ in the padding and the letter case
of their currency alone, the checks of the code and of the exchange rate give one verdict. The
check of the tax currency does so as well, apart from one case: the code is the dirham, no tax
currency is given, and one of the two is padded and the other is not. So a header in dirham
without a tax currency gets no case from the first two checks, and gets one from the third if
and only if its currency is padded. -/
theorem currencies_respelled (hr : Respells h h' s s') (data : Dataset) :
    ∀ check ∈ pack,
      (check.id ∈ ["UAE-UC1-CHK-006", "UAE-UC1-CHK-007", "UAE-UC1-CHK-008"] →
        check.JudgesEach) ∧
      (check.id = "UAE-UC1-CHK-006" ∨ check.id = "UAE-UC1-CHK-008" →
        check.verdict data h' = check.verdict data h ∧
        (SameButCase (trim s) "AED" → (h.get "tax_currency").isBlank = .ok true →
          check.verdict data h = .ok false)) ∧
      (check.id = "UAE-UC1-CHK-007" →
        (check.verdict data h' = check.verdict data h ↔
          (LacksTaxCurrency h → upper (trim s) = "AED" → (trim s' = s' ↔ trim s = s))) ∧
        (SameButCase (trim s) "AED" → (h.get "tax_currency").isBlank = .ok true →
          check.verdict data h = if trim s = s then .ok false else opened h)) := by
  intro check hcheck
  refine ⟨fun hid => ?_, fun hid => ⟨verdict_respelled hcheck hid hr, fun hbase htax => ?_⟩,
    fun hid => ⟨taxCurrency_respelled hcheck hid hr, fun hbase htax => ?_⟩⟩
  · simp only [List.mem_cons, List.not_mem_nil, or_false] at hid
    rcases hid with hid | hid | hid
    · exact (currencyCode_verdict hcheck hid).1
    · exact (taxCurrency_verdict hcheck hid).1
    · exact (exchangeRate_verdict hcheck hid).1
  · exact (verdicts_of_base hr.currency hbase (lacksTaxCurrency_of_isBlank htax) hcheck).1 hid
  · exact (verdicts_of_base hr.currency hbase (lacksTaxCurrency_of_isBlank htax) hcheck).2 hid

end Respelled

/-- A header with a number and a currency. -/
private def headerOfCurrency (currency : String) : Record :=
  ⟨[("invoice_number", .text "N1"), ("currency", .text currency)]⟩

theorem respells_headerOfCurrency {s s' : String} (halike : SameButCase (trim s) (trim s')) :
    Respells (headerOfCurrency s) (headerOfCurrency s') s s' where
  others name hne := by
    have hother : ("currency" == name) = false := beq_eq_false_iff_ne.2 hne.symm
    simp only [headerOfCurrency, Record.get, Members.get, List.find?_cons, hother]
  currency := rfl
  currency' := rfl
  alike := halike

/-- The dirham in capital letters, and in small letters between blanks: the check of the tax
currency passes the first one and no other check tells them apart. -/
theorem currencies_respelled_padded :
    let h := headerOfCurrency "AED"
    let h' := headerOfCurrency "\taed "
    ∃ data, Dataset.ofRecords [] [h, h'] [] = .ok data ∧ Respells h h' "AED" "\taed " ∧
      (∃ check ∈ pack, check.id = "UAE-UC1-CHK-007" ∧ check.JudgesEach ∧
        check.verdict data h = .ok false ∧ check.verdict data h' ≠ check.verdict data h) ∧
      ∃ check ∈ pack, check.id = "UAE-UC1-CHK-008" ∧ check.verdict data h' = .ok false := by
  intro h h'
  have hr : Respells h h' "AED" "\taed " := respells_headerOfCurrency (by decide)
  have hlacks : LacksTaxCurrency h := ⟨"", rfl, by decide⟩
  obtain ⟨data, hdata⟩ : Returns (Dataset.ofRecords [] [h, h'] []) :=
    .of_isOk (by decide +kernel)
  refine ⟨data, hdata, hr, ?_, ?_⟩
  · have hcheck : headerChecks[6] ∈ pack := by simp [pack]
    obtain ⟨hjudges, -, htax⟩ := currencies_respelled hr data headerChecks[6] hcheck
    obtain ⟨hsame, hbase⟩ := htax rfl
    refine ⟨_, hcheck, rfl, hjudges (by decide), (hbase (by decide) rfl).trans (by decide), ?_⟩
    rw [ne_eq, hsame]
    exact fun hpadded => absurd (hpadded hlacks (by decide)) (by decide)
  · have hcheck : headerChecks[7] ∈ pack := by simp [pack]
    obtain ⟨-, hothers, -⟩ := currencies_respelled hr data headerChecks[7] hcheck
    obtain ⟨hsame, hbase⟩ := hothers (.inr rfl)
    exact ⟨_, hcheck, rfl, hsame.trans (hbase (by decide) rfl)⟩

/-- Of the three checks the one of the tax currency opens a case for a dirham between blanks;
without the blanks none of them does. -/
theorem taxCurrency_tells_padding :
    let h := headerOfCurrency "AED"
    let h' := headerOfCurrency " AED "
    let verdicts (check : PackCheck) : Result (Bool × Bool) := do
      let data ← Dataset.ofRecords [] [h, h'] []
      return (← check.verdict data h, ← check.verdict data h')
    Respells h h' "AED" " AED " ∧ LacksTaxCurrency h' ∧ (h'.get "fx_rate").isNull ∧
      (["UAE-UC1-CHK-006", "UAE-UC1-CHK-007", "UAE-UC1-CHK-008"].map fun id =>
        (pack.find? fun check => check.id == id).map verdicts) =
        [some (.ok (false, false)), some (.ok (false, true)), some (.ok (false, false))] := by
  intro h h' verdicts
  exact ⟨respells_headerOfCurrency (by decide), ⟨"", rfl, by decide⟩, rfl, by decide +kernel⟩

end InvoiceReadiness.Pint
