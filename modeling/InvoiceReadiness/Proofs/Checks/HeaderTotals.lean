import InvoiceReadiness.Baseline.Run
import InvoiceReadiness.Custom.Run
import InvoiceReadiness.Pint.Run
import InvoiceReadiness.Proofs.Dataset.Collecting
import InvoiceReadiness.Proofs.Dataset.Joins
import InvoiceReadiness.Proofs.Expression.Amounts
import InvoiceReadiness.Proofs.Numeric.Agreement
import InvoiceReadiness.Proofs.Numeric.Rounding

/-!
# Three checks of the same equation

That the total with tax is the total without tax and the tax is checked three times:
by a baseline check, by a check of the pack, and by any custom check that somebody
writes for it. The three are written differently, and are meant to flag the same
headers.

## Main results

* `headerTotals_judge_alike` — they do, under conditions that say what amounts may be.
-/

namespace InvoiceReadiness

/-! ## Checks that judge headers one by one -/

section Judging

variable {α : Type}

/-- A check judges the headers of a dataset one by one: what it finds among some of
them, in any order, is what it finds in each, at most one thing, and it finds something
exactly in those that are flagged, with their identifier on it. -/
def Judges (check : Dataset → Result (List α)) (invoiceOf : α → Value) (data : Dataset)
    (flagged : Record → Bool) : Prop :=
  ∃ judge : Record → Option α,
    (∀ headers, (∀ h ∈ headers, h ∈ data.headers) →
      check { data with headers } = .ok (headers.filterMap judge)) ∧
    ∀ h ∈ data.headers, (judge h).isSome = flagged h ∧
      ∀ found, judge h = some found → invoiceOf found = h.get "invoice_id"

/-- A check that collects what there is to say about each header judges them one by one. -/
theorem judges_of_collect {check : Dataset → Result (List α)} {invoiceOf : α → Value}
    {data : Dataset} {flagged : Record → Bool} (f : Record → Result (Option α))
    (hcheck : ∀ headers, (∀ h ∈ headers, h ∈ data.headers) →
      check { data with headers } = collect headers f)
    (hf : ∀ h ∈ data.headers, ∃ found, f h = .ok found ∧ found.isSome = flagged h ∧
      ∀ a, found = some a → invoiceOf a = h.get "invoice_id") :
    Judges check invoiceOf data flagged := by
  refine ⟨fun h => (f h).toOption.getD none, fun headers hsub => ?_, fun h hmem => ?_⟩
  · rw [hcheck headers hsub]
    refine collect_eq_ok fun h hmem => ?_
    obtain ⟨found, hfound, -⟩ := hf h (hsub h hmem)
    rw [hfound]
    rfl
  · obtain ⟨found, hfound, hflagged⟩ := hf h hmem
    simp only [hfound]
    exact hflagged

end Judging

/-! ## The equation of totals -/

/-- Whether the totals of a header are all numbers, and the total with tax is not the
total without tax and the tax, within the tolerance for money. -/
def totalsBreak (header : Record) : Bool :=
  match (header.get "total_incl_vat").toNumber?, (header.get "total_excl_vat").toNumber?,
      (header.get "vat_total").toNumber? with
  | some incl, some excl, some vat =>
    match (do incl.agree (← excl.add vat) (.float monetaryTolerance) : Result Bool) with
    | .ok agrees => !agrees
    | .error _ => false
  | _, _, _ => false

/-- A finite binary64 number, or a whole number below `2 ^ 1000` in magnitude. -/
def Number.IsModerate : Number → Prop
  | .whole n => n.natAbs < twoPow 1000
  | .float x => x.isFinite

/-- The cells of the equation. -/
def totalCells : List String := ["total_incl_vat", "total_excl_vat", "vat_total"]

/-- What the three checks take for granted about the totals of a header: no infinity
and no not-a-number among them, a sum of a reasonable size, a total with tax in the
range of binary64, and texts that read the same with and without the blanks around
them. A total may be missing, or be no number at all. -/
structure TotalsAdmitted (header : Record) : Prop where
  finite : ∀ cell ∈ totalCells, ∀ x,
    (header.get cell).toNumber? = some (.float x) → x.isFinite
  sum : ∀ excl vat, (header.get "total_excl_vat").toNumber? = some excl →
    (header.get "vat_total").toNumber? = some vat →
    ∃ sum, excl.add vat = .ok sum ∧ sum.IsModerate
  inRange : ∀ n, (header.get "total_incl_vat").toNumber? = some (.whole n) →
    (Binary64.ofInt n).isFinite
  readsAlike : ∀ cell ∈ totalCells, (header.get cell).ReadsAlike

namespace Number

theorem IsModerate.exists_toBinary64 {n : Number} (h : n.IsModerate) :
    ∃ x, n.toBinary64 = .ok x := by
  cases n with
  | whole n =>
      have hle : n.natAbs ≤ twoPow 1023 :=
        Nat.le_of_lt (Nat.lt_trans h (twoPow_lt_twoPow (by decide)))
      rw [toBinary64]
      exact ⟨_, Binary64.ofInt?_eq_ok hle⟩
  | float x => exact ⟨x, rfl⟩

theorem IsModerate.isFinite_eq_ok {n : Number} (h : n.IsModerate) :
    n.isFinite = .ok true := by
  cases n with
  | whole n =>
      obtain ⟨x, hx⟩ := h.exists_toBinary64
      rw [toBinary64] at hx
      rw [Number.isFinite, hx]
      rfl
  | float x =>
      have hfinite : x.isFinite = true := h
      rw [Number.isFinite, hfinite]

theorem IsModerate.withinDigits {n : Number} (h : n.IsModerate) :
    (Value.number n).withinDigits := withinDigits_of_isFinite h.isFinite_eq_ok

end Number

namespace TotalsAdmitted

variable {header : Record}

theorem exists_toBinary64 (h : TotalsAdmitted header) {incl : Number}
    (hincl : (header.get "total_incl_vat").toNumber? = some incl) :
    ∃ x, incl.toBinary64 = .ok x := by
  cases incl with
  | whole n =>
      rw [Number.toBinary64, Binary64.ofInt?, if_pos (h.inRange n hincl)]
      exact ⟨_, rfl⟩
  | float x => exact ⟨x, rfl⟩

theorem isFinite_eq_ok (h : TotalsAdmitted header) {incl : Number}
    (hincl : (header.get "total_incl_vat").toNumber? = some incl) :
    incl.isFinite = .ok true := by
  cases incl with
  | whole n =>
      obtain ⟨x, hx⟩ := h.exists_toBinary64 hincl
      rw [Number.toBinary64] at hx
      rw [Number.isFinite, hx]
      rfl
  | float x => rw [Number.isFinite, h.finite _ (by decide) x hincl]

end TotalsAdmitted

/-- The totals of a header, and what is to be said about them. -/
inductive Verdict (header : Record) : Prop where
  /-- All are numbers, and they agree or break the equation. -/
  | complete {incl excl vat sum : Number} {agrees : Bool}
      (hincl : (header.get "total_incl_vat").toNumber? = some incl)
      (hexcl : (header.get "total_excl_vat").toNumber? = some excl)
      (hvat : (header.get "vat_total").toNumber? = some vat)
      (hsum : excl.add vat = .ok sum) (hmoderate : sum.IsModerate)
      (hagree : incl.agree sum (.float monetaryTolerance) = .ok agrees)
      (hbreak : totalsBreak header = !agrees)
  /-- One is no number. -/
  | incomplete (hnone : (header.get "total_incl_vat").toNumber? = none ∨
        (header.get "total_excl_vat").toNumber? = none ∨
        (header.get "vat_total").toNumber? = none)
      (hbreak : totalsBreak header = false)

theorem TotalsAdmitted.verdict {header : Record} (h : TotalsAdmitted header) :
    Verdict header := by
  cases hincl : (header.get "total_incl_vat").toNumber? with
  | none =>
      refine .incomplete (.inl hincl) ?_
      rw [totalsBreak, hincl]
  | some incl =>
      cases hexcl : (header.get "total_excl_vat").toNumber? with
      | none =>
          refine .incomplete (.inr (.inl hexcl)) ?_
          rw [totalsBreak, hincl, hexcl]
      | some excl =>
          cases hvat : (header.get "vat_total").toNumber? with
          | none =>
              refine .incomplete (.inr (.inr hvat)) ?_
              rw [totalsBreak, hincl, hexcl, hvat]
          | some vat =>
              obtain ⟨sum, hsum, hmoderate⟩ := h.sum excl vat hexcl hvat
              have hgap := Number.exists_sub (h.exists_toBinary64 hincl)
                hmoderate.exists_toBinary64
              obtain ⟨agrees, hagree⟩ :=
                Number.exists_agree (.float monetaryTolerance) hgap
              refine .complete hincl hexcl hvat hsum hmoderate hagree ?_
              simp only [totalsBreak, hincl, hexcl, hvat, hsum, Result.ok_bind, hagree]

/-! ## The baseline check -/

/-- The number of a total can be shown. -/
theorem exists_text_of_toNumber? {header : Record} {cell : String} {n : Number}
    (hdigits : header.value.withinDigits) (hn : (header.get cell).toNumber? = some n) :
    ∃ s, n.text = .ok s :=
  Number.exists_text
    (Value.withinDigits_of_toNumber? (Value.withinDigits_cell hdigits cell) hn)

/-- What a message about the totals of a header shows has a text. -/
theorem exists_totalsTexts {header : Record} {incl excl vat : Number}
    (hdigits : header.value.withinDigits)
    (hincl : (header.get "total_incl_vat").toNumber? = some incl)
    (hexcl : (header.get "total_excl_vat").toNumber? = some excl)
    (hvat : (header.get "vat_total").toNumber? = some vat) :
    ∃ number inclText exclText vatText,
      (header.get "invoice_number").shown = .ok number ∧ incl.text = .ok inclText ∧
        excl.text = .ok exclText ∧ vat.text = .ok vatText := by
  obtain ⟨number, hnumber⟩ :=
    Value.exists_shown (Value.withinDigits_cell hdigits "invoice_number")
  obtain ⟨inclText, hinclText⟩ := exists_text_of_toNumber? hdigits hincl
  obtain ⟨exclText, hexclText⟩ := exists_text_of_toNumber? hdigits hexcl
  obtain ⟨vatText, hvatText⟩ := exists_text_of_toNumber? hdigits hvat
  exact ⟨number, inclText, exclText, vatText, hnumber, hinclText, hexclText, hvatText⟩

theorem baseline_judges {data : Dataset} (hdigits : ∀ h ∈ data.headers, h.value.withinDigits)
    (hadmitted : ∀ h ∈ data.headers, TotalsAdmitted h) :
    Judges Baseline.headerTotals (fun finding => finding.place.invoiceId) data
      totalsBreak := by
  refine judges_of_collect _ (fun headers _ => rfl) fun header hmem => ?_
  have hheader := hdigits header hmem
  cases (hadmitted header hmem).verdict with
  | incomplete hnone hbreak =>
      refine ⟨none, ?_, hbreak.symm, by simp⟩
      dsimp only
      split
      · rename_i hincl hexcl hvat
        simp [hincl, hexcl, hvat] at hnone
      · rfl
  | @complete incl excl vat sum agrees hincl hexcl hvat hsum hmoderate hagree hbreak =>
      obtain ⟨number, inclText, exclText, vatText, hnumber, hinclText, hexclText, hvatText⟩ :=
        exists_totalsTexts hheader hincl hexcl hvat
      simp only [hincl, hexcl, hvat, hsum, Result.ok_bind, hagree]
      cases agrees with
      | true => exact ⟨none, rfl, hbreak.symm, by simp⟩
      | false =>
          simp only [hnumber, hinclText, hexclText, hvatText, Result.ok_bind,
            Bool.false_eq_true, if_false]
          refine ⟨some _, rfl, hbreak.symm, ?_⟩
          rintro finding ⟨⟩
          rfl

/-! ## The check of the pack -/

/-- The check of the pack for the equation of totals. -/
def Pint.totalsCheck : Record :=
  ((Pint.check? "UAE-UC1-CHK-025").map Pint.PackCheck.record).getD .empty

/-- The task of the check over a dataset. -/
def Pint.totalsTask (data : Dataset) : Pint.Task where
  check := Pint.totalsCheck
  parameters := .object [("tolerance", .ofFloat monetaryTolerance)]
  data := data

theorem Pint.toleranceOf_totalsTask (data : Dataset) :
    Pint.toleranceOf (Pint.totalsTask data) = .ok (.float monetaryTolerance) := by
  have hparameter : (Pint.totalsTask data).parameter "tolerance" =
      .ok (.ofFloat monetaryTolerance) := rfl
  have hnumber : (Value.ofFloat monetaryTolerance).toNumber? =
      some (.float monetaryTolerance) := rfl
  rw [Pint.toleranceOf, hparameter, Result.ok_bind]
  simp only [hnumber, ite_self]
  rfl

theorem Pint.runCheck_totalsCheck (data : Dataset) :
    Pint.runCheck Pint.totalsCheck.value data =
      collect data.headers
        (Pint.totalsCase (Pint.totalsTask data) (.float monetaryTolerance)) := by
  have hrecord : Pint.totalsCheck.value.record = .ok Pint.totalsCheck := rfl
  have hprocedure : Pint.procedureOf Pint.totalsCheck = .ok (some Pint.headerTotals) := rfl
  have hparameters : (Pint.totalsCheck.get "parameters").orElse (.object []) =
      .object [("tolerance", .ofFloat monetaryTolerance)] := rfl
  rw [Pint.runCheck, hrecord, Result.ok_bind, Pint.runRecord, hprocedure, Result.ok_bind]
  simp only [hparameters]
  rw [← Pint.totalsTask, Pint.headerTotals, Pint.toleranceOf_totalsTask, Result.ok_bind]
  rfl

theorem Pint.exists_report_totalsTask (data : Dataset) (observation : Pint.Observation) :
    ∃ found, (Pint.totalsTask data).report observation = .ok found ∧
      found.observation = observation := ⟨_, rfl, rfl⟩

theorem pint_judges {data : Dataset} (hdigits : ∀ h ∈ data.headers, h.value.withinDigits)
    (hadmitted : ∀ h ∈ data.headers, TotalsAdmitted h) :
    Judges (Pint.runCheck Pint.totalsCheck.value)
      (fun found => found.observation.place.invoiceId) data totalsBreak := by
  refine judges_of_collect
    (Pint.totalsCase (Pint.totalsTask data) (.float monetaryTolerance))
    (fun headers _ => Pint.runCheck_totalsCheck { data with headers }) fun header hmem => ?_
  have hheader := hdigits header hmem
  rw [Pint.totalsCase]
  cases (hadmitted header hmem).verdict with
  | incomplete hnone hbreak =>
      refine ⟨none, ?_, hbreak.symm, by simp⟩
      split
      · rename_i hincl hexcl hvat
        simp [hincl, hexcl, hvat] at hnone
      · rfl
  | @complete incl excl vat sum agrees hincl hexcl hvat hsum hmoderate hagree hbreak =>
      obtain ⟨number, inclText, exclText, vatText, hnumber, hinclText, hexclText, hvatText⟩ :=
        exists_totalsTexts hheader hincl hexcl hvat
      obtain ⟨sumText, hsumText⟩ := Number.exists_text hmoderate.withinDigits
      simp only [hincl, hexcl, hvat, hsum, Result.ok_bind, hagree]
      cases agrees with
      | true => exact ⟨none, rfl, hbreak.symm, by simp⟩
      | false =>
          simp only [Pint.numberText, hnumber, hinclText, hexclText, hvatText, hsumText,
            Result.ok_bind, Bool.false_eq_true, if_false]
          obtain ⟨found, hfound, hobservation⟩ := Pint.exists_report_totalsTask data {
            place := .ofHeader header
            field := .text "total_incl_vat"
            observed := inclText
            expected := sumText
            message := s!"Invoice {number}: Total with VAT ({inclText}) ≠ " ++
              s!"Excl VAT ({exclText}) + VAT ({vatText})" }
          rw [hfound]
          refine ⟨some found, rfl, hbreak.symm, ?_⟩
          rintro other ⟨⟩
          rw [hobservation]
          rfl

/-! ## Custom checks -/

namespace Custom

/-- The left side of the equation of totals. -/
def inclExpression : String := "\x7btotal_incl_vat\x7d"

/-- The right side of the equation of totals. -/
def sumExpression : String := "\x7btotal_excl_vat\x7d + \x7bvat_total\x7d"

/-- A custom check of the equation of totals: over all headers, with the tolerance that
checks have if they state none. Its name, severity and message are its own. -/
structure Check.ChecksTotals (check : Check) : Prop where
  scope : check.scope = .header
  rule : check.rule =
    .math (.text inclExpression) (.text sumExpression) (.text "=") monetaryTolerance
  condition : check.condition.isFilled = false

/-- A message template whose paths can be followed in each of some records. -/
def TemplateFits (template : Value) (records : List Record) : Prop :=
  ∃ s, template = .text s ∧
    ∀ r ∈ records, ∀ path ∈ Template.references s, ∃ v, r.value.resolve path = .ok v

theorem amount_inclExpression (r : Record) :
    Expression.amount inclExpression r.value =
      Expression.scalarOfCell "total_incl_vat" (r.get "total_incl_vat") := by
  have hread : Expression.ofValue (.text inclExpression) =
      .ok (.field "total_incl_vat") := by decide +kernel
  rw [← Expression.amountLookup_cell r (by decide), Expression.amount, hread]
  rfl

theorem amount_sumExpression (r : Record) :
    Expression.amount sumExpression r.value = (do
      let x ← Expression.scalarOfCell "total_excl_vat" (r.get "total_excl_vat")
      let y ← Expression.scalarOfCell "vat_total" (r.get "vat_total")
      Expression.applyOperator .add x y) := by
  have hread : Expression.ofValue (.text sumExpression) =
      .ok (.binary .add (.field "total_excl_vat") (.field "vat_total")) := by
    decide +kernel
  rw [← Expression.amountLookup_cell r (by decide),
    ← Expression.amountLookup_cell r (by decide), Expression.amount, hread]
  rfl

/-- The left side comes to the total of an admitted header, if it is a number. -/
theorem arithmetic_inclExpression {header : Record} (hadmitted : TotalsAdmitted header) :
    Expression.arithmetic (.text inclExpression) header.value =
      .ok (header.get "total_incl_vat").toNumber? :=
  Expression.arithmetic_cell (hadmitted.readsAlike _ (by decide))
    (amount_inclExpression header) fun _ hn => hadmitted.isFinite_eq_ok hn

/-- The right side comes to the sum of the other totals, if they are numbers. -/
theorem arithmetic_sumExpression {header : Record} (hdigits : header.value.withinDigits)
    (hadmitted : TotalsAdmitted header) :
    Expression.arithmetic (.text sumExpression) header.value =
      .ok ((header.get "total_excl_vat").sum? (header.get "vat_total")) := by
  refine Expression.arithmetic_sum (hadmitted.readsAlike _ (by decide))
    (hadmitted.readsAlike _ (by decide)) (Value.withinDigits_cell hdigits _)
    (Value.withinDigits_cell hdigits _) (amount_sumExpression header) ?_
  intro m n hm hn
  obtain ⟨sum, hsum, hmoderate⟩ := hadmitted.sum m n hm hn
  exact ⟨sum, hsum, hmoderate.isFinite_eq_ok⟩

theorem run_of_checksTotals {check : Check} (hcheck : check.ChecksTotals) (data : Dataset) :
    check.run data = collect data.headers
      (check.mathFinding data (.text inclExpression) (.text sumExpression) (.text "=")
        monetaryTolerance) := by
  have habsent : check.rule.absent = [] := by
    rw [hcheck.rule]
    rfl
  have hselected : check.selected data = .ok data.headers := by
    rw [Check.selected, hcheck.scope]
    refine Result.filterM_eq_ok_self fun r _ => ?_
    simp only [Expression.condition, hcheck.condition, Bool.not_false, if_true]
    rfl
  rw [Check.run, habsent, hselected, hcheck.rule]
  rfl

/-- A check can report about a record whose message it can make. -/
theorem Check.exists_report {check : Check} {data : Dataset} {r : Record} {extra : Members}
    {records : List Record} (field expected actual : Value)
    (htemplate : TemplateFits check.template records) (hmem : r ∈ records)
    (hdigits : r.value.withinDigits) (hextra : Value.membersWithinDigits extra)
    (hid : (r.get "invoice_id").isIdentifier) :
    ∃ finding, check.report data r extra field expected actual = .ok finding ∧
      finding.place.invoiceId = r.get "invoice_id" := by
  obtain ⟨s, hs, hpaths⟩ := htemplate
  have hmessage : ∃ message, Template.fillValue check.template r.value extra = .ok message := by
    rw [hs, Template.fillValue]
    split
    · exact ⟨_, rfl⟩
    · exact Template.exists_fill (hpaths r hmem) hdigits hextra
  obtain ⟨message, hmessage⟩ := hmessage
  obtain ⟨place, hplace, hinvoice⟩ := data.exists_coordinates hid
  rw [Check.report, hmessage, Result.ok_bind, hplace]
  exact ⟨_, rfl, hinvoice⟩

end Custom

theorem custom_judges {data : Dataset} (hdigits : ∀ h ∈ data.headers, h.value.withinDigits)
    (hadmitted : ∀ h ∈ data.headers, TotalsAdmitted h)
    (hids : Dataset.Identifies "invoice_id" data.headers) {check : Custom.Check}
    (hcheck : check.ChecksTotals) (htemplate : Custom.TemplateFits check.template data.headers) :
    Judges check.run (fun finding => finding.place.invoiceId) data totalsBreak := by
  refine judges_of_collect
    (check.mathFinding data (.text Custom.inclExpression) (.text Custom.sumExpression)
      (.text "=") monetaryTolerance)
    (fun headers _ => Custom.run_of_checksTotals hcheck { data with headers })
    fun header hmem => ?_
  have hheader := hdigits header hmem
  have hadmitted := hadmitted header hmem
  rw [Custom.Check.mathFinding, Custom.arithmetic_inclExpression hadmitted, Result.ok_bind,
    Custom.arithmetic_sumExpression hheader hadmitted, Result.ok_bind]
  cases hadmitted.verdict with
  | incomplete hnone hbreak =>
      refine ⟨none, ?_, hbreak.symm, by simp⟩
      split
      · rename_i hinclSome hsumSome
        obtain ⟨⟨excl, hexcl⟩, ⟨vat, hvat⟩⟩ := Value.toNumber?_of_sum? hsumSome
        simp [hinclSome, hexcl, hvat] at hnone
      · rfl
  | @complete incl excl vat sum agrees hinclNumber hexcl hvat hadd hmoderate hagree hbreak =>
      have hsumNumber :
          (header.get "total_excl_vat").sum? (header.get "vat_total") = some sum := by
        rw [Value.sum?, hexcl, hvat]
        simp only [hadd]
        rfl
      have hholds : Custom.Check.holds (.text "=") incl sum monetaryTolerance = .ok agrees := hagree
      simp only [hinclNumber, hsumNumber, hholds, Result.ok_bind]
      cases agrees with
      | true => exact ⟨none, rfl, hbreak.symm, by simp⟩
      | false =>
          have hinclDigits := Value.withinDigits_of_toNumber?
            (Value.withinDigits_cell hheader "total_incl_vat") hinclNumber
          have hextra : Value.membersWithinDigits
              [("left", .number incl), ("right", .number sum)] := by
            rw [Value.membersWithinDigits, Value.membersWithinDigits,
              Value.membersWithinDigits, hinclDigits, hmoderate.withinDigits]
            rfl
          obtain ⟨finding, hfinding, hinvoice⟩ :=
            Custom.Check.exists_report (.text Custom.inclExpression) (.number sum)
              (.number incl) htemplate hmem hheader hextra (hids header hmem)
          rw [if_neg Bool.false_ne_true, hfinding]
          refine ⟨some finding, rfl, hbreak.symm, ?_⟩
          rintro other ⟨⟩
          exact hinvoice

/-- **The three checks of the equation of totals flag the same headers.** Over a dataset
whose headers can be shown and whose totals are admitted, the baseline check, the check
of the pack and every custom check of the equation judge the headers one by one, and
each of them finds something in exactly those whose totals break the equation. -/
theorem headerTotals_judge_alike {buyers headers lines : List Record} {data : Dataset}
    (hdata : Dataset.ofRecords buyers headers lines = .ok data)
    (hdigits : ∀ h ∈ headers, h.value.withinDigits)
    (hadmitted : ∀ h ∈ headers, TotalsAdmitted h)
    {check : Custom.Check} (hcheck : check.ChecksTotals)
    (htemplate : Custom.TemplateFits check.template headers) :
    Judges Baseline.headerTotals (fun finding => finding.place.invoiceId) data
        totalsBreak ∧
      Judges (Pint.runCheck Pint.totalsCheck.value)
        (fun found => found.observation.place.invoiceId) data totalsBreak ∧
      Judges check.run (fun finding => finding.place.invoiceId) data totalsBreak := by
  obtain ⟨hheaders, hids⟩ := Dataset.headers_of_ofRecords hdata
  rw [← hheaders] at hdigits hadmitted htemplate hids
  exact ⟨baseline_judges hdigits hadmitted, pint_judges hdigits hadmitted,
    custom_judges hdigits hadmitted hids hcheck htemplate⟩

/-- The configuration of a custom check of the equation of totals, as users write it. -/
def Custom.totalsConfig : Value :=
  .object [
    ("name", .text "Totals"),
    ("rule_type", .text "math"),
    ("dataset_scope", .text "header"),
    ("message_template", .text "\x7binvoice_id\x7d: \x7bleft\x7d is not \x7bright\x7d"),
    ("parameters", .object [
      ("left_expression", .text Custom.inclExpression),
      ("right_expression", .text Custom.sumExpression),
      ("operator", .text "=")])]

/-- A header with an identifier and its three totals. -/
def headerOfTotals (id incl excl vat : Value) : Record :=
  ⟨[("invoice_id", id), ("total_incl_vat", incl), ("total_excl_vat", excl),
    ("vat_total", vat)]⟩

/-- The three checks agree on a header with a text that breaks the equation, and on one
with a truth value and no tax, which none of them flags. -/
theorem headerTotals_judge_alike_mixed :
    let headers := [
      headerOfTotals (.ofInt 1) (.text "105.02") (.ofInt 100) (.ofInt 5),
      headerOfTotals (.ofInt 2) (.ofInt 105) (.bool true) .null]
    ∃ data check, Dataset.ofRecords [] headers [] = .ok data ∧
      Custom.Check.ofValue Custom.totalsConfig = .ok check ∧
      headers.map totalsBreak = [true, false] ∧
      Judges Baseline.headerTotals (fun finding => finding.place.invoiceId) data
        totalsBreak ∧
      Judges (Pint.runCheck Pint.totalsCheck.value)
        (fun found => found.observation.place.invoiceId) data totalsBreak ∧
      Judges check.run (fun finding => finding.place.invoiceId) data totalsBreak := by
  intro headers
  have hids : Dataset.Identifies "invoice_id" headers := by
    simp [headers, headerOfTotals, Dataset.Identifies, Record.get, Members.get,
      Value.isIdentifier, Value.ofInt]
  obtain ⟨data, hdata, -⟩ := Dataset.ofRecords_joins [] headers []
    (by simp [Dataset.Identifies]) hids (by simp [Dataset.Identifies])
  have hfirst : TotalsAdmitted
      (headerOfTotals (.ofInt 1) (.text "105.02") (.ofInt 100) (.ofInt 5)) := by
    have hfinite : (readNumber? (trim "105.02")).all Binary64.isFinite := by decide +kernel
    have hincl : (Value.text "105.02").toNumber? =
        (readNumber? (trim "105.02")).map .float := by rw [Value.toNumber?]
    have hsum : Number.IsModerate (.whole 105) := by
      unfold Number.IsModerate
      decide +kernel
    constructor
    · simp only [totalCells, List.forall_mem_cons]
      refine ⟨?_, ?_, ?_, by simp⟩
      · intro x hx
        obtain ⟨y, hy, ⟨⟩⟩ := Option.map_eq_some_iff.1 (hincl.symm.trans hx)
        rwa [hy] at hfinite
      · rintro x ⟨⟩
      · rintro x ⟨⟩
    · rintro excl vat ⟨⟩ ⟨⟩
      exact ⟨.whole 105, rfl, hsum⟩
    · intro n hn
      obtain ⟨y, -, ⟨⟩⟩ := Option.map_eq_some_iff.1 (hincl.symm.trans hn)
    · simp only [totalCells, List.forall_mem_cons]
      refine ⟨?_, ?_, ?_, by simp⟩
      · exact Value.readsAlike_of_margins (by decide)
      · rintro s ⟨⟩
      · rintro s ⟨⟩
  have hsecond : TotalsAdmitted
      (headerOfTotals (.ofInt 2) (.ofInt 105) (.bool true) .null) := by
    constructor
    · simp only [totalCells, List.forall_mem_cons]
      refine ⟨?_, ?_, ?_, by simp⟩ <;> rintro x ⟨⟩
    · rintro excl vat ⟨⟩
    · rintro n ⟨⟩
      decide +kernel
    · simp only [totalCells, List.forall_mem_cons]
      refine ⟨?_, ?_, ?_, by simp⟩ <;> rintro s ⟨⟩
  refine ⟨data, _, hdata, rfl, by decide +kernel, ?_⟩
  refine headerTotals_judge_alike hdata ?_ ?_ ⟨rfl, rfl, rfl⟩ ⟨_, rfl, ?_⟩
  · simp only [headers, List.forall_mem_cons, List.not_mem_nil, false_imp_iff, implies_true,
      and_true]
    decide +kernel
  · simp only [headers, List.forall_mem_cons, List.not_mem_nil, false_imp_iff, implies_true,
      and_true]
    exact ⟨hfirst, hsecond⟩
  · intro r hr path hpath
    have hpaths : Template.references "\x7binvoice_id\x7d: \x7bleft\x7d is not \x7bright\x7d" =
        ["invoice_id", "left", "right"] := by decide +kernel
    have hsegments : ∀ path ∈ ["invoice_id", "left", "right"],
        Value.segments path = [path.toList] := by decide
    rw [hpaths] at hpath
    exact ⟨_, Expression.resolve_cell r (hsegments path hpath)⟩

/-- Where the checks differ. A text padded with an information separator is read by the
baseline check, which flags the header, and not by an amount of an expression; and a
total beyond the range of binary64 leaves an amount with a fault, though the equation
lacks its other totals. -/
theorem headerTotals_differ :
    let found (run : Dataset → Result (List Finding)) (header : Record) : Result Nat := do
      let data ← Dataset.ofRecords [] [header] []
      return (← run data).length
    let custom (data : Dataset) : Result (List Finding) := do
      (← Custom.Check.ofValue Custom.totalsConfig).run data
    let padded := headerOfTotals (.text "A") (.text "\x1c12") (.ofInt 1) (.ofInt 1)
    let large := headerOfTotals (.text "B") (.ofNat (tenPow 400)) .null .null
    found Baseline.headerTotals padded = .ok 1 ∧ found custom padded = .ok 0 ∧
      found Baseline.headerTotals large = .ok 0 ∧
      found custom large = .error .numberTooLarge := by
  decide +kernel

end InvoiceReadiness
