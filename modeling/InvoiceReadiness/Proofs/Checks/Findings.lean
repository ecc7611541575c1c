import InvoiceReadiness.Proofs.Checks.Duplicates
import InvoiceReadiness.Proofs.Checks.HeaderTotals
import InvoiceReadiness.Proofs.Checks.Places
import InvoiceReadiness.Proofs.Dataset.Flagged
import InvoiceReadiness.Proofs.Value.Blanks

/-!
# What the baseline checks report

Each baseline check flags records of one kind, for a reason that can be read off the
record and what the dataset joins to it. Where a check ends well, its findings are about
the records that it flags, and about all of them: no finding comes from elsewhere, and no
flagged record is passed over. A check that meets a fault reports nothing in a run.

## Main results

* `Check.Flags` — the records that a check flags.
* `Check.run_reports` — a check that ends well reports these, and no others.
* `Check.exists_isAbout_iff` — which records a run reports.
-/

namespace InvoiceReadiness

namespace Baseline

/-! ## Reasons to flag a record -/

/-- A number is there and is no tax registration number. -/
def trnBreaks (buyer : Record) : Bool :=
  !(buyer.get "buyer_trn").isVacant &&
    (buyer.get "buyer_trn").isTrn.toOption.any fun isTrn => !isTrn

/-- One of the mandatory cells of a header is vacant. -/
def lacksMandatory (header : Record) : Bool :=
  mandatoryCells.any fun cell => (header.get cell).isVacant

/-- A header names no buyer, or one that is not among the buyers. -/
def buyerUnknown (data : Dataset) (header : Record) : Bool :=
  (header.get "buyer_id").isVacant ||
    (header.get "buyer_id").key.toOption.any fun key => !data.buyerIndex.has key

/-- The lines of a header have more than one VAT rate and an amount that is taxed, and the
header has no VAT total, or one of zero. -/
def mixesRates (data : Dataset) (header : Record) : Bool :=
  (data.linesFor (header.get "invoice_id")).toOption.any fun lines =>
    2 ≤ countRates (lines.map fun line => (line.get "vat_rate").toNumber?) &&
      (lines.any fun line => Number.zero.lt (line.get "line_total_excl_vat").amount) &&
      !(header.get "vat_total").amount.isNonzero

/-- The amounts of a line are numbers, and its total is not the price of its quantity less
the discount. -/
def lineTotalBreaks (line : Record) : Bool :=
  match (line.get "quantity").toNumber?, (line.get "unit_price").toNumber?,
      (line.get "line_total_excl_vat").toNumber? with
  | some quantity, some price, some total =>
    let agrees : Result Bool := do
      total.agree (← (← quantity.mul price).sub (line.get "line_discount").amount)
        (.float monetaryTolerance)
    agrees.toOption.any fun agrees => !agrees
  | _, _, _ => false

/-- The amounts of a line are numbers, and its VAT is not the rate of its total. -/
def lineVatBreaks (line : Record) : Bool :=
  match (line.get "line_total_excl_vat").toNumber?, (line.get "vat_rate").toNumber?,
      (line.get "vat_amount").toNumber? with
  | some total, some rate, some vat =>
    let agrees : Result Bool := do
      vat.agree (← total.mul (← rate.div (.whole 100))) (.float monetaryTolerance)
    agrees.toOption.any fun agrees => !agrees
  | _, _, _ => false

/-- The total of a line is a number, and not one from zero up. -/
def isNegative (line : Record) : Bool :=
  (line.get "line_total_excl_vat").toNumber?.any fun total => !Number.zero.le total

/-- The header of a line is one, and its type is not that of a credit note. -/
def lacksCreditNote (data : Dataset) (line : Record) : Bool :=
  (data.headerFor line).toOption.any fun header =>
    header.any fun header => !(header.get "invoice_type").same (.text "CREDIT_NOTE")

/-- A header shares its key with another one. -/
def sharesNumber (data : Dataset) (header : Record) : Prop :=
  ∃ before after, data.headers = before ++ header :: after ∧
    ∃ other ∈ before ++ after, SharesKey keyParts header other

/-- The records that a check flags. -/
def Check.Flags (data : Dataset) (r : Record) : Check → Prop
  | buyerTrnMissing => (r.get "buyer_trn").isVacant
  | buyerTrnFormat => trnBreaks r
  | duplicateNumber => sharesNumber data r
  | headerTotals => totalsBreak r
  | lineTotals => lineTotalBreaks r
  | vatCalculation => lineVatBreaks r
  | negativeTotal => isNegative r ∧ lacksCreditNote data r
  | buyerNotFound => buyerUnknown data r
  | mandatoryFields => lacksMandatory r
  | mixedVatRates => mixesRates data r

/-- The records that a check looks at. -/
def Check.looksAt (check : Check) (data : Dataset) : List Record :=
  data.records check.category.kind

/-- Where a finding about a record stands: at a buyer, at a header, or at a line and its
header. -/
def placeOf (data : Dataset) (r : Record) : RecordKind → Result Coordinates
  | .buyers => .ok { Coordinates.nowhere with buyerId := r.get "buyer_id" }
  | .headers => .ok { Coordinates.ofHeader r with buyerId := .null }
  | .lines => data.coordinates r

/-- A place without what only some of the checks tell: the buyer of a header. -/
def commonPlace (place : Coordinates) : RecordKind → Coordinates
  | .headers => { place with buyerId := .null }
  | _ => place

/-- A finding is one of the check, and about a record. -/
def Check.IsAbout (check : Check) (data : Dataset) (r : Record) (f : Finding) : Prop :=
  f.checkId = .text check.id ∧
    placeOf data r check.category.kind = .ok (commonPlace f.place check.category.kind)

/-! ## Amounts that are not all numbers -/

/-- What the check computes with is there, or nothing breaks. -/
theorem not_totalsBreak {header : Record} (hnone : ∀ incl excl vat,
    (header.get "total_incl_vat").toNumber? = some incl →
    (header.get "total_excl_vat").toNumber? = some excl →
    (header.get "vat_total").toNumber? = some vat → False) : ¬totalsBreak header := by
  rw [totalsBreak]
  split
  · rename_i incl excl vat hincl hexcl hvat
    exact (hnone incl excl vat hincl hexcl hvat).elim
  · exact Bool.false_ne_true

theorem not_lineTotalBreaks {line : Record} (hnone : ∀ quantity price total,
    (line.get "quantity").toNumber? = some quantity →
    (line.get "unit_price").toNumber? = some price →
    (line.get "line_total_excl_vat").toNumber? = some total → False) :
    ¬lineTotalBreaks line := by
  rw [lineTotalBreaks]
  split
  · rename_i quantity price total hquantity hprice htotal
    exact (hnone quantity price total hquantity hprice htotal).elim
  · exact Bool.false_ne_true

theorem not_lineVatBreaks {line : Record} (hnone : ∀ total rate vat,
    (line.get "line_total_excl_vat").toNumber? = some total →
    (line.get "vat_rate").toNumber? = some rate →
    (line.get "vat_amount").toNumber? = some vat → False) : ¬lineVatBreaks line := by
  rw [lineVatBreaks]
  split
  · rename_i total rate vat htotal hrate hvat
    exact (hnone total rate vat htotal hrate hvat).elim
  · exact Bool.false_ne_true

/-! ## What each check says -/

section Checks

variable {data : Dataset} {r : Record}

/-- The findings of a check are about the records that it flags, and about all of them. -/
def Check.Reports (check : Check) (data : Dataset) (found : List Finding) : Prop :=
  ReportsExactly (check.looksAt data) (fun r => check.Flags data r)
    (fun r => check.IsAbout data r) found

theorem Check.isAbout_report {check : Check} {message : String} {place : Coordinates}
    {field expected actual : Value} (h : placeOf data r check.category.kind =
      .ok (commonPlace place check.category.kind)) :
    check.IsAbout data r (check.report message place field expected actual) := ⟨rfl, h⟩

theorem buyerTrnMissing_reports :
    Yields (Check.buyerTrnMissing.Reports data) (buyerTrnMissing data) := by
  refine reportsExactly_of_collect fun buyer _ => ?_
  simp only [Yields.bind_iff, Yields.ite_iff, Yields.pure_iff, says_none, says_some]
  intro blank hblank
  have hvacant := Value.isVacant_of_isBlank hblank
  refine ⟨fun hnot => ?_, fun hblank name _ id _ => ⟨?_, Check.isAbout_report rfl⟩⟩
  · simpa [Check.Flags, hvacant] using hnot
  · simpa [Check.Flags, hvacant] using hblank

theorem buyerTrnFormat_reports :
    Yields (Check.buyerTrnFormat.Reports data) (buyerTrnFormat data) := by
  refine reportsExactly_of_collect fun buyer _ => ?_
  simp only [Yields.bind_iff, Yields.ite_iff, Yields.pure_iff, says_none, says_some]
  intro blank hblank
  have hvacant := Value.isVacant_of_isBlank hblank
  refine ⟨fun hblank => ?_, fun hfilled isTrn htrn => ⟨fun hyes => ?_,
    fun hno name _ text _ => ⟨?_, Check.isAbout_report rfl⟩⟩⟩
  · simp [Check.Flags, trnBreaks, hvacant, hblank]
  · simp [Check.Flags, trnBreaks, htrn, hyes, Except.toOption]
  · simp_all [Check.Flags, trnBreaks, Except.toOption]

theorem headerTotals_reports : Yields (Check.headerTotals.Reports data) (headerTotals data) := by
  refine reportsExactly_of_collect fun header _ => ?_
  split
  · rename_i incl excl vat hincl hexcl hvat
    simp only [Yields.bind_iff, Yields.ite_iff, Yields.pure_iff, says_none, says_some]
    intro expected hexpected agrees hagrees
    have hflags : Check.headerTotals.Flags data header ↔ agrees = false := by
      simp [Check.Flags, totalsBreak, hincl, hexcl, hvat, hexpected, hagrees]
    refine ⟨fun hyes => ?_, fun hno number _ inclText _ exclText _ vatText _ => ?_⟩
    · simp [hflags, hyes]
    · exact ⟨hflags.2 (by simpa using hno), Check.isAbout_report rfl⟩
  · rename_i hnone
    rw [Yields.pure_iff, says_none]
    exact not_totalsBreak hnone

theorem lineTotals_reports : Yields (Check.lineTotals.Reports data) (lineTotals data) := by
  refine reportsExactly_of_collect fun line _ => ?_
  split
  · rename_i quantity price total hquantity hprice htotal
    simp only [Yields.bind_iff, Yields.ite_iff, Yields.pure_iff, says_none, says_some]
    intro product hproduct expected hexpected agrees hagrees
    have hflags : Check.lineTotals.Flags data line ↔ agrees = false := by
      simp [Check.Flags, lineTotalBreaks, hquantity, hprice, htotal, hproduct, hexpected,
        hagrees, Except.toOption]
    refine ⟨fun hyes => ?_, fun hno number _ totalText _ quantityText _ priceText _
      discountText _ place hplace => ?_⟩
    · simp [hflags, hyes]
    · exact ⟨hflags.2 (by simpa using hno), Check.isAbout_report hplace⟩
  · rename_i hnone
    rw [Yields.pure_iff, says_none]
    exact not_lineTotalBreaks hnone

theorem vatCalculation_reports :
    Yields (Check.vatCalculation.Reports data) (vatCalculation data) := by
  refine reportsExactly_of_collect fun line _ => ?_
  split
  · rename_i total rate vat htotal hrate hvat
    simp only [Yields.bind_iff, Yields.ite_iff, Yields.pure_iff, says_none, says_some]
    intro share hshare expected hexpected agrees hagrees
    have hflags : Check.vatCalculation.Flags data line ↔ agrees = false := by
      simp [Check.Flags, lineVatBreaks, htotal, hrate, hvat, hshare, hexpected, hagrees,
        Except.toOption]
    refine ⟨fun hyes => ?_, fun hno number _ vatText _ totalText _ rateText _ place hplace
      expectedText _ => ?_⟩
    · simp [hflags, hyes]
    · exact ⟨hflags.2 (by simpa using hno), Check.isAbout_report hplace⟩
  · rename_i hnone
    rw [Yields.pure_iff, says_none]
    exact not_lineVatBreaks hnone

theorem negativeTotal_reports :
    Yields (Check.negativeTotal.Reports data) (negativeTotal data) := by
  refine reportsExactly_of_collect fun line _ => ?_
  split
  · rename_i hnone
    simp [Check.Flags, isNegative, hnone]
  · rename_i total htotal
    simp only [Yields.bind_iff, Yields.ite_iff, Yields.pure_iff, says_none]
    refine ⟨fun hpositive => ?_, fun hnegative header hheader => ?_⟩
    · simp [Check.Flags, isNegative, htotal, hpositive]
    · have hnegative : isNegative line := by simpa [isNegative, htotal] using hnegative
      cases header with
      | none => simp [Check.Flags, lacksCreditNote, hheader, Except.toOption]
      | some header =>
          simp only [Yields.bind_iff, Yields.ite_iff, Yields.pure_iff, says_none, says_some]
          refine ⟨fun hcredit => ?_, fun hother number _ totalText _ typeText _ place hplace => ?_⟩
          · simp [Check.Flags, lacksCreditNote, hheader, hcredit, Except.toOption]
          · have htype : lacksCreditNote data line := by
              simpa [lacksCreditNote, hheader, Except.toOption] using hother
            exact ⟨⟨hnegative, htype⟩, Check.isAbout_report hplace⟩

theorem buyerNotFound_reports :
    Yields (Check.buyerNotFound.Reports data) (buyerNotFound data) := by
  refine reportsExactly_of_collect fun header _ => ?_
  simp only [Yields.bind_iff, Yields.ite_iff, Yields.pure_iff, says_none, says_some]
  intro blank hblank
  have hvacant := Value.isVacant_of_isBlank hblank
  refine ⟨fun hblank number _ => ⟨?_, Check.isAbout_report rfl⟩, fun hfilled key hkey =>
    ⟨fun hknown => ?_, fun hunknown number _ text _ => ⟨?_, Check.isAbout_report rfl⟩⟩⟩
  · simp [Check.Flags, buyerUnknown, hvacant, hblank]
  · simp_all [Check.Flags, buyerUnknown, Except.toOption]
  · simp_all [Check.Flags, buyerUnknown, Except.toOption]

theorem mixesRates_eq {lines : List Record}
    (hlines : data.linesFor (r.get "invoice_id") = .ok lines) :
    mixesRates data r = !(decide (countRates (lines.map fun line =>
      (line.get "vat_rate").toNumber?) < 2) || !(lines.any fun line =>
        Number.zero.lt (line.get "line_total_excl_vat").amount) ||
      (r.get "vat_total").amount.isNonzero) := by
  have hseveral (n : Nat) : decide (2 ≤ n) = !decide (n < 2) := by
    rw [← decide_not, decide_eq_decide, Nat.not_lt]
  simp [mixesRates, hlines, hseveral, Except.toOption]

/-- The check for mixed rates says one thing about each header that it flags. -/
theorem mixedVatRates_reports_each :
    Yields (ReportsEach data.headers (fun r => Check.mixedVatRates.Flags data r)
      (fun r => Check.mixedVatRates.IsAbout data r)) (mixedVatRates data) := by
  refine reportsEach_of_collect fun header _ => ?_
  simp only [Yields.bind_iff, Yields.ite_iff, Yields.pure_iff, says_none, says_some]
  intro lines hlines
  refine ⟨fun hnot => ?_, fun hmixed number _ vatText _ => ⟨?_, Check.isAbout_report rfl⟩⟩
  · rw [Check.Flags, mixesRates_eq hlines, hnot]
    exact Bool.false_ne_true
  · rw [Check.Flags, mixesRates_eq hlines, eq_false_of_ne_true hmixed]
    rfl

theorem mixedVatRates_reports :
    Yields (Check.mixedVatRates.Reports data) (mixedVatRates data) := fun _ hfound =>
  (mixedVatRates_reports_each hfound).reportsExactly

/-- The check for mandatory cells says something about a header for each of them. -/
theorem mandatoryFields_reports :
    Yields (Check.mandatoryFields.Reports data) (mandatoryFields data) := by
  refine reportsExactly_of_flatten fun header _ part hpart => ?_
  have hsound : ∀ f ∈ part, lacksMandatory header ∧
      Check.mandatoryFields.IsAbout data header f := by
    refine Yields.filterMapM (fun cell hcell => ?_) hpart
    simp only [Yields.bind_iff, Yields.ite_iff, Yields.pure_iff]
    refine fun blank hblank => ⟨fun _ => ?_, fun hyes label _ => ?_⟩
    · rintro f ⟨⟩
    · rintro f ⟨⟩
      have hvacant := Value.isVacant_of_isBlank hblank
      refine ⟨List.any_eq_true.2 ⟨cell, hcell, ?_⟩, Check.isAbout_report rfl⟩
      simpa [hvacant] using hyes
  refine ⟨⟨fun hne => ?_, fun hlacks => ?_⟩, fun f hf => (hsound f hf).2⟩
  · obtain ⟨f, hf⟩ := List.exists_mem_of_ne_nil part hne
    exact (hsound f hf).1
  · obtain ⟨cell, hcell, hvacant⟩ := List.any_eq_true.1 hlacks
    obtain ⟨said, hsaid, hkept⟩ := exists_said_of_filterMapM hpart hcell
    obtain ⟨blank, hblank, hsaid⟩ := Result.bind_eq_ok.1 hsaid
    obtain rfl := (Value.isVacant_of_isBlank hblank).symm.trans hvacant
    obtain ⟨label, -, ⟨⟩⟩ := Result.bind_eq_ok.1 hsaid
    exact List.ne_nil_of_mem (hkept _ rfl)

theorem isAbout_reportDuplicate {count : Nat} {f : Finding}
    (h : reportDuplicate count r = .ok f) : Check.duplicateNumber.IsAbout data r f := by
  obtain ⟨number, -, h⟩ := Result.bind_eq_ok.1 h
  obtain ⟨seller, -, ⟨⟩⟩ := Result.bind_eq_ok.1 h
  exact Check.isAbout_report rfl

theorem duplicateNumber_reports :
    Yields (Check.duplicateNumber.Reports data) (duplicateNumber data) := by
  rw [duplicateNumber_eq_reportGroups]
  intro found hfound
  refine ⟨fun f hf => ?_, ?_⟩
  · obtain ⟨before, header, after, others, hsplit, hsub, hne, hshares, hreport⟩ :=
      reportsShared_of_mem length_keyParts hfound hf
    obtain ⟨other, hother⟩ := List.exists_mem_of_ne_nil others hne
    have hmem := hsub.subset hother
    have hheader : header ∈ data.headers := by
      rw [hsplit]
      exact List.mem_append_right before List.mem_cons_self
    exact ⟨header, hheader, ⟨before, after, hsplit, other, hmem, (hshares other hmem).1 hother⟩,
      isAbout_reportDuplicate hreport⟩
  · rintro header - ⟨before, after, hsplit, other, hother, hkey⟩
    rw [hsplit] at hfound
    obtain ⟨count, f, hf, hreport⟩ :=
      exists_report_of_sharesKey length_keyParts hfound hother hkey
    exact ⟨f, hf, isAbout_reportDuplicate hreport⟩

/-! ## All checks -/

/-- A check that ends well reports the records that it flags, each of them and no others. -/
theorem Check.run_reports (check : Check) (data : Dataset) :
    Yields (check.Reports data) (check.run data) := by
  cases check with
  | buyerTrnMissing => exact buyerTrnMissing_reports
  | buyerTrnFormat => exact buyerTrnFormat_reports
  | duplicateNumber => exact duplicateNumber_reports
  | headerTotals => exact headerTotals_reports
  | lineTotals => exact lineTotals_reports
  | vatCalculation => exact vatCalculation_reports
  | negativeTotal => exact negativeTotal_reports
  | buyerNotFound => exact buyerNotFound_reports
  | mandatoryFields => exact mandatoryFields_reports
  | mixedVatRates => exact mixedVatRates_reports

/-- In a run, there is a finding about a record if and only if the check ends well and flags
the record, or one that stands at the same place. -/
theorem Check.exists_isAbout_iff (check : Check) (data : Dataset) (r : Record) :
    (∃ f ∈ (check.outcome data).findings, check.IsAbout data r f) ↔
      Returns (check.run data) ∧ ∃ twin ∈ check.looksAt data, check.Flags data twin ∧
        placeOf data twin check.category.kind = placeOf data r check.category.kind := by
  have hfindings : (check.outcome data).findings = (check.run data).toOption.getD [] := rfl
  rw [hfindings]
  cases hrun : check.run data with
  | error fault => exact iff_of_false (by rintro ⟨f, ⟨⟩, -⟩) (by rintro ⟨⟨found, ⟨⟩⟩, -⟩)
  | ok found =>
      have hreports := check.run_reports data hrun
      constructor
      · rintro ⟨f, hf, hid, hplace⟩
        obtain ⟨twin, htwin, hflags, -, hplace'⟩ := hreports.sound f hf
        exact ⟨⟨found, rfl⟩, twin, htwin, hflags, hplace'.trans hplace.symm⟩
      · rintro ⟨-, twin, htwin, hflags, hplace⟩
        obtain ⟨f, hf, hid, hplace'⟩ := hreports.complete twin htwin hflags
        exact ⟨f, hf, hid, hplace.symm.trans hplace'⟩

end Checks

end Baseline

end InvoiceReadiness
