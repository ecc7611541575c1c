import InvoiceReadiness.Proofs.Checks.Findings

/-!
# Records that a check of amounts passes over

Three baseline checks compute with amounts and pass over a record on which one of them is
no number. Nothing else in a run asks whether the amounts are there: the check for
mandatory cells looks at five cells of a header, none of which is an amount, and no check
looks for cells that a line lacks. So a record that is passed over is reported only for
reasons of its own, and a header without any totals can pass the whole run.

## Main results

* `Check.not_flags_of_skips` — a check does not flag what it passes over.
* `skipped_reported_iff` — what else a run reports such a record for.
* `skipped_unreported` — records that are passed over and not reported at all.
-/

namespace InvoiceReadiness.Baseline

/-- The amounts that a check cannot do without. -/
def Check.amounts : Check → List String
  | headerTotals => totalCells
  | lineTotals => ["quantity", "unit_price", "line_total_excl_vat"]
  | vatCalculation => ["line_total_excl_vat", "vat_rate", "vat_amount"]
  | _ => []

/-- One of the amounts is absent or no number. -/
def Check.Skips (check : Check) (r : Record) : Prop :=
  ∃ cell ∈ check.amounts, (r.get cell).toNumber? = none

variable {data : Dataset} {r : Record}

/-- Three amounts of which one is no number are not three numbers. -/
theorem not_numbers_of_mem {cells : List String} {a b c cell : String} {x y z : Number}
    (hcells : cells = [a, b, c]) (hcell : cell ∈ cells) (hnone : (r.get cell).toNumber? = none)
    (ha : (r.get a).toNumber? = some x) (hb : (r.get b).toNumber? = some y)
    (hc : (r.get c).toNumber? = some z) : False := by
  rw [hcells] at hcell
  simp only [List.mem_cons, List.not_mem_nil, or_false] at hcell
  rcases hcell with rfl | rfl | rfl
  · exact nomatch hnone.symm.trans ha
  · exact nomatch hnone.symm.trans hb
  · exact nomatch hnone.symm.trans hc

theorem Check.not_flags_of_skips {check : Check} (h : check.Skips r) :
    ¬check.Flags data r := by
  obtain ⟨cell, hcell, hnone⟩ := h
  cases check with
  | headerTotals => exact not_totalsBreak fun _ _ _ => not_numbers_of_mem rfl hcell hnone
  | lineTotals => exact not_lineTotalBreaks fun _ _ _ => not_numbers_of_mem rfl hcell hnone
  | vatCalculation => exact not_lineVatBreaks fun _ _ _ => not_numbers_of_mem rfl hcell hnone
  | _ => cases hcell

/-- A line whose total is no number is flagged by no check of lines. -/
theorem not_flags_of_no_total (hnone : (r.get "line_total_excl_vat").toNumber? = none)
    {check : Check} (hkind : check.category.kind = .lines) : ¬check.Flags data r := by
  have hskips (hcell : "line_total_excl_vat" ∈ check.amounts) : check.Skips r :=
    ⟨_, hcell, hnone⟩
  cases check with
  | lineTotals => exact Check.not_flags_of_skips (hskips (by decide))
  | vatCalculation => exact Check.not_flags_of_skips (hskips (by decide))
  | negativeTotal =>
      rintro ⟨hnegative, -⟩
      rw [isNegative, hnone] at hnegative
      cases hnegative
  | _ => cases hkind

/-- The other checks of records of the same kind. -/
def Check.peers (check : Check) : List Check :=
  all.filter fun other => other != check && other.category.kind == check.category.kind

/-- A finding of another check is about a record. -/
def ReportedBesides (data : Dataset) (check : Check) (r : Record) : Prop :=
  ∃ other ∈ check.peers, ∃ f ∈ (other.outcome data).findings, other.IsAbout data r f

/-- One of the records that stand where a record does is like that. -/
def HasTwin (data : Dataset) (kind : RecordKind) (r : Record) (P : Record → Prop) : Prop :=
  ∃ twin ∈ data.records kind, placeOf data twin kind = placeOf data r kind ∧ P twin

theorem kind_of_mem_peers {check other : Check} (h : other ∈ check.peers) :
    other.category.kind = check.category.kind := by
  have hboth := (List.mem_filter.1 h).2
  rw [Bool.and_eq_true, beq_iff_eq] at hboth
  exact hboth.2

/-- A run reports a record besides if another check ends well and flags it, or a record that
stands where it does. -/
theorem reportedBesides_iff (data : Dataset) (check : Check) (r : Record) :
    ReportedBesides data check r ↔ HasTwin data check.category.kind r fun twin =>
      ∃ other ∈ check.peers, Returns (other.run data) ∧ other.Flags data twin := by
  constructor
  · rintro ⟨other, hother, hreported⟩
    obtain ⟨hreturns, twin, htwin, hflags, hplace⟩ := (other.exists_isAbout_iff data r).1 hreported
    rw [Check.looksAt, kind_of_mem_peers hother] at htwin
    rw [kind_of_mem_peers hother] at hplace
    exact ⟨twin, htwin, hplace, other, hother, hreturns, hflags⟩
  · rintro ⟨twin, htwin, hplace, other, hother, hreturns, hflags⟩
    rw [← kind_of_mem_peers hother] at htwin hplace
    exact ⟨other, hother, (other.exists_isAbout_iff data r).2
      ⟨hreturns, twin, htwin, hflags, hplace⟩⟩

/-- Take a record with an amount that is absent or no number. The check that computes with it
does not flag the record. A run has a finding of another check about a header if and only if
one of four checks ends well and has a reason to flag the header, or one with the same
identifiers; none of the reasons is that a total is absent. About a line there is one if and
only if its other amounts break, or its total is negative; so about a line whose own total is
absent no check has anything to say. -/
theorem skipped_reported_iff (data : Dataset) :
    (∀ h ∈ data.headers, Check.headerTotals.Skips h →
      ¬Check.headerTotals.Flags data h ∧
      (ReportedBesides data .headerTotals h ↔ HasTwin data .headers h fun twin =>
        (Returns (Check.duplicateNumber.run data) ∧ sharesNumber data twin) ∨
        (Returns (Check.buyerNotFound.run data) ∧ buyerUnknown data twin) ∨
        (Returns (Check.mandatoryFields.run data) ∧ lacksMandatory twin) ∨
        (Returns (Check.mixedVatRates.run data) ∧ mixesRates data twin))) ∧
    (∀ l ∈ data.lines, Check.lineTotals.Skips l →
      ¬Check.lineTotals.Flags data l ∧
      (ReportedBesides data .lineTotals l ↔ HasTwin data .lines l fun twin =>
        (Returns (Check.vatCalculation.run data) ∧ lineVatBreaks twin) ∨
        (Returns (Check.negativeTotal.run data) ∧ isNegative twin ∧
          lacksCreditNote data twin))) ∧
    (∀ l ∈ data.lines, Check.vatCalculation.Skips l →
      ¬Check.vatCalculation.Flags data l ∧
      (ReportedBesides data .vatCalculation l ↔ HasTwin data .lines l fun twin =>
        (Returns (Check.lineTotals.run data) ∧ lineTotalBreaks twin) ∨
        (Returns (Check.negativeTotal.run data) ∧ isNegative twin ∧
          lacksCreditNote data twin))) ∧
    (∀ l ∈ data.lines, (l.get "line_total_excl_vat").toNumber? = none →
      ∀ check : Check, check.category.kind = .lines → ¬check.Flags data l) := by
  have hheader : Check.headerTotals.peers =
      [.duplicateNumber, .buyerNotFound, .mandatoryFields, .mixedVatRates] := by decide
  have hline : Check.lineTotals.peers = [.vatCalculation, .negativeTotal] := by decide
  have hvat : Check.vatCalculation.peers = [.lineTotals, .negativeTotal] := by decide
  refine ⟨fun h _ hskips => ⟨Check.not_flags_of_skips hskips, ?_⟩,
    fun l _ hskips => ⟨Check.not_flags_of_skips hskips, ?_⟩,
    fun l _ hskips => ⟨Check.not_flags_of_skips hskips, ?_⟩,
    fun l _ hnone check hkind => not_flags_of_no_total hnone hkind⟩
  · rw [reportedBesides_iff, hheader]
    simp [HasTwin, Check.Flags, Check.category, Category.kind]
  · rw [reportedBesides_iff, hline]
    simp [HasTwin, Check.Flags, Check.category, Category.kind]
  · rw [reportedBesides_iff, hvat]
    simp [HasTwin, Check.Flags, Check.category, Category.kind]

/-- A header without a VAT total and a line without amounts pass a run: the header has all
mandatory cells and a known buyer with a registration number, and nothing is found. -/
theorem skipped_unreported :
    let buyer : Record := ⟨[("buyer_id", .text "B1"), ("buyer_name", .text "Buyer"),
      ("buyer_trn", .text "100000000000003")]⟩
    let header : Record := ⟨[("invoice_id", .text "A"), ("invoice_number", .text "N1"),
      ("issue_date", .text "2025-01-01"), ("seller_trn", .text "100000000000001"),
      ("currency", .text "AED"), ("buyer_id", .text "B1"), ("total_excl_vat", .ofInt 100),
      ("total_incl_vat", .ofInt 105)]⟩
    let line : Record := ⟨[("invoice_id", .text "A"), ("line_id", .text "L1")]⟩
    ∃ data, Dataset.ofRecords [buyer] [header] [line] = .ok data ∧
      Check.headerTotals.Skips header ∧ Check.lineTotals.Skips line ∧
      Check.vatCalculation.Skips line ∧ ∀ outcome ∈ runAll data, outcome.findings = [] := by
  intro buyer header line
  refine ⟨_, rfl, ⟨"vat_total", by decide, by decide +kernel⟩,
    ⟨"quantity", by decide, by decide +kernel⟩, ⟨"vat_rate", by decide, by decide +kernel⟩, ?_⟩
  simp only [← List.isEmpty_iff]
  decide +kernel

end InvoiceReadiness.Baseline
