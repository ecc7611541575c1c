import InvoiceReadiness.Proofs.Checks.CreditNotes
import InvoiceReadiness.Proofs.Matching.Positions
import InvoiceReadiness.Proofs.Text.DateFormats

/-!
# Dates in another format

A search for duplicates reads the dates of two invoices and counts the days between them; the
text of a date has no other part in it. As every date is read back from each of the formats, two
datasets that differ in the formats of their dates have the same leads: on the same positions,
with the same confidence, the same message and the same number of days.

## Main results

* `dateOf?_of_isDated` — the date of a header is read back.
* `Redated.matchDuplicate_eq` — a comparison does not depend on the formats.
* `runSearch_redated` — neither does a search.
-/

namespace InvoiceReadiness.Matching

/-! ## Dated headers -/

/-- A header has a date, written in one of the formats. -/
def IsDated (header : Record) (d : Date) : Prop :=
  ∃ format ∈ dateFormats, header.get "issue_date" = .text (format.write d)

/-- The header with a date that is written in a format. -/
def withDate (header : Record) (format : DateFormat) (d : Date) : Record :=
  header.withCell "issue_date" (.text (format.write d))

/-- Two headers that have one date and differ at most in the format of it. -/
structure Redated (a b : Record) : Prop where
  cells : ∀ name, name ≠ "issue_date" → a.get name = b.get name
  date : ∃ d : Date, d.isValid ∧ IsDated a d ∧ IsDated b d

theorem Redated.symm {a b : Record} (h : Redated a b) : Redated b a := by
  obtain ⟨d, hvalid, ha, hb⟩ := h.date
  exact ⟨fun name hname => (h.cells name hname).symm, d, hvalid, hb, ha⟩

theorem redated_withDate (header : Record) {d : Date} (hd : d.isValid)
    {format format' : DateFormat} (h : format ∈ dateFormats) (h' : format' ∈ dateFormats) :
    Redated (withDate header format d) (withDate header format' d) := by
  refine ⟨fun name hname => ?_, d, hd, ⟨format, h, ?_⟩, ⟨format', h', ?_⟩⟩
  · rw [withDate, withDate, Record.get_withCell_ne _ hname, Record.get_withCell_ne _ hname]
  · exact Record.get_withCell_self header _ _
  · exact Record.get_withCell_self header _ _

theorem dateOf?_of_isDated {header : Record} {d : Date} (h : IsDated header d)
    (hd : d.isValid) : dateOf? (header.get "issue_date") = .ok (some d) := by
  obtain ⟨format, hformat, hcell⟩ := h
  have hfilled : (Value.text (format.write d)).isFilled := by
    have hlength := DateFormat.length_writeChars format d
    rw [Value.isFilled, bne_iff_ne]
    intro hempty
    have hnil : format.writeChars d = [] := by
      rw [← String.toList_ofList (l := format.writeChars d)]
      exact String.toList_eq_nil_iff.2 hempty
    rw [hnil] at hlength
    cases hlength
  rw [hcell, dateOf?, if_pos hfilled]
  show Except.ok (Date.ofAnyFormat? (format.write d)) = _
  rw [Date.ofAnyFormat?_write hformat hd]

/-! ## Comparisons -/

section Comparisons

variable {earlier earlier' later later' params : Record}

/-- The days between the dates that are read on two invoices. -/
def AreApart (earlier later : Record) (days : Nat) : Prop :=
  ∃ d e, dateOf? (earlier.get "issue_date") = .ok (some d) ∧
    dateOf? (later.get "issue_date") = .ok (some e) ∧ e.gap d = days

/-- The end of a message about two invoices that are so many days apart. -/
def daysText (days : Nat) : String := s!" and issue dates {days} day(s) apart"

/-- A match is of two invoices with dates, and its message says how far apart they are. -/
def SaysDays (earlier later : Record) (found : Option Match) : Prop :=
  ∀ m, found = some m → ∃ days, AreApart earlier later days ∧
    ∃ front, m.2 = front ++ daysText days

theorem saysDays_none : SaysDays earlier later none := by
  intro m hm
  cases hm

theorem matchDuplicate_saysDays :
    Yields (SaysDays earlier later) (matchDuplicate earlier later params) := by
  simp only [matchDuplicate, Yields.bind_iff, Yields.ite_iff, Yields.pure_iff]
  refine fun vendor _ below _ => ⟨fun _ => saysDays_none, fun _ => ?_⟩
  split
  · simp only [Yields.bind_iff, Yields.ite_iff, Yields.pure_iff]
    refine fun tolerance _ agrees _ =>
      ⟨fun _ => saysDays_none, fun _ first hfirst second hsecond => ?_⟩
    cases first with
    | none => simp only [Yields.pure_iff, saysDays_none]
    | some d =>
        cases second with
        | none => simp only [Yields.pure_iff, saysDays_none]
        | some e =>
            simp only [Yields.bind_iff, Yields.ite_iff, Yields.pure_iff]
            intro window _
            refine ⟨fun _ => saysDays_none, fun _ numbers _ number _ amount _ => ?_⟩
            intro m hm
            obtain rfl := Option.some.inj hm
            refine ⟨e.gap d, ⟨d, e, hfirst, hsecond, rfl⟩,
              s!"Possible duplicate of invoice {number}: same supplier, " ++
                s!"amount {amount}", ?_⟩
            have hassoc (a b c d e f : String) : a ++ (b ++ c ++ d ++ e ++ f) =
                a ++ (b ++ c) ++ (d ++ e ++ f) := by
              simp only [String.append_assoc]
            exact hassoc _ _ _ _ _ _
  · exact Yields.pure_iff.2 saysDays_none

theorem Redated.matchDuplicate_eq (hearlier : Redated earlier earlier')
    (hlater : Redated later later') (params : Record) :
    matchDuplicate earlier later params = matchDuplicate earlier' later' params := by
  obtain ⟨d, hd, hd₁, hd₂⟩ := hearlier.date
  obtain ⟨e, he, he₁, he₂⟩ := hlater.date
  have hcell (name : String) (hname : name ≠ "issue_date") :
      earlier.get name = earlier'.get name ∧ later.get name = later'.get name :=
    ⟨hearlier.cells name hname, hlater.cells name hname⟩
  obtain ⟨htrn, htrn'⟩ := hcell "seller_trn" (by decide)
  obtain ⟨hname, hname'⟩ := hcell "seller_name" (by decide)
  obtain ⟨hnumber, hnumber'⟩ := hcell "invoice_number" (by decide)
  obtain ⟨htotal, htotal'⟩ := hcell "total_incl_vat" (by decide)
  simp only [matchDuplicate, supplierSimilarity, nameSimilarity, numberSimilarity, htrn, htrn',
    hname, hname', hnumber, hnumber', htotal, htotal', dateOf?_of_isDated hd₁ hd,
    dateOf?_of_isDated hd₂ hd, dateOf?_of_isDated he₁ he, dateOf?_of_isDated he₂ he]

theorem Redated.areApart (hearlier : Redated earlier earlier') (hlater : Redated later later')
    {days : Nat} (h : AreApart earlier later days) : AreApart earlier' later' days := by
  obtain ⟨d, hd, hd₁, hd₂⟩ := hearlier.date
  obtain ⟨e, he, he₁, he₂⟩ := hlater.date
  obtain ⟨d', e', hreadd, hreade, hdays⟩ := h
  obtain rfl : d = d' := Option.some.inj
    (Except.ok.inj ((dateOf?_of_isDated hd₁ hd).symm.trans hreadd))
  obtain rfl : e = e' := Option.some.inj
    (Except.ok.inj ((dateOf?_of_isDated he₁ he).symm.trans hreade))
  exact ⟨d, e, dateOf?_of_isDated hd₂ hd, dateOf?_of_isDated he₂ he, hdays⟩

/-- The leads on two pairs that are redated have the same cells. -/
theorem Redated.value_leadFor (hearlier : Redated earlier earlier')
    (hlater : Redated later later') (check : Record) (found : Match) :
    (leadFor check later earlier found).value = (leadFor check later' earlier' found).value := by
  simp only [Lead.value, leadFor, hearlier.cells "invoice_id" (by decide),
    hearlier.cells "invoice_number" (by decide), hlater.cells "invoice_id" (by decide),
    hlater.cells "invoice_number" (by decide), hlater.cells "seller_name" (by decide)]

end Comparisons

/-! ## Findings -/

/-- What a search for duplicates finds: two positions, how sure it is, and the days between the
two invoices. -/
structure Finding where
  positions : Nat × Nat
  confidence : Binary64
  days : Nat

/-- A lead reports a finding. -/
structure Finding.IsOf (params check : Record) (headers : List Record) (finding : Finding)
    (lead : Lead) : Prop where
  positions : IsLeadAt .fuzzyDuplicate params check headers finding.positions lead
  confidence : lead.confidence = finding.confidence
  days : AreApart lead.earlier lead.later finding.days
  message : ∃ front, lead.message = front ++ daysText finding.days

section Findings

variable {params check : Record} {headers headers' : List Record}
  (h : List.Forall₂ Redated headers headers')

include h

theorem exists_redated {i : Nat} {a : Record} (ha : headers[i]? = some a) :
    ∃ b, headers'[i]? = some b ∧ Redated a b := by
  induction h generalizing i with
  | nil => cases ha
  | @cons first first' _ _ hfirst _ ih =>
      cases i with
      | zero =>
          obtain rfl := Option.some.inj ha
          exact ⟨first', rfl, hfirst⟩
      | succ i => exact ih ha

theorem exists_isLeadAt {p : Nat × Nat} {lead : Lead}
    (hlead : IsLeadAt .fuzzyDuplicate params check headers p lead) :
    ∃ lead', IsLeadAt .fuzzyDuplicate params check headers' p lead' := by
  obtain ⟨earlier, later, found, hearlier, hlater, hmatch, rfl⟩ := hlead
  obtain ⟨earlier', hearlier', hredated⟩ := exists_redated h hearlier
  obtain ⟨later', hlater', hredated'⟩ := exists_redated h hlater
  refine ⟨_, earlier', later', found, hearlier', hlater', ?_, rfl⟩
  exact (hredated.matchDuplicate_eq hredated' params).symm.trans hmatch

/-- The leads on two positions report one finding, with the same cells. -/
theorem exists_finding {p : Nat × Nat} {lead lead' : Lead}
    (hlead : IsLeadAt .fuzzyDuplicate params check headers p lead)
    (hlead' : IsLeadAt .fuzzyDuplicate params check headers' p lead') :
    lead.value = lead'.value ∧ ∃ finding : Finding,
      finding.IsOf params check headers lead ∧ finding.IsOf params check headers' lead' := by
  have hat := hlead
  have hat' := hlead'
  obtain ⟨earlier, later, found, hearlier, hlater, hmatch, rfl⟩ := hlead
  obtain ⟨a, b, found', ha, hb, hmatch', rfl⟩ := hlead'
  obtain ⟨earlier', hearlier', hredated⟩ := exists_redated h hearlier
  obtain ⟨later', hlater', hredated'⟩ := exists_redated h hlater
  obtain rfl : earlier' = a := Option.some.inj (hearlier'.symm.trans ha)
  obtain rfl : later' = b := Option.some.inj (hlater'.symm.trans hb)
  have hsame := (hredated.matchDuplicate_eq hredated' params).symm.trans hmatch
  obtain rfl : found = found' := Option.some.inj (Except.ok.inj (hsame.symm.trans hmatch'))
  obtain ⟨days, hdays, front, hfront⟩ := matchDuplicate_saysDays hmatch found rfl
  refine ⟨hredated.value_leadFor hredated' check found, ⟨p, found.1, days⟩, ?_, ?_⟩
  · exact ⟨hat, rfl, hdays, front, hfront⟩
  · exact ⟨hat', rfl, hredated.areApart hredated' hdays, front, hfront⟩

/-- The leads on a list of positions report the same findings. -/
theorem exists_findings {positions : List (Nat × Nat)} {leads leads' : List Lead}
    (hleads : List.Forall₂ (IsLeadAt .fuzzyDuplicate params check headers) positions leads)
    (hleads' : List.Forall₂ (IsLeadAt .fuzzyDuplicate params check headers') positions leads') :
    leads.map Lead.value = leads'.map Lead.value ∧ ∃ findings : List Finding,
      List.Forall₂ (Finding.IsOf params check headers) findings leads ∧
        List.Forall₂ (Finding.IsOf params check headers') findings leads' := by
  induction hleads generalizing leads' with
  | nil =>
      cases hleads'
      exact ⟨rfl, [], .nil, .nil⟩
  | cons hlead _ ih =>
      cases hleads' with
      | cons hlead' hmore' =>
          obtain ⟨hvalue, finding, hof, hof'⟩ := exists_finding h hlead hlead'
          obtain ⟨hvalues, findings, hfindings, hfindings'⟩ := ih hmore'
          refine ⟨?_, finding :: findings, .cons hof hfindings, .cons hof' hfindings'⟩
          rw [List.map_cons, List.map_cons, hvalue, hvalues]

theorem returns_leadsAmong_redated (hreturns : Returns
    (leadsAmong .fuzzyDuplicate params (leadFor check) [] headers)) :
    Returns (leadsAmong .fuzzyDuplicate params (leadFor check) [] headers') := by
  rw [returns_leadsAmong_iff] at hreturns ⊢
  intro i j earlier' later' hlt hearlier' hlater'
  have hback : List.Forall₂ Redated headers' headers := h.flip.imp fun _ _ => Redated.symm
  obtain ⟨earlier, hearlier, hredated⟩ := exists_redated hback hearlier'
  obtain ⟨later, hlater, hredated'⟩ := exists_redated hback hlater'
  have hmatch := hreturns i j earlier later hlt hearlier hlater
  rwa [SearchRule.matches?, ← hredated.matchDuplicate_eq hredated' params] at hmatch

end Findings

/-! ## Searches -/

/-- **The format of dates does not matter.** A valid date that is written in one of the formats is
read back in this format and in no other, so a search reads it as it was. Two datasets whose
headers have the same dates in any formats, and the same other cells, have searches that both end
well or both do not. If they do, their leads have the same cells, and report the same findings:
the same pairs of positions, with the same confidence and the same number of days. -/
theorem runSearch_redated {check params : Record}
    (hrule : check.get "rule_type" = .text SearchRule.fuzzyDuplicate.name)
    (hparams : parametersOf check = .ok params) {data data' : Dataset}
    (hheaders : List.Forall₂ Redated data.headers data'.headers) :
    (∀ format ∈ dateFormats, ∀ d : Date, d.isValid →
      Date.ofAnyFormat? (format.write d) = some d ∧ ∀ other ∈ dateFormats, ∀ e,
        other.readText? (format.write d) = some e ↔ other = format ∧ e = d) ∧
    (∀ format ∈ dateFormats, ∀ format' ∈ dateFormats, ∀ (header : Record) (d : Date), d.isValid →
      Redated (withDate header format d) (withDate header format' d)) ∧
    (Returns (runSearch check.value data (.text "AP")) ↔
      Returns (runSearch check.value data' (.text "AP"))) ∧
    ∀ leads leads', runSearch check.value data (.text "AP") = .ok leads →
      runSearch check.value data' (.text "AP") = .ok leads' →
        leads.map Lead.value = leads'.map Lead.value ∧ ∃ findings : List Finding,
          List.Forall₂ (Finding.IsOf params check data.headers) findings leads ∧
            List.Forall₂ (Finding.IsOf params check data'.headers) findings leads' := by
  have hback : List.Forall₂ Redated data'.headers data.headers :=
    hheaders.flip.imp fun _ _ => Redated.symm
  simp only [runSearch_eq_leadsAmong hrule hparams]
  refine ⟨?_, ?_, ?_, ?_⟩
  · intro format hformat d hd
    exact ⟨Date.ofAnyFormat?_write hformat hd,
      fun other hother e => DateFormat.readText?_write hformat hother hd e⟩
  · intro format hformat format' hformat' header d hd
    exact redated_withDate header hd hformat hformat'
  · exact ⟨returns_leadsAmong_redated hheaders, returns_leadsAmong_redated hback⟩
  · intro leads leads' hleads hleads'
    obtain ⟨positions, hsorted, hmem, hlist⟩ := listsMatches_leads hleads
    obtain ⟨positions', hsorted', hmem', hlist'⟩ := listsMatches_leads hleads'
    obtain rfl : positions = positions' := by
      apply eq_of_comesSooner hsorted hsorted'
      rintro ⟨i, j⟩
      rw [hmem, hmem']
      apply and_congr_right
      intro _
      constructor
      · rintro ⟨lead, hlead⟩
        exact exists_isLeadAt hheaders hlead
      · rintro ⟨lead, hlead⟩
        exact exists_isLeadAt hback hlead
    exact exists_findings hheaders hlist hlist'

/-- Two copies of an invoice, two days apart, with their dates in four ways. -/
theorem runSearch_redated_ambiguous :
    let undated (id : String) : Record :=
      ⟨[("invoice_id", .text id), ("invoice_number", .text "A-1"), ("seller_trn", .text "10020"),
        ("total_incl_vat", .ofInt 100)]⟩
    let header (id date : String) : Record := (undated id).withCell "issue_date" (.text date)
    let headers := [header "1" "2026-02-03", header "2" "05-02-2026"]
    let headers' := [header "1" "03/02/2026", header "2" "2026/02/05"]
    let check : Record := ⟨[("rule_type", .text "fuzzy_duplicate")]⟩
    check.get "rule_type" = .text SearchRule.fuzzyDuplicate.name ∧
      parametersOf check = .ok ⟨defaultParameters⟩ ∧ List.Forall₂ Redated headers headers' ∧
      ∃ data data' leads leads', Dataset.ofRecords [] headers [] = .ok data ∧
        Dataset.ofRecords [] headers' [] = .ok data' ∧
        runSearch check.value data (.text "AP") = .ok leads ∧
        runSearch check.value data' (.text "AP") = .ok leads' ∧ leads.length = 1 ∧
        leads.map Lead.value = leads'.map Lead.value := by
  intro undated header headers headers' check
  have hlength : (do
      let data ← Dataset.ofRecords [] headers []
      let _ ← Dataset.ofRecords [] headers' []
      let leads ← runSearch check.value data (.text "AP")
      return leads.length : Result Nat) = .ok 1 := by
    decide +kernel
  obtain ⟨data, hdata, h⟩ := Result.bind_eq_ok.1 hlength
  obtain ⟨data', hdata', h⟩ := Result.bind_eq_ok.1 h
  obtain ⟨leads, hleads, h⟩ := Result.bind_eq_ok.1 h
  have hcells (id date date' name : String) (hname : name ≠ "issue_date") :
      (header id date).get name = (header id date').get name := by
    rw [Record.get_withCell_ne _ hname, Record.get_withCell_ne _ hname]
  have hredated : List.Forall₂ Redated headers headers' := by
    refine .cons ⟨hcells _ _ _, ⟨2026, 2, 3⟩, by decide, ?_, ?_⟩
      (.cons ⟨hcells _ _ _, ⟨2026, 2, 5⟩, by decide, ?_, ?_⟩ .nil)
    · exact ⟨⟨.yearFirst, '-'⟩, by simp [dateFormats], rfl⟩
    · exact ⟨⟨.dayFirst, '/'⟩, by simp [dateFormats], rfl⟩
    · exact ⟨⟨.dayFirst, '-'⟩, by simp [dateFormats], rfl⟩
    · exact ⟨⟨.yearFirst, '/'⟩, by simp [dateFormats], rfl⟩
  have hrule : check.get "rule_type" = .text SearchRule.fuzzyDuplicate.name := rfl
  have hparams : parametersOf check = .ok ⟨defaultParameters⟩ := rfl
  have hdated : List.Forall₂ Redated data.headers data'.headers := by
    rw [(Dataset.headers_of_ofRecords hdata).1, (Dataset.headers_of_ofRecords hdata').1]
    exact hredated
  obtain ⟨-, -, hreturns, hsame⟩ := runSearch_redated hrule hparams hdated
  obtain ⟨leads', hleads'⟩ := hreturns.1 ⟨leads, hleads⟩
  exact ⟨hrule, hparams, hredated, data, data', leads, leads', hdata, hdata', hleads, hleads',
    Except.ok.inj h, (hsame leads leads' hleads hleads').1⟩

end InvoiceReadiness.Matching
