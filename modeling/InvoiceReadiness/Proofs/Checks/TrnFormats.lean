import InvoiceReadiness.Proofs.Custom.Locality
import InvoiceReadiness.Proofs.Pint.Verdicts
import InvoiceReadiness.Proofs.Text.Spelling

/-!
# The form of tax registration numbers

Three checks ask for a tax registration number of fifteen digits: a baseline check and a check
of the pack for the numbers of buyers, and another one of the pack for those of sellers. Each
looks at one cell of a record, and passes over a cell that is blank. The pattern that they share
demands the end of the text after the digits, and there a line feed may follow. So fifteen
digits with a line feed after them pass all three checks, though they are not a number of
fifteen digits.

## Main results

* `isTrnText_iff` — the texts that are taken for a number.
* `TrnCheck.judges` — the verdict of each of the checks on a record, by two of its cells.
* `trnFormats_slip` — what each of the checks flags, and that all of them agree.
-/

namespace InvoiceReadiness

/-! ## Texts of numbers -/

/-- Fifteen decimal digits of any script, and nothing else. -/
def IsTrnNumber (s : String) : Prop :=
  s.toList.length = 15 ∧ ∀ c ∈ s.toList, isDecimalDigit c

instance (s : String) : Decidable (IsTrnNumber s) :=
  decidable_of_iff (s.toList.length = 15 ∧ s.toList.all isDecimalDigit)
    (and_congr_right' List.all_eq_true)

/-- A number of fifteen digits with a line feed after it. -/
def IsTrnLine (s : String) : Prop := ∃ t, IsTrnNumber t ∧ s = t ++ "\n"

/-- A text is taken for a number if it is one, and if a line feed follows one. -/
theorem isTrnText_iff {s : String} : isTrnText s.toList ↔ IsTrnNumber s ∨ IsTrnLine s := by
  have htext : isTrnText s.toList ↔ 15 ≤ s.toList.length ∧
      (∀ c ∈ s.toList.take 15, isDecimalDigit c) ∧
        (s.toList.drop 15 = [] ∨ s.toList.drop 15 = ['\n']) := by
    simp [isTrnText, and_assoc]
  rw [htext]
  constructor
  · rintro ⟨hlong, hdigits, hend | hend⟩
    · have hlength : s.toList.length ≤ 15 := List.drop_eq_nil_iff.1 hend
      rw [List.take_of_length_le hlength] at hdigits
      exact .inl ⟨Nat.le_antisymm hlength hlong, hdigits⟩
    · refine .inr ⟨String.ofList (s.toList.take 15), ⟨?_, ?_⟩, ?_⟩
      · rw [String.toList_ofList]
        exact List.length_take_of_le hlong
      · rwa [String.toList_ofList]
      · have hsplit := List.take_append_drop 15 s.toList
        rw [hend] at hsplit
        rw [← String.toList_inj, String.toList_append, String.toList_ofList]
        exact hsplit.symm
  · rintro (⟨hlength, hdigits⟩ | ⟨t, ⟨hlength, hdigits⟩, rfl⟩)
    · rw [List.take_of_length_le (Nat.le_of_eq hlength)]
      exact ⟨Nat.le_of_eq hlength.symm, hdigits, .inl (List.drop_of_length_le (by omega))⟩
    · have htake : (t ++ "\n").toList.take 15 = t.toList := by
        rw [String.toList_append, ← hlength, List.take_left']
        rfl
      have hdrop : (t ++ "\n").toList.drop 15 = ['\n'] := by
        rw [String.toList_append, ← hlength, List.drop_left']
        · rfl
        · rfl
      rw [htake, hdrop]
      refine ⟨?_, hdigits, .inr rfl⟩
      simp [hlength]

theorem IsTrnNumber.not_isTrnLine {s : String} (h : IsTrnNumber s) : ¬IsTrnLine s := by
  rintro ⟨t, ht, rfl⟩
  have hlength := h.1
  rw [String.toList_append, List.length_append, ht.1] at hlength
  cases hlength

/-- A text that has a digit is not blank. -/
theorem trim_ne_of_isDecimalDigit {s : String} {c : Char} (hc : c ∈ s.toList)
    (hdigit : isDecimalDigit c) : trim s ≠ "" := by
  intro hblank
  rw [trim_eq_empty_iff, List.isEmpty_iff, trimBlanks_eq_nil_iff] at hblank
  have hseen := Lexer.isBlankChar_of_isDecimalDigit hdigit
  rw [hblank c hc] at hseen
  cases hseen

theorem IsTrnNumber.exists_digit {s : String} (h : IsTrnNumber s) :
    ∃ c ∈ s.toList, isDecimalDigit c := by
  obtain ⟨c, hc⟩ := List.exists_mem_of_length_pos (l := s.toList) (by rw [h.1]; decide)
  exact ⟨c, hc, h.2 c hc⟩

/-- The texts that are passed over: blanks, and what is taken for a number. -/
def PassesTrn (s : String) : Prop := trim s = "" ∨ IsTrnNumber s ∨ IsTrnLine s

/-- Of what can stand before and after a number only a single line feed after it is passed
over. -/
theorem IsTrnNumber.passesTrn_padded_iff {t : String} (ht : IsTrnNumber t)
    (before after : String) :
    PassesTrn (before ++ t ++ after) ↔ before = "" ∧ (after = "" ∨ after = "\n") := by
  have hlist : (before ++ t ++ after).toList = before.toList ++ t.toList ++ after.toList := by
    rw [String.toList_append, String.toList_append]
  have hlength : (before ++ t ++ after).toList.length =
      before.toList.length + 15 + after.toList.length := by
    rw [hlist, List.length_append, List.length_append, ht.1]
  constructor
  · rintro (hblank | hnumber | ⟨u, hu, heq⟩)
    · obtain ⟨c, hc, hdigit⟩ := ht.exists_digit
      exact absurd hblank (trim_ne_of_isDecimalDigit (by simp [hlist, hc]) hdigit)
    · have hnone := hnumber.1
      rw [hlength] at hnone
      refine ⟨String.toList_eq_nil_iff.1 (List.eq_nil_of_length_eq_zero (by omega)), .inl ?_⟩
      exact String.toList_eq_nil_iff.1 (List.eq_nil_of_length_eq_zero (by omega))
    · have hchars : before.toList ++ t.toList ++ after.toList = u.toList ++ ['\n'] := by
        rw [← hlist, heq, String.toList_append]
        rfl
      rcases List.eq_nil_or_concat after.toList with hafter | ⟨rest, c, hafter⟩
      · -- With nothing after it, the line feed would be the last digit of the number.
        rw [hafter, List.append_nil] at hchars
        have hlast : '\n' ∈ t.toList := by
          have hne : t.toList ≠ [] := List.ne_nil_of_length_eq_add_one ht.1
          have hgetLast := congrArg List.getLast? hchars
          rw [List.getLast?_append_of_ne_nil _ hne, List.getLast?_concat] at hgetLast
          exact List.mem_of_getLast? hgetLast
        exact absurd (ht.2 _ hlast) (by decide)
      · rw [hafter, List.concat_eq_append, ← List.append_assoc] at hchars
        obtain ⟨hnumber, hc⟩ := List.append_inj' hchars rfl
        have hnone := congrArg List.length hnumber
        rw [List.length_append, List.length_append, ht.1, hu.1] at hnone
        have hbefore : before.toList = [] := List.eq_nil_of_length_eq_zero (by omega)
        have hrest : rest = [] := List.eq_nil_of_length_eq_zero (by omega)
        refine ⟨String.toList_eq_nil_iff.1 hbefore, .inr ?_⟩
        rw [← String.toList_inj, hafter, hrest, List.concat_nil, hc]
        rfl
  · rintro ⟨rfl, rfl | rfl⟩
    · exact .inr (.inl (by simpa using ht))
    · exact .inr (.inr ⟨t, ht, by simp⟩)

/-- The texts that are not passed over are those that are neither blank nor a number, but for
the numbers with a line feed. -/
theorem not_passesTrn_iff {s : String} :
    (¬PassesTrn s ↔ trim s ≠ "" ∧ ¬IsTrnNumber s) ↔ ¬IsTrnLine s := by
  constructor
  · rintro hiff ⟨t, ht, rfl⟩
    have hline : IsTrnLine (t ++ "\n") := ⟨t, ht, rfl⟩
    obtain ⟨c, hc, hdigit⟩ := ht.exists_digit
    have hblank : trim (t ++ "\n") ≠ "" := trim_ne_of_isDecimalDigit (by simp [hc]) hdigit
    exact hiff.2 ⟨hblank, fun hnumber => hnumber.not_isTrnLine hline⟩ (.inr (.inr hline))
  · intro hline
    rw [PassesTrn, or_iff_left hline, not_or]

/-! ## The three checks -/

/-- A check of the number in a cell of each record of a kind. Its messages name the record by
the label, which is another cell. -/
structure TrnCheck where
  kind : RecordKind
  cell : String
  label : String
  run : Dataset → Result (List Value)

namespace TrnCheck

/-- The cases that a check of the pack opens, as objects. -/
def packRun (id : String) (data : Dataset) : Result (List Value) := do
  match Pint.check? id with
  | some check => return (← Pint.runRecord check.record data).map Pint.Case.value
  | none => return []

/-- The baseline check of the numbers of buyers. -/
def baselineBuyer : TrnCheck where
  kind := .buyers
  cell := "buyer_trn"
  label := "buyer_name"
  run data := do return (← Baseline.Check.buyerTrnFormat.run data).map Finding.value

def packSeller : TrnCheck where
  kind := .headers
  cell := "seller_trn"
  label := "invoice_number"
  run := packRun "UAE-UC1-CHK-013"

def packBuyer : TrnCheck where
  kind := .buyers
  cell := "buyer_trn"
  label := "buyer_name"
  run := packRun "UAE-UC1-CHK-018"

def all : List TrnCheck := [baselineBuyer, packSeller, packBuyer]

variable (check : TrnCheck)

/-- Whether a check reports a record, where it is the only one of its kind. -/
def verdict (data : Dataset) (r : Record) : Result Bool := do
  return !(← check.run (data.withRecords check.kind [r])).isEmpty

/-- What a check reports of a dataset is what it reports of each record, in their order. -/
def JudgesEach : Prop :=
  ∀ data : Dataset, check.run data = do
    return (← (data.records check.kind).mapM fun r =>
      check.run (data.withRecords check.kind [r])).flatten

/-- The verdict that a record is reported; its message has to name the record. -/
def reported (r : Record) : Result Bool := do
  let _ ← (r.get check.label).shown
  return true

/-- The verdict on a record, by the cells that are looked at. -/
def verdictOn (r : Record) : Result Bool := do
  if ← (r.get check.cell).isBlank then return false
  if ← (r.get check.cell).isTrn then return false
  check.reported r

variable {check}

theorem of_collect {α : Type} {judge : Record → Result (Option α)} {value : α → Value}
    (hruns : ∀ data, check.run data = do
      return (← collect (data.records check.kind) judge).map value)
    (hjudge : ∀ r, (do return (← judge r).isSome) = check.verdictOn r) :
    check.JudgesEach ∧ ∀ data r, check.verdict data r = check.verdictOn r := by
  have hrun (data : Dataset) (r : Record) : check.run (data.withRecords check.kind [r]) =
      collect [r] fun r => do return (← judge r).map value := by
    rw [hruns, Dataset.records_withRecords, collect_map]
  constructor
  · intro data
    rw [hruns, collect_map, collect_eq_flatten]
    simp only [hrun]
  · intro data r
    rw [verdict, hrun, ← hjudge, collect_cons]
    cases judge r with
    | error fault => rfl
    | ok said => cases said <;> rfl

/-- A judgement that passes over blanks and numbers, and says something about anything else. -/
theorem judge_eq (check : TrnCheck) {α : Type} (r : Record) {said : Result (Option α)}
    (hsaid : ∀ text, (r.get check.cell).shown = .ok text →
      (do return (← said).isSome) = check.reported r) :
    (do
      let found ← (do
        if ← (r.get check.cell).isBlank then return none
        if ← (r.get check.cell).isTrn then return none
        said)
      return found.isSome) = check.verdictOn r := by
  unfold verdictOn Value.isTrn
  cases (r.get check.cell).isBlank with
  | error fault => rfl
  | ok blank =>
      cases blank with
      | true => rfl
      | false =>
          cases htext : (r.get check.cell).shown with
          | error fault => rfl
          | ok text =>
              simp only [Result.ok_bind]
              cases isTrnText text.toList with
              | true => rfl
              | false => exact hsaid text htext

theorem baselineBuyer_judges : baselineBuyer.JudgesEach ∧
    ∀ data r, baselineBuyer.verdict data r = baselineBuyer.verdictOn r := by
  refine of_collect (fun data => rfl) fun r => judge_eq baselineBuyer r fun text htext => ?_
  have htext : (r.get "buyer_trn").shown = .ok text := htext
  have hreported : baselineBuyer.reported r = do
    let _ ← (r.get "buyer_name").shown
    return true := rfl
  rw [htext, hreported]
  cases (r.get "buyer_name").shown <;> rfl

/-! ### Checks of the pack -/

theorem packRun_eq {check : Pint.PackCheck} {id : String} {procedure : Pint.Procedure}
    (hfind : Pint.check? id = some check)
    (hprocedure : (Pint.procedures.find? fun entry => entry.1 == id).map Prod.snd =
      some procedure) (data : Dataset) :
    packRun id data = do return (← procedure (check.task data)).map Pint.Case.value := by
  have hid := List.find?_some hfind
  rw [packRun, hfind]
  dsimp only
  rw [Pint.runRecord_eq (Pint.procedureOf_eq (eq_of_beq hid) hprocedure)]
  rfl

theorem packSeller_judges : packSeller.JudgesEach ∧
    ∀ data r, packSeller.verdict data r = packSeller.verdictOn r := by
  obtain ⟨check, hfind⟩ : ∃ check, Pint.check? "UAE-UC1-CHK-013" = some check :=
    Option.isSome_iff_exists.1 (by decide)
  have hrun (data : Dataset) : packSeller.run data = do
      return (← Pint.sellerTrn (check.task data)).map Pint.Case.value := packRun_eq hfind rfl data
  simp only [Pint.sellerTrn, Pint.PackCheck.report_eq] at hrun
  refine of_collect hrun fun r => judge_eq packSeller r fun text htext => ?_
  have htext : (r.get "seller_trn").shown = .ok text := htext
  have hreported : packSeller.reported r = do
    let _ ← (r.get "invoice_number").shown
    return true := rfl
  rw [htext, hreported, Pint.numberText]
  cases (r.get "invoice_number").shown <;> rfl

theorem packBuyer_judges : packBuyer.JudgesEach ∧
    ∀ data r, packBuyer.verdict data r = packBuyer.verdictOn r := by
  obtain ⟨check, hfind⟩ : ∃ check, Pint.check? "UAE-UC1-CHK-018" = some check :=
    Option.isSome_iff_exists.1 (by decide)
  have hrun (data : Dataset) : packBuyer.run data = do
      return (← Pint.buyerTrn (check.task data)).map Pint.Case.value := packRun_eq hfind rfl data
  simp only [Pint.buyerTrn, Pint.reportBuyer, Pint.PackCheck.report_eq] at hrun
  refine of_collect hrun fun r => judge_eq packBuyer r fun text htext => ?_
  have htext : (r.get "buyer_trn").shown = .ok text := htext
  have hreported : packBuyer.reported r = do
    let _ ← (r.get "buyer_name").shown
    return true := rfl
  rw [htext, hreported]
  cases (r.get "buyer_name").shown <;> rfl

/-- Each of the checks looks at one record after the other, and judges it by the two cells. -/
theorem judges (hcheck : check ∈ all) :
    check.JudgesEach ∧ ∀ data r, check.verdict data r = check.verdictOn r := by
  simp only [all, List.mem_cons, List.not_mem_nil, or_false] at hcheck
  rcases hcheck with rfl | rfl | rfl
  · exact baselineBuyer_judges
  · exact packSeller_judges
  · exact packBuyer_judges

/-! ### Verdicts on texts -/

section Texts

variable {r : Record} {s : String}

theorem reported_ne (r : Record) : check.reported r ≠ .ok false := by
  rw [reported]
  cases (r.get check.label).shown <;> nofun

theorem verdictOn_text (hs : r.get check.cell = .text s) :
    (PassesTrn s → check.verdictOn r = .ok false) ∧
      (¬PassesTrn s → check.verdictOn r = check.reported r) := by
  have htext : (Value.text s).isTrn = .ok (isTrnText s.toList) := rfl
  rw [verdictOn, hs, Value.isBlank_text, htext, PassesTrn, ← isTrnText_iff]
  by_cases hblank : trim s = ""
  · rw [decide_eq_true hblank]
    exact ⟨fun _ => rfl, fun hnot => absurd (.inl hblank) hnot⟩
  · rw [decide_eq_false hblank]
    cases isTrnText s.toList with
    | false => exact ⟨fun h => by simp [hblank] at h, fun _ => rfl⟩
    | true => exact ⟨fun _ => rfl, fun hnot => absurd (.inr rfl) hnot⟩

/-- Where the record can be named, a text is reported unless it is passed over. -/
theorem verdictOn_eq_true_iff (hs : r.get check.cell = .text s)
    (hlabel : Returns (r.get check.label).shown) :
    check.verdictOn r = .ok true ↔ ¬PassesTrn s := by
  obtain ⟨hpasses, hreports⟩ := verdictOn_text hs
  obtain ⟨label, hlabel⟩ := hlabel
  constructor
  · intro htrue hpass
    rw [hpasses hpass] at htrue
    cases htrue
  · intro hnot
    rw [hreports hnot, reported, hlabel]
    rfl

/-- The verdicts on a text that stands for a value of either check. -/
theorem verdictOn_congr {check other : TrnCheck} {r r' : Record}
    (hcell : r.get check.cell = r'.get other.cell) (hlabel : Returns (r.get check.label).shown)
    (hlabel' : Returns (r'.get other.label).shown) : check.verdictOn r = other.verdictOn r' := by
  obtain ⟨label, hlabel⟩ := hlabel
  obtain ⟨label', hlabel'⟩ := hlabel'
  rw [verdictOn, verdictOn, hcell, reported, reported, hlabel, hlabel']
  rfl

end Texts

end TrnCheck

/-! ## What is flagged -/

/-- **The form of tax registration numbers.** Each of the three checks judges the records of its
kind one by one. A text is passed over if it is blank, a number of fifteen digits, or such a
number with a line feed after it, and any other text is reported. So a number with anything
before or after it is reported, but for a single line feed after it, and apart from the numbers
with a line feed the checks report the texts that are neither blank nor fifteen digits. On
records with one value in the cell all three checks give one verdict, whatever the value is. -/
theorem trnFormats_slip {check : TrnCheck} (hcheck : check ∈ TrnCheck.all) :
    check.JudgesEach ∧
    (∀ data r s, r.get check.cell = .text s →
      (PassesTrn s → check.verdict data r = .ok false) ∧
      (¬PassesTrn s → check.verdict data r = check.reported r) ∧
      (∀ before t after, IsTrnNumber t → s = before ++ t ++ after →
        (check.verdict data r = .ok false ↔ before = "" ∧ (after = "" ∨ after = "\n"))) ∧
      (Returns (r.get check.label).shown →
        ((check.verdict data r = .ok true ↔ trim s ≠ "" ∧ ¬IsTrnNumber s) ↔ ¬IsTrnLine s))) ∧
    ∀ other ∈ TrnCheck.all, ∀ data data' r r', r.get check.cell = r'.get other.cell →
      Returns (r.get check.label).shown → Returns (r'.get other.label).shown →
        check.verdict data r = other.verdict data' r' := by
  obtain ⟨hjudges, hverdict⟩ := TrnCheck.judges hcheck
  refine ⟨hjudges, fun data r s hs => ?_,
    fun other hother data data' r r' hcell hlabel hlabel' => ?_⟩
  · obtain ⟨hpasses, hreports⟩ := TrnCheck.verdictOn_text hs
    rw [hverdict]
    refine ⟨hpasses, hreports, fun before t after ht hpadded => ?_, fun hlabel => ?_⟩
    · rw [← ht.passesTrn_padded_iff, ← hpadded]
      refine ⟨fun hfalse => ?_, hpasses⟩
      by_contra hnot
      rw [hreports hnot] at hfalse
      exact TrnCheck.reported_ne r hfalse
    · rw [TrnCheck.verdictOn_eq_true_iff hs hlabel]
      exact not_passesTrn_iff
  · rw [hverdict, (TrnCheck.judges hother).2]
    exact TrnCheck.verdictOn_congr hcell hlabel hlabel'

/-- A seller and a buyer with a number each, in the cells that the checks look at. -/
private def recordOfTrns (seller buyer : String) : Record :=
  ⟨[("invoice_number", .text "N1"), ("buyer_name", .text "Acme"), ("seller_trn", .text seller),
    ("buyer_trn", .text buyer)]⟩

/-- A number in Arabic digits with a line feed after it passes the check of sellers, and with a
blank before it the baseline check of buyers reports it, as the one of the pack does. -/
theorem trnFormats_slip_padded :
    let r := recordOfTrns "١٠٠٠٠٠٠٠٠٠٠٠٠٠٣\n" " ١٠٠٠٠٠٠٠٠٠٠٠٠٠٣"
    ∃ data, Dataset.ofRecords [r] [r] [] = .ok data ∧ TrnCheck.packSeller.JudgesEach ∧
      TrnCheck.packSeller.verdict data r = .ok false ∧
      TrnCheck.baselineBuyer.verdict data r = .ok true ∧
      TrnCheck.baselineBuyer.verdict data r = TrnCheck.packBuyer.verdict data r := by
  intro r
  have hseller : TrnCheck.packSeller ∈ TrnCheck.all := by simp [TrnCheck.all]
  have hbuyer : TrnCheck.baselineBuyer ∈ TrnCheck.all := by simp [TrnCheck.all]
  have hother : TrnCheck.packBuyer ∈ TrnCheck.all := by simp [TrnCheck.all]
  have hnumber : IsTrnNumber "١٠٠٠٠٠٠٠٠٠٠٠٠٠٣" := by decide +kernel
  obtain ⟨data, hdata⟩ : Returns (Dataset.ofRecords [r] [r] []) := .of_isOk (by decide +kernel)
  obtain ⟨hjudges, hsellers, -⟩ := trnFormats_slip hseller
  obtain ⟨-, hbuyers, hagree⟩ := trnFormats_slip hbuyer
  obtain ⟨-, -, hpadded, -⟩ := hsellers data r _ rfl
  obtain ⟨-, hreports, -⟩ := hbuyers data r _ rfl
  refine ⟨data, hdata, hjudges, ?_, ?_, hagree _ hother data data r r rfl ⟨_, rfl⟩ ⟨_, rfl⟩⟩
  · exact (hpadded "" _ "\n" hnumber rfl).2 ⟨rfl, .inr rfl⟩
  · have hnot : ¬PassesTrn " ١٠٠٠٠٠٠٠٠٠٠٠٠٠٣" := by
      have hiff := hnumber.passesTrn_padded_iff " " ""
      exact fun hpasses => absurd (hiff.1 hpasses).1 (by decide)
    exact (hreports hnot).trans rfl

/-- Fifteen digits with a line feed after them are not blank, and are sixteen characters. None
of the checks reports them. -/
theorem trnLine_passes :
    let s := "100000000000003\n"
    let r := recordOfTrns s s
    trim s ≠ "" ∧ ¬IsTrnNumber s ∧
      (TrnCheck.all.map fun check => do
        let data ← Dataset.ofRecords [r] [r] []
        return (← check.run data).length) = [.ok 0, .ok 0, .ok 0] := by
  refine ⟨by decide +kernel, by decide +kernel, by decide +kernel⟩

end InvoiceReadiness
