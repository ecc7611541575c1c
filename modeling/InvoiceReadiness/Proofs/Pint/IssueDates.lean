import InvoiceReadiness.Proofs.Pattern.Shapes
import InvoiceReadiness.Proofs.Pint.Currencies
import InvoiceReadiness.Proofs.Text.IsoDates

/-!
# Issue dates

One check of the pack asks for an issue date in the form of a date, by a pattern; another one
reads it, and compares the day with that of the payment. The pattern asks for digits and
hyphens in their places, and that is less than a date: the digits may be of any script, and
need not write a day that the calendar has. Such a text passes the first check, and the second
one passes it over, whenever the payment is due.

## Main results

* `foundIn_datePattern` — the texts that the pattern finds.
* `paymentDueDate_verdict` — the verdict on a payment whose day is written.
* `issueDates_slip` — which texts pass the first check, and what the second one makes of them.
-/

namespace InvoiceReadiness

/-! ## The pattern of a date -/

namespace Pattern

/-- A decimal digit of any script. -/
def digitSet : CharSet := ⟨false, [.kind .digit false], false, false⟩

def hyphenSet : CharSet := ⟨false, [.range 45 45], false, false⟩

/-- Four, two and two digits with hyphens between them, from the start of a text to its end. -/
def datePattern : Pattern :=
  .seq (.anchor .textStart) <| .seq (times 4 (.set digitSet)) <| .seq (.set hyphenSet) <|
    .seq (times 2 (.set digitSet)) <| .seq (.set hyphenSet) <| .seq (times 2 (.set digitSet)) <|
      .anchor .lastLineEnd

theorem takes_digitSet (c : Char) : digitSet.takes c = isDecimalDigit c := by
  simp [CharSet.takes, digitSet, CharSet.itemHolds, CharClass.holds]

theorem takes_hyphenSet {c : Char} : hyphenSet.takes c ↔ c = '-' := by
  have hcode : c.toNat = 45 ↔ c = '-' := by
    rw [← Char.toNat_inj]
    rfl
  have hforms : hyphenSet.takes c ↔ 45 ≤ c.toNat ∧ c.toNat ≤ 45 := by
    simp [CharSet.takes, hyphenSet, CharSet.itemHolds, CharSet.forms]
  rw [hforms, ← hcode]
  omega

theorem isSome_run_lastLineEnd {state : MatchState} :
    ((Pattern.anchor .lastLineEnd).run state some).isSome ↔
      state.place.after = [] ∨ state.place.after = ['\n'] := by
  rw [run]
  simp [Anchor.holds]

/-- The pattern of a date finds the texts that have the form of one. -/
theorem foundIn_datePattern (s : String) : datePattern.foundIn s ↔ IsDateForm s := by
  have hseq {p q : Pattern} {state : MatchState} {rest : Continue} :
      (seq p q).run state rest = p.run state fun next => q.run next rest := rfl
  rw [datePattern, foundIn_textStart]
  simp only [hseq, isSome_run_times, isSome_run_set, isSome_run_lastLineEnd, takes_digitSet,
    takes_hyphenSet, MatchState.past]
  constructor
  · rintro ⟨year, _, hs, hyear, hyearDigits, _, _, rfl, rfl, month, _, rfl, hmonth, hmonthDigits,
      _, _, rfl, rfl, day, after, rfl, hday, hdayDigits, hafter⟩
    refine ⟨_, year, month, day, after, ⟨rfl, hyear, hmonth, hday, ?_⟩, ?_, hafter⟩
    · simp only [List.mem_append]
      rintro c (hc | hc | hc)
      · exact hyearDigits c hc
      · exact hmonthDigits c hc
      · exact hdayDigits c hc
    · rw [hs]
      simp [DateFormat.joined, isoFormat]
  · rintro ⟨_, year, month, day, after, ⟨rfl, hyear, hmonth, hday, hdigits⟩, hs, hafter⟩
    simp only [List.mem_append] at hdigits
    refine ⟨year, _, ?_, hyear, fun c hc => hdigits c (.inl hc), _, _, rfl, rfl, month, _, rfl,
      hmonth, fun c hc => hdigits c (.inr (.inl hc)), _, _, rfl, rfl, day, after, rfl, hday,
      fun c hc => hdigits c (.inr (.inr hc)), hafter⟩
    rw [hs]
    simp [DateFormat.joined, isoFormat]

end Pattern

namespace Pint

open PackCheck

/-! ## Procedures -/

section Procedures

variable {check : PackCheck}

theorem headerPattern_collects {name source : String} {pattern : Pattern}
    (hprocedure : procedureOf check.record = .ok (some headerPattern))
    (hfield : check.parameters.get "field" = .text name) (hname : NamesCell name)
    (hsource : check.parameters.get "pattern" = .text source)
    (hfilled : (Value.text name).isFilled && (Value.text source).isFilled)
    (hpattern : patternOf (.text source) = .ok (some pattern)) :
    ∃ judge, check.Collects judge ∧ ∀ h s, h.get name = .text s → judge h =
      if trim s = "" ∨ pattern.foundIn s then .ok none else (do
        let number ← numberText h
        return some (check.caseOf {
          place := .ofHeader h
          field := .text name
          observed := s
          expected := s!"Match pattern: {source}"
          message := s!"Invoice {number}: Field \"{name}\" format invalid. " ++
            s!"Expected pattern: {source}" })) := by
  rw [Bool.and_eq_true] at hfilled
  obtain ⟨hfilled, hfilled'⟩ := hfilled
  apply Exists.intro
  apply And.intro
  · intro data
    rw [runRecord_eq hprocedure]
    show headerPattern (check.task data) = _
    simp only [headerPattern, task_parameter, Result.ok_bind, hfield, hsource, hfilled, hfilled',
      hpattern, shown_text, report_eq]
    rfl
  · intro h s hs
    rw [resolveAt_text hname, hs, Result.ok_bind, Value.isBlank_text]
    by_cases hblank : trim s = ""
    · rw [decide_eq_true hblank, if_pos (.inl hblank)]
      rfl
    · rw [decide_eq_false hblank]
      by_cases hfound : pattern.foundIn s
      · rw [if_pos (.inr hfound), shown_text, Result.ok_bind, Result.ok_bind, hfound]
        rfl
      · rw [if_neg (not_or_intro hblank hfound), shown_text, Result.ok_bind, Result.ok_bind,
          eq_false_of_ne_true hfound]
        rfl

theorem paymentDueDate_judges (hprocedure : procedureOf check.record = .ok (some paymentDueDate)) :
    check.JudgesEach ∧ ∀ data h, check.casesAbout data h = (do
      let stated ← dueDateStated (check.task data) h
      let late ← dueDateLateEnough (check.task data) h
      return stated.toList ++ late.toList) := by
  have hruns (data : Dataset) : runRecord check.record data = (do
      return (← data.headers.mapM fun h => do
        let stated ← dueDateStated (check.task data) h
        let late ← dueDateLateEnough (check.task data) h
        return stated.toList ++ late.toList).flatten) := runRecord_eq hprocedure data
  -- What is said about a header does not depend on the dataset that it is in.
  simp only [dueDateStated, dueDateLateEnough, report_eq] at hruns ⊢
  exact judgesEach_of_flatten hruns

end Procedures

/-! ## Checks of the pack -/

section Checks

variable {check : PackCheck} {data : Dataset} {h : Record} {s t : String}

theorem issueDate_verdict (hcheck : check ∈ pack) (hid : check.id = "UAE-UC1-CHK-003") :
    check.JudgesEach ∧ ∀ data h s, h.get "issue_date" = .text s → trim s ≠ "" →
      (IsDateForm s → check.verdict data h = .ok false) ∧
      (¬IsDateForm s → check.verdict data h = opened h) := by
  let source := "^\\d\x7b4\x7d-\\d\x7b2\x7d-\\d\x7b2\x7d$"
  have hpattern : patternOf (.text source) = .ok (some Pattern.datePattern) := by decide +kernel
  obtain ⟨judge, hjudge, hsaid⟩ := headerPattern_collects (procedureOf_eq hid rfl)
    (eq_of_mem_pack (f := fun check => check.parameters.get "field") hcheck hid rfl) (by decide)
    (eq_of_mem_pack (f := fun check => check.parameters.get "pattern") hcheck hid rfl) rfl hpattern
  refine ⟨hjudge.judgesEach, fun data h s hs hblank => ?_⟩
  have hfound := Pattern.foundIn_datePattern s
  rw [hjudge.verdict_eq data h, hsaid h s hs]
  constructor
  · intro hform
    rw [if_pos (.inr (hfound.2 hform))]
    rfl
  · intro hform
    rw [if_neg (not_or_intro hblank (mt hfound.1 hform)), opened]
    cases numberText h <;> rfl

theorem dayOf?_text (s : String) : dayOf? (.text s) = isoOrdinalOfCell? s := by
  rw [dayOf?, shown_text, Except.toOption, Option.bind_some]

/-- Nothing is said about an amount that is due if the day is stated. -/
theorem dueDateStated_text {task : Task} (ht : h.get "payment_due_date" = .text t)
    (hblank : trim t ≠ "") : dueDateStated task h = .ok none := by
  rw [dueDateStated, ht, Value.isBlank_text, decide_eq_false hblank]
  by_cases hpositive : Number.zero.lt (h.get "amount_due").amount
  · rw [hpositive]
    rfl
  · rw [eq_false_of_ne_true hpositive]
    rfl

/-- The verdict on a header whose dates are texts: a case is opened if both are read and the
day of the payment comes before that of the issue. -/
theorem paymentDueDate_verdict (hid : check.id = "UAE-UC1-CHK-009") :
    check.JudgesEach ∧ ∀ data h s t, h.get "issue_date" = .text s → trim s ≠ "" →
      h.get "payment_due_date" = .text t → trim t ≠ "" →
      check.verdict data h =
        match isoOrdinalOfCell? s, isoOrdinalOfCell? t with
        | some issued, some due => if issued ≤ due then .ok false else opened h
        | _, _ => .ok false := by
  obtain ⟨hjudges, hcases⟩ := paymentDueDate_judges (procedureOf_eq hid rfl)
  refine ⟨hjudges, fun data h s t hs hissue ht hdue => ?_⟩
  rw [verdict, hcases, dueDateStated_text ht hdue, Result.ok_bind, dueDateLateEnough, hs, ht,
    Value.isBlank_text, Value.isBlank_text, decide_eq_false hissue, decide_eq_false hdue,
    dayOf?_text, dayOf?_text]
  cases isoOrdinalOfCell? s with
  | none => rfl
  | some issued =>
      cases isoOrdinalOfCell? t with
      | none => rfl
      | some due =>
          by_cases hle : issued ≤ due
          · simp [hle]
          · simp only [hle, report_eq, opened]
            cases numberText h <;> rfl

/-! ## What passes -/

/-- A header whose issue date has the form of a date, and whose payment is due on a day of the
calendar. -/
theorem paymentDueDate_verdict_of_writes {due : Date} (hid : check.id = "UAE-UC1-CHK-009")
    (hs : h.get "issue_date" = .text s) (hblank : trim s ≠ "") (hform : IsDateForm s)
    (ht : h.get "payment_due_date" = .text t) (hdue : Writes t due) :
    (∀ d, Writes s d → due.Precedes d → check.verdict data h = opened h) ∧
      ((∀ d, Writes s d → ¬due.Precedes d) → check.verdict data h = .ok false) := by
  have hread := isoOrdinalOfCell?_of_writes hdue
  rw [(paymentDueDate_verdict hid).2 data h s t hs hblank ht hdue.isDateForm.trim_ne, hread]
  constructor
  · intro d hd hprecedes
    rw [isoOrdinalOfCell?_of_writes hd]
    have hlt := (Date.ordinal_lt_ordinal_iff hdue.1 hd.1).2 hprecedes
    exact if_neg (Nat.not_le_of_lt hlt)
  · intro hnone
    cases hissued : isoOrdinalOfCell? s with
    | none => rfl
    | some issued =>
        obtain ⟨d, hd, rfl⟩ := (isoOrdinalOfCell?_eq_some_iff hform).1 hissued
        have hlt := mt (Date.ordinal_lt_ordinal_iff hdue.1 hd.1).1 (hnone d hd)
        exact if_pos (Nat.le_of_not_lt hlt)

/-- **Issue dates.** Both checks judge the headers of a dataset one by one. An issue date that
is not blank passes the first check if and only if it has the form of a date: four, two and two
digits with hyphens between them, and a line feed after them if need be. Of the texts that
pass, those are read as a day that a date of the calendar is written as, and no others. So where
the payment is due on a day of the calendar, the second check opens a case if the issue date is
such a text and that day comes before it, and none if the text writes no date, however early
the payment is due. -/
theorem issueDates_slip (data : Dataset) (hs : h.get "issue_date" = .text s)
    (hblank : trim s ≠ "") :
    (∀ check ∈ pack, check.id = "UAE-UC1-CHK-003" → check.JudgesEach ∧
      (IsDateForm s → check.verdict data h = .ok false) ∧
      (¬IsDateForm s → check.verdict data h = opened h)) ∧
    (IsDateForm s → ∀ n, dayOf? (.text s) = some n ↔ ∃ d, Writes s d ∧ d.ordinal = n) ∧
    ∀ check ∈ pack, check.id = "UAE-UC1-CHK-009" → check.JudgesEach ∧
      ∀ t due, h.get "payment_due_date" = .text t → Writes t due → IsDateForm s →
        (∀ d, Writes s d → due.Precedes d → check.verdict data h = opened h) ∧
        ((∀ d, Writes s d → ¬due.Precedes d) → check.verdict data h = .ok false) := by
  refine ⟨fun check hcheck hid => ?_, fun hform n => ?_, fun check hcheck hid => ?_⟩
  · obtain ⟨hjudges, hverdict⟩ := issueDate_verdict hcheck hid
    exact ⟨hjudges, hverdict data h s hs hblank⟩
  · rw [dayOf?_text]
    exact isoOrdinalOfCell?_eq_some_iff hform
  · obtain ⟨hjudges, -⟩ := paymentDueDate_verdict hid
    exact ⟨hjudges, fun t due ht hdue hform =>
      paymentDueDate_verdict_of_writes hid hs hblank hform ht hdue⟩

end Checks

/-- A header with a number, an issue date and a day on which the payment is due. -/
private def headerOfDates (issued due : String) : Record :=
  ⟨[("invoice_number", .text "N1"), ("issue_date", .text issued),
    ("payment_due_date", .text due)]⟩

/-- The last day of February, with a line feed after it, passes the first check, and the second
one opens a case for a payment that was due on the first day of the year. -/
theorem issueDates_slip_february :
    ∃ data, Dataset.ofRecords [] [headerOfDates "2025-02-28\n" "2025-01-01"] [] = .ok data ∧
      Writes "2025-02-28\n" ⟨2025, 2, 28⟩ ∧
      (∃ check ∈ pack, check.id = "UAE-UC1-CHK-003" ∧ check.JudgesEach ∧
        check.verdict data (headerOfDates "2025-02-28\n" "2025-01-01") = .ok false) ∧
      ∃ check ∈ pack, check.id = "UAE-UC1-CHK-009" ∧ check.JudgesEach ∧
        check.verdict data (headerOfDates "2025-02-28\n" "2025-01-01") = .ok true := by
  let h := headerOfDates "2025-02-28\n" "2025-01-01"
  have hissued : Writes "2025-02-28\n" ⟨2025, 2, 28⟩ := ⟨by decide, ['\n'], by decide, .inr rfl⟩
  have hdue : Writes "2025-01-01" ⟨2025, 1, 1⟩ := ⟨by decide, [], by decide, .inl rfl⟩
  obtain ⟨data, hdata⟩ : Returns (Dataset.ofRecords [] [h] []) := .of_isOk (by decide +kernel)
  have hs : h.get "issue_date" = .text "2025-02-28\n" := rfl
  obtain ⟨hform, -, hpayment⟩ := issueDates_slip data hs hissued.isDateForm.trim_ne
  refine ⟨data, hdata, hissued, ?_, ?_⟩
  · have hcheck : headerChecks[2] ∈ pack := by simp [pack]
    obtain ⟨hjudges, hpasses, -⟩ := hform _ hcheck rfl
    exact ⟨_, hcheck, rfl, hjudges, hpasses hissued.isDateForm⟩
  · have hcheck : headerChecks[8] ∈ pack := by simp [pack]
    obtain ⟨hjudges, hlate⟩ := hpayment _ hcheck rfl
    obtain ⟨hopens, -⟩ := hlate _ _ rfl hdue hissued.isDateForm
    exact ⟨_, hcheck, rfl, hjudges, (hopens _ hissued (by decide)).trans rfl⟩

/-- The thirtieth of February passes both checks, though no day is read from it, and so does a
date in the digits of another script; the payment may be due whenever. -/
theorem impossible_date_passes :
    let verdicts (id issued : String) : Result (List Bool) := do
      let data ← Dataset.ofRecords [] [headerOfDates issued "2025-01-01"] []
      (pack.filter fun check => check.id == id).mapM fun check =>
        check.verdict data (headerOfDates issued "2025-01-01")
    ∀ issued ∈ ["2025-02-30", "٢٠٢٥-02-01"], trim issued ≠ "" ∧
      verdicts "UAE-UC1-CHK-003" issued = .ok [false] ∧ dayOf? (.text issued) = none ∧
      verdicts "UAE-UC1-CHK-009" issued = .ok [false] := by
  decide +kernel

end Pint

end InvoiceReadiness
