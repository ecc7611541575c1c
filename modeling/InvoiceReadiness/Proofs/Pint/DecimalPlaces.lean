import InvoiceReadiness.Proofs.Pint.ShownPlaces
import InvoiceReadiness.Proofs.Pint.Verdicts
import InvoiceReadiness.Proofs.Text.PlainDecimals

/-!
# Decimal places of amounts

Four checks of the pack allow the amounts of an invoice two decimal places. The places are
counted in the shortest text of the number that the amount is read as. For an amount in plain
decimal text with up to fifteen significant digits, that text has the digits of the amount, so
the count is that of its places without the zeros at the end. But an amount that is less than a
ten-thousandth is written with an exponent, and its places are not counted: it passes, however
many it has.

## Main results

* `countDecimals_plainDecimal` — the places that are counted of an amount in plain text.
* `maxDecimals_verdict` — the verdict of the checks on a header whose amount has places.
* `decimalPlaces_slip` — for which amounts the count is right, and which ones the checks report.
-/

namespace InvoiceReadiness.Pint

open PackCheck

/-! ## The count -/

variable {a : PlainDecimal}

theorem shownPlaces_number (ha : a.significantDigits ≤ 15) :
    shownPlaces a.number = if a.magnitude < 1 / 10 ^ 4 then 0 else a.decimals := by
  by_cases hplaces : a.decimals = 0
  · obtain ⟨n, hn⟩ := a.exists_whole hplaces
    rw [PlainDecimal.number, hn, hplaces, ite_self]
    rcases Binary64.ofDecimal_whole a.negative n a.places.length with h | h
    · rw [h]
      exact shownPlaces_infinite _
    · exact shownPlaces_of_isWhole h
  · obtain ⟨c, zeros, hlast, hfew, hn, hlength⟩ :=
      a.exists_coefficient (Nat.pos_of_ne_zero hplaces)
    have hfew : c < tenPow 15 := Nat.lt_of_lt_of_le hfew (tenPow_le_tenPow ha)
    have hsmall : a.magnitude < 1 / 10 ^ 4 ↔ c * tenPow 4 < tenPow a.decimals := by
      rw [a.magnitude_lt_iff, hn, hlength, tenPow_add, Nat.mul_right_comm,
        Nat.mul_lt_mul_right (tenPow_pos zeros)]
    rw [PlainDecimal.number, hn, hlength,
      shownPlaces_ofDecimal a.negative zeros hfew hlast (Nat.pos_of_ne_zero hplaces)]
    simp only [hsmall]

/-- The places that are counted of an amount in plain decimal text, and of the number that it is
read as. -/
theorem countDecimals_plainDecimal (ha : a.significantDigits ≤ 15) {v : Value}
    (hv : v = .text a.text ∨ v = .number (.float a.number)) :
    countDecimals v = .ok (if a.magnitude < 1 / 10 ^ 4 then 0 else a.decimals) := by
  have hnumber : v.toNumber? = some (.float a.number) := by
    rcases hv with rfl | rfl
    · exact a.toNumber?_text
    · rfl
  rw [countDecimals_of_toNumber? hnumber, shownPlaces_number ha]

/-! ## The checks -/

theorem whole_le_whole_iff {m n : Int} : (Number.whole m).le (.whole n) ↔ m ≤ n := by
  rw [Number.le_iff]
  exact Number.wholeUnits_le

section Procedures

variable {check : PackCheck}

theorem maxDecimals_collects {name limitText : String} {limit : Nat}
    (hprocedure : procedureOf check.record = .ok (some maxDecimals))
    (hfield : check.parameters.get "field" = .text name) (hname : NamesCell name)
    (hfilled : (Value.text name).isFilled)
    (hlimit : check.parameters.get "max_decimals" = .ofNat limit)
    (hshown : (Value.ofNat limit).shown = .ok limitText) :
    ∃ judge, check.Collects judge ∧ ∀ h places text, (h.get name).isNull = false →
      countDecimals (h.get name) = .ok places → (h.get name).shown = .ok text → judge h =
        if places ≤ limit then .ok none else (do
          let number ← numberText h
          return some (check.caseOf {
            place := .ofHeader h
            field := .text name
            observed := s!"{text} ({places} decimals)"
            expected := s!"Max {limitText} decimals"
            message := s!"Invoice {number}: Field \"{name}\" has {places} " ++
              s!"decimal places, maximum allowed is {limitText}" })) := by
  have hnull : (Value.ofNat limit).isNull = false := rfl
  have hnumber : (Value.ofNat limit).number? = some (.whole limit) := rfl
  apply Exists.intro
  apply And.intro
  · intro data
    rw [runRecord_eq hprocedure]
    show maxDecimals (check.task data) = _
    simp only [maxDecimals, task_parameter, Result.ok_bind, hfield, hlimit, hfilled, hnull,
      hnumber, hshown, shown_text, report_eq]
    rfl
  · intro h places text hsome hplaces htext
    rw [resolveAt_text hname, Result.ok_bind, hsome, hplaces, htext]
    simp only [Result.ok_bind]
    by_cases hle : places ≤ limit
    · have hallowed : (Number.whole places).le (.whole limit) = true :=
        whole_le_whole_iff.2 (Int.ofNat_le.2 hle)
      rw [if_pos hle, hallowed]
      rfl
    · have hexcess : (Number.whole places).le (.whole limit) = false :=
        eq_false_of_ne_true fun h => hle (Int.ofNat_le.1 (whole_le_whole_iff.1 h))
      rw [if_neg hle, hexcess]
      rfl

end Procedures

/-- The checks that allow an amount two decimal places, with the columns of the amounts. -/
def amountChecks : List (String × String) :=
  [("UAE-UC1-CHK-022", "total_excl_vat"), ("UAE-UC1-CHK-023", "vat_total"),
   ("UAE-UC1-CHK-024", "total_incl_vat"), ("UAE-UC1-CHK-026", "amount_due")]

section Checks

variable {check : PackCheck} {column : String}

/-- What the pack says about these checks. -/
theorem amountCheck_parameters (hcheck : check ∈ pack)
    (hcolumn : (check.id, column) ∈ amountChecks) :
    procedureOf check.record = .ok (some maxDecimals) ∧
      check.parameters.get "field" = .text column ∧
      check.parameters.get "max_decimals" = .ofNat 2 ∧
      NamesCell column ∧ (Value.text column).isFilled := by
  simp only [amountChecks, List.mem_cons, Prod.mk.injEq, List.not_mem_nil, or_false] at hcolumn
  rcases hcolumn with ⟨hid, rfl⟩ | ⟨hid, rfl⟩ | ⟨hid, rfl⟩ | ⟨hid, rfl⟩
  all_goals
    exact ⟨procedureOf_eq hid rfl,
      eq_of_mem_pack (f := fun check => check.parameters.get "field") hcheck hid rfl,
      eq_of_mem_pack (f := fun check => check.parameters.get "max_decimals") hcheck hid rfl,
      by decide, by decide⟩

/-- The verdict on a header by the places that are counted of its amount. -/
theorem maxDecimals_verdict (hcheck : check ∈ pack) (hcolumn : (check.id, column) ∈ amountChecks) :
    check.JudgesEach ∧ ∀ data h places text, (h.get column).isNull = false →
      countDecimals (h.get column) = .ok places → (h.get column).shown = .ok text →
      check.verdict data h = if places ≤ 2 then .ok false else opened h := by
  obtain ⟨hprocedure, hfield, hlimit, hname, hfilled⟩ := amountCheck_parameters hcheck hcolumn
  have hshown : (Value.ofNat 2).shown = .ok "2" := by decide +kernel
  obtain ⟨judge, hjudge, hsaid⟩ :=
    maxDecimals_collects hprocedure hfield hname hfilled hlimit hshown
  refine ⟨hjudge.judgesEach, fun data h places text hsome hplaces htext => ?_⟩
  rw [hjudge.verdict_eq data h, hsaid h places text hsome hplaces htext, opened]
  by_cases hle : places ≤ 2
  · rw [if_pos hle, if_pos hle]
    rfl
  · rw [if_neg hle, if_neg hle]
    cases numberText h <;> rfl

end Checks

/-- **Decimal places.** An amount in plain decimal text is read. If it has up to fifteen
significant digits, the places that are counted, of the text and of the number that it is read
as, are those without the zeros at the end, unless the amount is less than a ten-thousandth: then
none are counted, though only zero has none. So each of the four checks, which judge the headers
of a dataset one by one, opens a case for an amount with more than two places if it is at least a
ten-thousandth, and for no other one. -/
theorem decimalPlaces_slip (ha : a.significantDigits ≤ 15) {v : Value}
    (hv : v = .text a.text ∨ v = .number (.float a.number)) :
    readNumber? a.text = some a.number ∧
    countDecimals v = .ok (if a.magnitude < 1 / 10 ^ 4 then 0 else a.decimals) ∧
    (countDecimals v = .ok a.decimals ↔ a.magnitude = 0 ∨ 1 / 10 ^ 4 ≤ a.magnitude) ∧
    ∀ check ∈ pack, ∀ column, (check.id, column) ∈ amountChecks → check.JudgesEach ∧
      ∀ data h, h.get column = v → check.verdict data h =
        if 2 < a.decimals ∧ 1 / 10 ^ 4 ≤ a.magnitude then opened h else .ok false := by
  have hcount := countDecimals_plainDecimal ha hv
  refine ⟨a.readNumber?_text, hcount, ?_, fun check hcheck column hcolumn => ?_⟩
  · rw [hcount, Except.ok.injEq]
    by_cases hsmall : a.magnitude < 1 / 10 ^ 4
    · rw [if_pos hsmall, eq_comm, a.decimals_eq_zero_iff hsmall,
        or_iff_left (not_le.2 hsmall)]
    · rw [if_neg hsmall]
      exact iff_of_true rfl (.inr (not_lt.1 hsmall))
  · obtain ⟨hjudges, hverdict⟩ := maxDecimals_verdict hcheck hcolumn
    refine ⟨hjudges, fun data h hcell => ?_⟩
    have hsome : v.isNull = false := by
      rcases hv with rfl | rfl <;> rfl
    obtain ⟨text, htext⟩ : ∃ text, v.shown = .ok text := by
      rcases hv with rfl | rfl <;> exact ⟨_, rfl⟩
    rw [← hcell] at hcount hsome htext
    rw [hverdict data h _ text hsome hcount htext]
    by_cases hsmall : a.magnitude < 1 / 10 ^ 4
    · rw [if_pos hsmall, if_pos (by decide), if_neg fun h => absurd hsmall (not_lt.2 h.2)]
    · rw [if_neg hsmall]
      by_cases hmany : 2 < a.decimals
      · rw [if_neg (Nat.not_le_of_lt hmany), if_pos ⟨hmany, not_lt.1 hsmall⟩]
      · rw [if_pos (Nat.le_of_not_lt hmany), if_neg fun h => hmany h.1]

/-- A header with a number and an amount. -/
private def headerOfAmount (amount : String) : Record :=
  ⟨[("invoice_number", .text "N1"), ("total_excl_vat", .text amount)]⟩

/-- Of two amounts, one with three places and one with two and a zero after them, the check of
the total reports the first. -/
theorem decimalPlaces_slip_totals :
    ∃ data, Dataset.ofRecords [] [headerOfAmount "12.345", headerOfAmount "-0.120"] [] = .ok data ∧
      countDecimals (.text "12.345") = .ok 3 ∧ countDecimals (.text "-0.120") = .ok 2 ∧
      ∃ check ∈ pack, check.id = "UAE-UC1-CHK-022" ∧ check.JudgesEach ∧
        check.verdict data (headerOfAmount "12.345") = .ok true ∧
        check.verdict data (headerOfAmount "-0.120") = .ok false := by
  let many : PlainDecimal :=
    ⟨[], ['1', '2'], ['.', '3', '4', '5'], .inl rfl, by decide,
      .inr ⟨['3', '4', '5'], by decide, rfl⟩, .inl (by decide)⟩
  let few : PlainDecimal :=
    ⟨['-'], ['0'], ['.', '1', '2', '0'], .inr (.inr rfl), by decide,
      .inr ⟨['1', '2', '0'], by decide, rfl⟩, .inl (by decide)⟩
  obtain ⟨data, hdata⟩ : Returns (Dataset.ofRecords [] [headerOfAmount "12.345",
    headerOfAmount "-0.120"] []) := .of_isOk (by decide +kernel)
  have hmany : 1 / 10 ^ 4 ≤ many.magnitude := not_lt.1 (mt many.magnitude_lt_iff.1 (by decide))
  have hfew : 1 / 10 ^ 4 ≤ few.magnitude := not_lt.1 (mt few.magnitude_lt_iff.1 (by decide))
  obtain ⟨-, hcount, -, hverdict⟩ := decimalPlaces_slip (a := many) (by decide) (.inl rfl)
  obtain ⟨-, hcount', -, hverdict'⟩ := decimalPlaces_slip (a := few) (by decide) (.inl rfl)
  have hcheck : totalsChecks[1] ∈ pack := by simp [pack]
  obtain ⟨hjudges, hjudged⟩ := hverdict _ hcheck "total_excl_vat" (by decide)
  obtain ⟨-, hjudged'⟩ := hverdict' _ hcheck "total_excl_vat" (by decide)
  refine ⟨data, hdata, ?_, ?_, _, hcheck, rfl, hjudges, ?_, ?_⟩
  · rw [if_neg (not_lt.2 hmany)] at hcount
    exact hcount
  · rw [if_neg (not_lt.2 hfew)] at hcount'
    exact hcount'
  · rw [hjudged data (headerOfAmount "12.345") rfl, if_pos ⟨by decide, hmany⟩]
    rfl
  · rw [hjudged' data (headerOfAmount "-0.120") rfl, if_neg fun h => absurd h.1 (by decide)]

/-- A hundred-thousandth has five places and one significant digit. None of its places is
counted, and the checks pass it, while they report a thousandth. -/
theorem tiny_amount_passes :
    let a : PlainDecimal :=
      ⟨[], ['0'], ['.', '0', '0', '0', '0', '1'], .inl rfl, by decide,
        .inr ⟨['0', '0', '0', '0', '1'], by decide, rfl⟩, .inl (by decide)⟩
    let verdicts (amount : String) : Result (List Bool) := do
      let data ← Dataset.ofRecords [] [headerOfAmount amount] []
      (pack.filter fun check => check.id == "UAE-UC1-CHK-022").mapM fun check =>
        check.verdict data (headerOfAmount amount)
    a.text = "0.00001" ∧ a.significantDigits = 1 ∧ a.decimals = 5 ∧
      countDecimals (.text "0.00001") = .ok 0 ∧ countDecimals (.number (.float a.number)) = .ok 0 ∧
      verdicts "0.00001" = .ok [false] ∧ verdicts "0.001" = .ok [true] := by
  decide +kernel

end InvoiceReadiness.Pint
