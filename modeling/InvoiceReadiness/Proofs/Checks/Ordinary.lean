import InvoiceReadiness.Proofs.Checks.Duplicates
import InvoiceReadiness.Proofs.Checks.HeaderTotals
import InvoiceReadiness.Proofs.Dataset.Growth

/-!
# Ordinary headers

Three things about a header can make a check fail on it: a whole number of too many
digits, which has no text; a whole number that is too large for arithmetic; and a list or
an object where the buyer should be, which cannot be looked up. A header without any of
these is ordinary, and no baseline check fails on it.

## Main results

* `Record.IsOrdinary` — what a header has to be like.
* `Baseline.returns_run` — no baseline check fails on an ordinary header.
-/

namespace InvoiceReadiness

/-! ## Numbers that are not too large -/

/-- A whole number up to a bound, or any binary64 number. -/
def Number.Within (bound : Nat) : Number → Prop
  | .whole n => n.natAbs ≤ bound
  | .float _ => True

namespace Number

variable {m n : Number} {bound : Nat}

theorem Within.mono {bound' : Nat} (h : n.Within bound) (hle : bound ≤ bound') :
    n.Within bound' := by
  cases n with
  | whole n => exact Nat.le_trans h hle
  | float x => trivial

theorem Within.returns_toBinary64 (h : n.Within bound) (hbound : bound ≤ twoPow 1023) :
    Returns n.toBinary64 := by
  cases n with
  | whole n =>
      rw [toBinary64]
      exact ⟨_, Binary64.ofInt?_eq_ok (Nat.le_trans h hbound)⟩
  | float x => exact ⟨x, rfl⟩

theorem Within.returns_isFinite (h : n.Within bound) (hbound : bound ≤ twoPow 1023) :
    Returns n.isFinite := by
  cases n with
  | whole n =>
      rw [isFinite, Binary64.ofInt?_eq_ok (Nat.le_trans h hbound)]
      exact ⟨true, rfl⟩
  | float x => exact ⟨_, rfl⟩

theorem Within.returns_text (h : n.Within bound) (hbound : bound ≤ twoPow 1023) :
    Returns n.text := by
  apply exists_text
  cases n with
  | whole n =>
      have hdigits : twoPow 1023 < tenPow maxWholeDigits := by decide +kernel
      rw [Value.withinDigits, decide_eq_true_eq]
      exact Nat.lt_of_le_of_lt (Nat.le_trans h hbound) hdigits
  | float x => rfl

theorem Within.returns_fixedText (h : n.Within bound) (hbound : bound ≤ twoPow 1023)
    (places : Nat) : Returns (n.fixedText places) := by
  obtain ⟨x, hx⟩ := h.returns_toBinary64 hbound
  rw [fixedText, hx]
  exact ⟨_, rfl⟩

theorem Within.returns_agree (hm : m.Within bound) (hn : n.Within bound)
    (hbound : bound ≤ twoPow 1023) (tolerance : Number) : Returns (m.agree n tolerance) :=
  exists_agree tolerance (exists_sub (hm.returns_toBinary64 hbound) (hn.returns_toBinary64 hbound))

theorem zero_within (bound : Nat) : Number.zero.Within bound := Nat.zero_le bound

/-- A sum of two numbers is at most twice as large as their bound. -/
theorem Within.exists_add (hm : m.Within bound) (hn : n.Within bound)
    (hbound : bound ≤ twoPow 1023) : ∃ sum, m.add n = .ok sum ∧ sum.Within (2 * bound) := by
  obtain ⟨x, hx⟩ := hm.returns_toBinary64 hbound
  obtain ⟨y, hy⟩ := hn.returns_toBinary64 hbound
  rw [add]
  cases m <;> cases n
  case whole.whole m n =>
    refine ⟨whole (m + n), rfl, ?_⟩
    have hm : m.natAbs ≤ bound := hm
    have hn : n.natAbs ≤ bound := hn
    show (m + n).natAbs ≤ 2 * bound
    omega
  all_goals
    rw [lift, hx, Result.ok_bind, hy]
    · exact ⟨_, rfl, trivial⟩
    all_goals simp

end Number

/-- The largest whole number in a cell of an ordinary header. -/
def amountBound : Nat := twoPow 1000

theorem two_mul_amountBound_le : 2 * amountBound ≤ twoPow 1023 := by decide +kernel

theorem amountBound_le : amountBound ≤ twoPow 1023 := by decide +kernel

/-! ## Cells of ordinary headers -/

/-- A header with an identifier, with whole numbers that have a text and are not too large
for arithmetic, and with a buyer that can be looked up. -/
structure Record.IsOrdinary (h : Record) : Prop where
  identified : (h.get "invoice_id").isNull = false
  digits : h.value.withinDigits
  sizes : ∀ cell n, h.get cell = .number n → n.Within amountBound
  buyer : (h.get "buyer_id").isIdentifier

/-- The numbers in the cells of a record are those of its members. -/
theorem Record.within_of_members {h : Record} {bound : Nat}
    (hmembers : ∀ member ∈ h.members, ∀ n, member.2 = .number n → n.Within bound)
    (cell : String) (n : Number) (hn : h.get cell = .number n) : n.Within bound := by
  unfold Record.get Members.get at hn
  cases hfind : h.members.find? fun member => member.1 == cell with
  | none =>
      rw [hfind] at hn
      cases hn
  | some member =>
      rw [hfind] at hn
      exact hmembers member (List.mem_of_find?_eq_some hfind) n hn

namespace Record.IsOrdinary

variable {h : Record} (hh : h.IsOrdinary)
include hh

theorem cell (name : String) : (h.get name).withinDigits :=
  Value.withinDigits_cell hh.digits name

theorem returns_shown (name : String) : Returns (h.get name).shown :=
  Value.returns_shown (hh.cell name)

theorem returns_isBlank (name : String) : Returns (h.get name).isBlank :=
  Value.returns_isBlank (hh.cell name)

theorem within {name : String} {n : Number} (hn : (h.get name).toNumber? = some n) :
    n.Within amountBound := by
  cases hv : h.get name with
  | number m =>
      rw [hv] at hn
      rw [← Option.some.inj hn]
      exact hh.sizes name m hv
  | text s =>
      rw [hv, Value.toNumber?, Option.map_eq_some_iff] at hn
      obtain ⟨x, -, rfl⟩ := hn
      trivial
  | _ => rw [hv] at hn; cases hn

theorem returns_text {name : String} {n : Number} (hn : (h.get name).toNumber? = some n) :
    Returns n.text := (hh.within hn).returns_text amountBound_le

/-- Two amounts of an ordinary header have a sum, which a third one can be held against. -/
theorem exists_sum {name name' name'' : String} {m n total : Number}
    (hm : (h.get name).toNumber? = some m) (hn : (h.get name').toNumber? = some n)
    (htotal : (h.get name'').toNumber? = some total) (tolerance : Number) :
    ∃ sum, m.add n = .ok sum ∧ Returns sum.text ∧ Returns (total.agree sum tolerance) := by
  obtain ⟨sum, hsum, hwithin⟩ := (hh.within hm).exists_add (hh.within hn) amountBound_le
  have htotalWithin : total.Within (2 * amountBound) := (hh.within htotal).mono (by omega)
  exact ⟨sum, hsum, hwithin.returns_text two_mul_amountBound_le,
    htotalWithin.returns_agree hwithin two_mul_amountBound_le tolerance⟩

theorem within_amount (name : String) : (h.get name).amount.Within amountBound := by
  unfold Value.amount
  split
  · rename_i n hn
    split
    · exact hh.within hn
    · exact Number.zero_within _
  · exact Number.zero_within _

end Record.IsOrdinary

/-! ## The baseline checks -/

namespace Baseline

variable {data : Dataset} {h : Record}

theorem returns_invoiceKey (hh : h.IsOrdinary) : Returns (invoiceKey h) := by
  simp [invoiceKey, hh.returns_shown]

theorem returns_headerTotals (hh : h.IsOrdinary) :
    Returns (headerTotals (data.onlyHeader h)) := by
  refine returns_collect.2 ?_
  split
  · rename_i incl excl vat hincl hexcl hvat
    obtain ⟨sum, hsum, -, hagree⟩ := hh.exists_sum hexcl hvat hincl (.float monetaryTolerance)
    simp [hsum, hagree, hh.returns_shown, hh.returns_text hincl, hh.returns_text hexcl,
      hh.returns_text hvat]
  · exact ⟨none, rfl⟩

theorem returns_mandatoryFields (hh : h.IsOrdinary) :
    Returns (mandatoryFields (data.onlyHeader h)) := by
  have hlabel : Returns ((h.get "invoice_number").orElse (h.get "invoice_id")).shown :=
    Value.returns_shown (Value.withinDigits_orElse (hh.cell _) (hh.cell _))
  unfold mandatoryFields
  rw [Returns.bind_iff]
  refine ⟨Returns.mapM fun header hheader => Returns.filterMapM fun cell _ => ?_, by simp⟩
  obtain rfl := List.mem_singleton.1 hheader
  simp [hh.returns_isBlank, hlabel]

theorem returns_buyerNotFound (hh : h.IsOrdinary) :
    Returns (buyerNotFound (data.onlyHeader h)) := by
  refine returns_collect.2 ?_
  have hkey : Returns (h.get "buyer_id").key := ⟨_, Value.key_eq_ok_keyOf hh.buyer⟩
  simp [hh.returns_isBlank, hh.returns_shown, hkey]

theorem returns_mixedVatRates (hlines : data.linesFor (h.get "invoice_id") = .ok []) :
    Returns (mixedVatRates (data.onlyHeader h)) := by
  refine returns_collect.2 ?_
  have hlines : (data.onlyHeader h).linesFor (h.get "invoice_id") = .ok [] := hlines
  simp [hlines, countRates]

/-- One header alone has no duplicate; only its key can fail. -/
theorem returns_duplicateNumber_iff :
    Returns (duplicateNumber (data.onlyHeader h)) ↔ Returns (invoiceKey h) := by
  have hone (text : String) : repeated [(text, h)] = [] := by
    simp [repeated, ofKey, members]
  have hheaders : (data.onlyHeader h).headers = [h] := rfl
  rw [duplicateNumber_eq_reportGroups, reportGroups_eq, invoiceKey_eq_joinedKey, hheaders,
    List.mapM_cons, List.mapM_nil]
  cases joinedKey keyParts h with
  | error fault =>
      apply iff_of_false
      · rintro ⟨found, hfound⟩
        cases hfound
      · rintro ⟨text, htext⟩
        cases htext
  | ok text =>
      refine iff_of_true ⟨[], ?_⟩ ⟨text, rfl⟩
      show (repeated [(text, h)]).mapM _ = _
      rw [hone]
      rfl

/-- No check fails on an ordinary header without lines. -/
theorem returns_run (hh : h.IsOrdinary) (hlines : data.linesFor (h.get "invoice_id") = .ok [])
    (check : Check) : Returns (check.run (data.onlyHeader h)) := by
  cases check with
  | duplicateNumber => exact returns_duplicateNumber_iff.2 (returns_invoiceKey hh)
  | headerTotals => exact returns_headerTotals hh
  | buyerNotFound => exact returns_buyerNotFound hh
  | mandatoryFields => exact returns_mandatoryFields hh
  | mixedVatRates => exact returns_mixedVatRates hlines
  | _ => exact ⟨[], rfl⟩

end Baseline

end InvoiceReadiness
