import InvoiceReadiness.Proofs.Custom.Findings
import InvoiceReadiness.Proofs.Expression.Amounts
import InvoiceReadiness.Proofs.Expression.Operations
import InvoiceReadiness.Proofs.Numeric.Agreement

/-!
# Amounts in order

That two cells are in order can be asked for by a rule about amounts or by a formula. A
rule about amounts takes the numbers of both cells, be they written as texts or not, and
passes over those that are not finite. A formula takes a text for a number only beside a
number: two texts are ordered as texts.

## Main results

* `Expression.arithmetic_fieldText_eq_some_iff`, `Expression.formula_order` — what the
  sides of a rule come to, and whether a formula holds.
* `Custom.Check.flags_order` — which records the two rules flag, and when they are the
  same.
-/

namespace InvoiceReadiness

/-- The amount that a cell states: a number, or the number that a text writes. -/
def Value.statedAmount? : Value → Option Number
  | number n => some n
  | text s => Scalar.numberOfText? s
  | _ => none

/-- The order of two cells by the amounts that they state. -/
def Value.amountOrder? (v w : Value) : Option Ordering := do
  (← v.statedAmount?).compare? (← w.statedAmount?)

/-- The order of two cells in a formula: texts as texts, others by their amounts. -/
def Value.formulaOrder? (v w : Value) : Option Ordering :=
  match v, w with
  | .text s, .text t => some (Ord.compare s t)
  | v, w => v.amountOrder? w

theorem Value.amountOrder?_eq {v w : Value} {m n : Number} (hm : v.statedAmount? = some m)
    (hn : w.statedAmount? = some n) : v.amountOrder? w = m.compare? n := by
  rw [amountOrder?, hm, hn]
  rfl

/-- Two texts are the only cells that formulas do not order by their amounts. -/
theorem Value.formulaOrder?_eq {v w : Value} (h : ¬∃ s t, v = .text s ∧ w = .text t) :
    v.formulaOrder? w = v.amountOrder? w := by
  unfold formulaOrder?
  split
  · exact absurd ⟨_, _, rfl, rfl⟩ h
  · rfl

namespace Expression

variable {path left right : String} {record v w : Value} {m n : Number} {op : Operator}

/-! ## Cells with amounts -/

/-- A rule about amounts takes the amount that a cell states. -/
theorem amountLookup_stated (hv : record.resolve path = .ok v)
    (hm : v.statedAmount? = some m) : amountLookup record path = .ok (.number m) := by
  rw [amountLookup, hv, Result.ok_bind]
  cases v with
  | number n =>
      cases hm
      rfl
  | text s =>
      have hs : Scalar.numberOfText? s = some m := hm
      simp only [hs]
      rfl
  | _ => cases hm

/-- A side of a rule that is a field comes to the amount of its cell, if that is finite. -/
theorem arithmetic_fieldText_eq_some_iff (hpath : FitsBraces path)
    (hv : record.resolve (trim path) = .ok v) (hm : v.statedAmount? = some m) (x : Number) :
    arithmetic (.text (fieldText path)) record = .ok (some x) ↔
      m.isFinite = .ok true ∧ m = x := by
  rw [arithmetic_text, amount_fieldText hpath, amountLookup_stated hv hm]
  dsimp only
  rcases m.isFinite with fault | _ | _ <;> simp [Except.map]

/-- A formula takes the cell as it is. -/
theorem exists_plainLookup (hv : record.resolve path = .ok v) (hm : v.statedAmount? = some m) :
    ∃ x, plainLookup record path = .ok x ∧ x.value = v ∧ x.isNull = false := by
  rw [plainLookup, hv, Result.ok_bind]
  cases v with
  | number n => exact ⟨_, rfl, rfl, rfl⟩
  | text s => exact ⟨_, rfl, rfl, rfl⟩
  | _ => cases hm

/-- Beside a number, a text with an amount counts as that amount. -/
theorem compare?_stated {x y : Scalar} (hm : x.value.statedAmount? = some m)
    (hn : y.value.statedAmount? = some n) :
    x.compare? y = x.value.formulaOrder? y.value := by
  have horder := Value.amountOrder?_eq hm hn
  cases x with
  | number k =>
      cases hm
      cases y with
      | number l => rfl
      | text t =>
          have ht : Scalar.numberOfText? t = some n := hn
          simp only [Scalar.compare?, Scalar.alignPair, ht]
          exact horder.symm
      | _ => cases hn
  | text s =>
      have hs : Scalar.numberOfText? s = some m := hm
      cases y with
      | number l =>
          cases hn
          simp only [Scalar.compare?, Scalar.alignPair, hs]
          exact horder.symm
      | text t => rfl
      | _ => cases hn
  | _ => cases hm

/-- A formula that compares two cells with amounts by order. -/
theorem formula_order (hop : op.isOrder) (hleft : FitsBraces left) (hright : FitsBraces right)
    (hv : record.resolve (trim left) = .ok v) (hw : record.resolve (trim right) = .ok w)
    (hm : v.statedAmount? = some m) (hn : w.statedAmount? = some n) :
    formula (.text (operationText op left right)) record =
      .ok ((v.formulaOrder? w).any op.admits) := by
  obtain ⟨x, hx, rfl, hxnull⟩ := exists_plainLookup hv hm
  obtain ⟨y, hy, rfl, hynull⟩ := exists_plainLookup hw hn
  rw [formula_text, truth_order hop hleft hright hx hy, hxnull, hynull, compare?_stated hm hn]
  rfl

end Expression

namespace Custom.Check

variable {check : Check} {data : Dataset} {records : List Record} {r : Record}
  {left right : String} {op : Operator} {v w : Value} {m n : Number}

/-- The check with a rule about the amounts of two fields in its place. -/
def withAmounts (check : Check) (op : Operator) (left right : String) (tolerance : Binary64) :
    Check :=
  { check with
    rule := .math (.text (fieldText left)) (.text (fieldText right)) (.text op.spelling)
      tolerance }

/-- The check with a formula about two fields in its place. -/
def withFormula (check : Check) (op : Operator) (left right : String) : Check :=
  { check with rule := .formula (.text (operationText op left right)) }

theorem isFilled_fieldText (path : String) : (Value.text (fieldText path)).isFilled := by
  simp [Value.isFilled, fieldText]

theorem isFilled_operationText (op : Operator) (left right : String) :
    (Value.text (operationText op left right)).isFilled := by
  simp [Value.isFilled, operationText, fieldText]

theorem isFilled_spelling (op : Operator) : (Value.text op.spelling).isFilled := by
  cases op <;> rfl

theorem absent_withAmounts (check : Check) (op : Operator) (left right : String)
    (tolerance : Binary64) : (check.withAmounts op left right tolerance).rule.absent = [] := by
  simp [withAmounts, Rule.absent, Rule.parameters, isFilled_fieldText, isFilled_spelling]

theorem absent_withFormula (check : Check) (op : Operator) (left right : String) :
    (check.withFormula op left right).rule.absent = [] := by
  simp [withFormula, Rule.absent, Rule.parameters, isFilled_operationText]

/-- Two amounts are held against each other by their order; the tolerance is not used. -/
theorem holds_order (hop : op.isOrder) (m n : Number) (tolerance : Binary64) :
    holds (.text op.spelling) m n tolerance = .ok ((m.compare? n).any op.admits) := by
  cases op with
  | lt => exact congrArg Except.ok (m.lt_eq_any n)
  | le => exact congrArg Except.ok (m.le_eq_any n)
  | gt => exact congrArg Except.ok (m.gt_eq_any n)
  | ge => exact congrArg Except.ok (m.ge_eq_any n)
  | _ => contradiction

/-! ## Which records are flagged -/

section

variable (hop : op.isOrder) (hleft : FitsBraces left) (hright : FitsBraces right)
  (hv : r.value.resolve (trim left) = .ok v) (hw : r.value.resolve (trim right) = .ok w)
  (hm : v.statedAmount? = some m) (hn : w.statedAmount? = some n)

include hop hleft hright hv hw hm hn

/-- A formula flags a record whose cells are not in the order of formulas. -/
theorem flags_formula :
    (Rule.formula (.text (operationText op left right))).Flags records r ↔
      (v.formulaOrder? w).any op.admits = false := by
  have hformula := Expression.formula_order hop hleft hright hv hw hm hn
  constructor
  · intro hflags
    cases hflags with
    | formula hfails => exact Except.ok.inj (hformula.symm.trans hfails)
  · intro hfails
    rw [hfails] at hformula
    exact .formula hformula

/-- A rule about amounts flags a record whose amounts are finite and not in order. -/
theorem flags_amounts (tolerance : Binary64) :
    (Rule.math (.text (fieldText left)) (.text (fieldText right)) (.text op.spelling)
        tolerance).Flags records r ↔
      m.isFinite = .ok true ∧ n.isFinite = .ok true ∧
        (v.amountOrder? w).any op.admits = false := by
  have hx := Expression.arithmetic_fieldText_eq_some_iff hleft hv hm
  have hy := Expression.arithmetic_fieldText_eq_some_iff hright hw hn
  rw [Value.amountOrder?_eq hm hn]
  constructor
  · intro hflags
    cases hflags with
    | math hxsome hysome hfails =>
        obtain ⟨hmfinite, rfl⟩ := (hx _).1 hxsome
        obtain ⟨hnfinite, rfl⟩ := (hy _).1 hysome
        rw [holds_order hop] at hfails
        exact ⟨hmfinite, hnfinite, Except.ok.inj hfails⟩
  · rintro ⟨hmfinite, hnfinite, hfails⟩
    refine .math ((hx m).2 ⟨hmfinite, rfl⟩) ((hy n).2 ⟨hnfinite, rfl⟩) ?_
    rw [holds_order hop, hfails]

end

/-- The two rules on a record with an amount in each of two cells. The formula flags it if
the cells are not in order, where two texts are ordered as texts; the rule about amounts
if the amounts are finite and not in order. So on finite amounts, unless both are
texts, the two rules flag the same records; on two texts they do if the order of the
texts is like that of the amounts as far as the operator can tell. -/
theorem flags_order (hselected : check.selected data = .ok records) (hr : r ∈ records)
    (hop : op.isOrder) (hleft : FitsBraces left) (hright : FitsBraces right)
    (hv : r.value.resolve (trim left) = .ok v) (hw : r.value.resolve (trim right) = .ok w)
    (hm : v.statedAmount? = some m) (hn : w.statedAmount? = some n) (tolerance : Binary64) :
    ((check.withFormula op left right).Flags data r ↔
      (v.formulaOrder? w).any op.admits = false) ∧
    ((check.withAmounts op left right tolerance).Flags data r ↔
      m.isFinite = .ok true ∧ n.isFinite = .ok true ∧
        (v.amountOrder? w).any op.admits = false) ∧
    (m.isFinite = .ok true → n.isFinite = .ok true →
      (((check.withFormula op left right).Flags data r ↔
          (check.withAmounts op left right tolerance).Flags data r) ↔
        ∀ s t, v = .text s → w = .text t →
          op.admits (Ord.compare s t) = (m.compare? n).any op.admits)) := by
  have hformula := (flags_iff (absent_withFormula check op left right) hselected hr).trans
    (flags_formula hop hleft hright hv hw hm hn)
  have hamounts := (flags_iff (absent_withAmounts check op left right tolerance) hselected hr).trans
    (flags_amounts hop hleft hright hv hw hm hn tolerance)
  refine ⟨hformula, hamounts, fun hmfinite hnfinite => ?_⟩
  rw [hformula, hamounts, and_iff_right hmfinite, and_iff_right hnfinite,
    Value.amountOrder?_eq hm hn]
  by_cases htexts : ∃ s t, v = .text s ∧ w = .text t
  · obtain ⟨s, t, rfl, rfl⟩ := htexts
    have horder : ((Value.text s).formulaOrder? (.text t)).any op.admits =
        op.admits (Ord.compare s t) := rfl
    rw [horder, ← Bool.not_eq_true, ← Bool.not_eq_true, not_iff_not, ← Bool.eq_iff_iff]
    refine ⟨fun hsame => ?_, fun hsame => hsame s t rfl rfl⟩
    rintro _ _ ⟨⟩ ⟨⟩
    exact hsame
  · rw [Value.formulaOrder?_eq htexts, Value.amountOrder?_eq hm hn]
    exact iff_of_true Iff.rfl fun s t hs ht => absurd ⟨s, t, hs, ht⟩ htexts

/-- A number beside a text: both rules flag a header on which more is paid than due. -/
theorem flags_order_mixed :
    let header : Record := ⟨[("paid", .ofInt 12), ("due", .text "9")]⟩
    ∃ data, Dataset.ofRecords [] [header] [] = .ok data ∧
      (sellerRule.withFormula .le "paid" "due").Flags data header ∧
      (sellerRule.withAmounts .le "paid" "due" monetaryTolerance).Flags data header := by
  intro header
  obtain ⟨data, hdata, hselected⟩ : ∃ data, Dataset.ofRecords [] [header] [] = .ok data ∧
      sellerRule.selected data = .ok [header] := ⟨_, rfl, rfl⟩
  have hleft : FitsBraces "paid" := by decide
  have hright : FitsBraces "due" := by decide
  have hpaid : header.value.resolve (trim "paid") = .ok (.ofInt 12) := rfl
  have hdue : header.value.resolve (trim "due") = .ok (.text "9") := rfl
  have hnine : (Value.text "9").statedAmount? = some (.float (.ofInt 9)) := by decide +kernel
  obtain ⟨hformula, hamounts, -⟩ := flags_order hselected (List.mem_singleton_self header)
    (show Operator.le.isOrder from rfl) hleft hright hpaid hdue rfl hnine monetaryTolerance
  exact ⟨data, hdata, hformula.2 (by decide +kernel), hamounts.2 (by decide +kernel)⟩

/-- Two texts: `9` is less than `10`, but as a text it comes after it. -/
theorem formula_orders_texts :
    let header : Record := ⟨[("paid", .text "9"), ("due", .text "10")]⟩
    let formula := sellerRule.withFormula .lt "paid" "due"
    let amounts := sellerRule.withAmounts .lt "paid" "due" monetaryTolerance
    (Value.text "9").statedAmount? = some (.float (.ofInt 9)) ∧
      (Value.text "10").statedAmount? = some (.float (.ofInt 10)) ∧
      ∃ data f, Dataset.ofRecords [] [header] [] = .ok data ∧
        formula.run data = .ok [f] ∧ amounts.run data = .ok [] ∧
        ¬(formula.Flags data header ↔ amounts.Flags data header) := by
  intro header formula amounts
  have hruns : (do
      let data ← Dataset.ofRecords [] [header] []
      let found ← formula.run data
      let other ← amounts.run data
      return (found.length, other.length)) = (.ok (1, 0) : Result (Nat × Nat)) := by
    decide +kernel
  obtain ⟨data, hdata, hruns⟩ := Result.bind_eq_ok.1 hruns
  obtain ⟨found, hfound, hruns⟩ := Result.bind_eq_ok.1 hruns
  obtain ⟨other, hother, hruns⟩ := Result.bind_eq_ok.1 hruns
  obtain ⟨hone, hnone⟩ := Prod.mk.inj (Except.ok.inj hruns)
  obtain ⟨f, rfl⟩ := List.length_eq_one_iff.1 hone
  obtain rfl := List.eq_nil_of_length_eq_zero hnone
  refine ⟨by decide +kernel, by decide +kernel, data, f, hdata, hfound, hother, fun hsame => ?_⟩
  obtain ⟨r, hflags, -⟩ := formula.run_sound data hfound f (List.mem_singleton_self f)
  obtain rfl : r = header := by
    have hr : r ∈ data.headers := hflags.looksAt.1
    rw [(Dataset.records_of_ofRecords hdata).2.1] at hr
    exact List.mem_singleton.1 hr
  obtain ⟨g, hg, -⟩ := run_complete hother (hsame.1 hflags)
  cases hg

end Custom.Check

end InvoiceReadiness
