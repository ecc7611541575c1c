import InvoiceReadiness.Proofs.Custom.Locality
import InvoiceReadiness.Proofs.Custom.Running

/-!
# Operators of rules about amounts

A rule about amounts names the relation in which the two sides have to be, and flags the
records on which they are not. Its six operators come in pairs, for a relation and for its
opposite: agreement within the tolerance, less, and greater.

A side that comes to an amount comes to a finite one, so two amounts are in a relation or in
its opposite, never in neither. This is what makes the pairs complementary: a not-a-number
would be in none of the six. An operator that is none of the six names no relation, and two
amounts are never in it; but an operator that is empty is a parameter that is not there, and
the check is skipped.

## Main results

* `Check.run_reports_each` — a rule about amounts reports what it flags, one by one.
* `Check.flags_weighing_iff` — the records that it flags.
* `Check.opposite_operators` — pairs of opposite operators, and what is no operator.
-/

namespace InvoiceReadiness

namespace Expression

variable {v record : Value} {n : Number}

theorem isFinite_of_arithmetic_eq_some (h : arithmetic v record = .ok (some n)) :
    n.isFinite = .ok true := by
  obtain ⟨s, rfl⟩ := exists_text_of_arithmetic h
  exact isFinite_of_arithmetic h

/-- A side that comes to an amount is a parameter that is there. -/
theorem isFilled_of_arithmetic (h : arithmetic v record = .ok (some n)) : v.isFilled := by
  obtain ⟨s, rfl⟩ := exists_text_of_arithmetic h
  have hblank : arithmetic (.text "") record = .ok none := rfl
  rw [Value.isFilled, bne_iff_ne]
  rintro rfl
  rw [hblank] at h
  cases h

end Expression

namespace Custom

/-! ## Relations -/

/-- The relations of two amounts that a rule can ask for. -/
inductive Relation where
  /-- Their difference is within the tolerance. -/
  | agree
  | less
  | greater

namespace Relation

variable {relation : Relation} {tolerance : Binary64} {x y : Number}

/-- The operator by which a rule asks for the relation. -/
def operator : Relation → String
  | agree => "="
  | less => "<"
  | greater => ">"

/-- The operator by which a rule asks that the relation does not hold. -/
def opposite : Relation → String
  | agree => "!="
  | less => ">="
  | greater => "<="

/-- Two amounts are in the relation. -/
def Relates (tolerance : Binary64) (x y : Number) : Relation → Prop
  | agree => x.agree y (.float tolerance) = .ok true
  | less => x.lt y
  | greater => y.lt x

theorem holds_operator_iff :
    Check.holds (.text relation.operator) x y tolerance = .ok true ↔
      relation.Relates tolerance x y := by
  cases relation with
  | agree => exact Iff.rfl
  | less => exact ⟨Except.ok.inj, congrArg Except.ok⟩
  | greater => exact ⟨Except.ok.inj, congrArg Except.ok⟩

/-- Of two finite amounts an operator holds where its opposite does not. -/
theorem holds_opposite (hx : x.isFinite = .ok true) (hy : y.isFinite = .ok true) :
    Check.holds (.text relation.opposite) x y tolerance =
      (Check.holds (.text relation.operator) x y tolerance).map (!·) := by
  obtain ⟨order, horder⟩ := Number.exists_compare? hx hy
  cases relation with
  | agree => rfl
  | less =>
      have hle : y.le x = !x.lt y := by
        rw [Number.ge_eq_any, Number.lt_eq_any, horder]
        cases order <;> rfl
      exact congrArg Except.ok hle
  | greater =>
      have hle : x.le y = !y.lt x := by
        rw [Number.le_eq_any, Number.gt_eq_any, horder]
        cases order <;> rfl
      exact congrArg Except.ok hle

end Relation

/-! ## Checks of two amounts -/

variable {check : Check} {data : Dataset} {records : List Record} {r : Record}
  {left right operator : Value} {tolerance : Binary64} {found : List Finding}

/-- A rule about two amounts flags a record by what the amounts are there. -/
theorem Rule.flags_math_iff :
    (Rule.math left right operator tolerance).Flags records r ↔
      ∃ x y, Expression.arithmetic left r.value = .ok (some x) ∧
        Expression.arithmetic right r.value = .ok (some y) ∧
        Check.holds operator x y tolerance = .ok false := by
  constructor
  · intro h
    cases h with
    | math hleft hright hfails => exact ⟨_, _, hleft, hright, hfails⟩
  · rintro ⟨x, y, hleft, hright, hfails⟩
    exact .math hleft hright hfails

namespace Check

/-- A check of two amounts reports the records that it flags, one by one. -/
theorem run_reports_each (hrule : check.rule = .math left right operator tolerance) :
    Yields (ReportsEach (data.records check.scope.kind) (check.Flags data)
      (check.ReportsOn data)) (check.run data) := by
  have hlocal : check.rule.IsLocal := by
    intro fields
    rw [hrule]
    exact Rule.noConfusion
  intro found hfound
  exact (run_reports_alone hlocal hfound).congr fun r hr =>
    (flags_iff_flagsAlone hlocal hfound hr).symm

/-- The check with a rule about amounts in its place. -/
def weighing (check : Check) (left right operator : Value) (tolerance : Binary64) : Check :=
  { check with rule := .math left right operator tolerance }

/-- The check looks at a record on which both sides come to amounts. -/
structure Weighs (check : Check) (data : Dataset) (left right : Value) (r : Record)
    (x y : Number) : Prop where
  looksAt : check.LooksAt data r
  left : Expression.arithmetic left r.value = .ok (some x)
  right : Expression.arithmetic right r.value = .ok (some y)

theorem absent_weighing_eq_nil_iff :
    (check.weighing left right operator tolerance).rule.absent = [] ↔
      left.isFilled ∧ right.isFilled ∧ operator.isFilled := by
  simp [weighing, Rule.absent, Rule.parameters, List.filterMap_eq_nil_iff]

/-- The records that a rule about amounts flags if it has an operator. -/
theorem flags_weighing_iff (hoperator : operator.isFilled)
    (hrun : (check.weighing left right operator tolerance).run data = .ok found) :
    (check.weighing left right operator tolerance).Flags data r ↔
      ∃ x y, check.Weighs data left right r x y ∧ holds operator x y tolerance = .ok false := by
  constructor
  · intro hflags
    have hlooksAt := hflags.looksAt
    obtain ⟨-, records, -, -, hflags⟩ := hflags
    obtain ⟨x, y, hleft, hright, hfails⟩ := Rule.flags_math_iff.1 hflags
    exact ⟨x, y, ⟨hlooksAt, hleft, hright⟩, hfails⟩
  · rintro ⟨x, y, hweighs, hfails⟩
    have habsent : (check.weighing left right operator tolerance).rule.absent = [] :=
      absent_weighing_eq_nil_iff.2 ⟨Expression.isFilled_of_arithmetic hweighs.left,
        Expression.isFilled_of_arithmetic hweighs.right, hoperator⟩
    obtain ⟨records, hselected, hmem⟩ := exists_selected habsent hrun
    exact (flags_iff habsent hselected ((hmem r).2 hweighs.looksAt)).2
      (.math hweighs.left hweighs.right hfails)

section

variable {relation : Relation} {x y : Number}

/-- A record with both amounts is flagged if they do not hold against each other. -/
theorem Weighs.flags_iff (h : check.Weighs data left right r x y) (hoperator : operator.isFilled)
    (hrun : (check.weighing left right operator tolerance).run data = .ok found) :
    (check.weighing left right operator tolerance).Flags data r ↔
      holds operator x y tolerance = .ok false := by
  rw [flags_weighing_iff hoperator hrun]
  constructor
  · rintro ⟨x', y', h', hfails⟩
    obtain ⟨⟩ := h.left.symm.trans h'.left
    obtain ⟨⟩ := h.right.symm.trans h'.right
    exact hfails
  · exact fun hfails => ⟨x, y, h, hfails⟩

theorem Weighs.holds_operator_iff (h : check.Weighs data left right r x y) :
    holds (.text relation.operator) x y tolerance = .ok false ↔
      ¬relation.Relates tolerance x y := by
  rw [← Relation.holds_operator_iff]
  obtain ⟨⟨b, hb⟩, -⟩ := returns_holds h.left h.right (.text relation.operator) tolerance
  rw [hb]
  cases b <;> decide

theorem Weighs.holds_opposite_iff (h : check.Weighs data left right r x y) :
    holds (.text relation.opposite) x y tolerance = .ok false ↔
      relation.Relates tolerance x y := by
  rw [← Relation.holds_operator_iff,
    Relation.holds_opposite (Expression.isFinite_of_arithmetic_eq_some h.left)
      (Expression.isFinite_of_arithmetic_eq_some h.right)]
  obtain ⟨⟨b, hb⟩, -⟩ := returns_holds h.left h.right (.text relation.operator) tolerance
  rw [hb]
  cases b <;> decide

theorem isFilled_operator (relation : Relation) : (Value.text relation.operator).isFilled := by
  cases relation <;> rfl

theorem isFilled_opposite (relation : Relation) : (Value.text relation.opposite).isFilled := by
  cases relation <;> rfl

/-- No amounts are in a relation that has no operator. -/
theorem holds_eq_false (hoperator : ∀ relation : Relation,
      operator ≠ .text relation.operator ∧ operator ≠ .text relation.opposite) :
    holds operator x y tolerance = .ok false := by
  unfold holds
  split
  · exact absurd rfl (hoperator .agree).1
  · exact absurd rfl (hoperator .agree).2
  · exact absurd rfl (hoperator .greater).1
  · exact absurd rfl (hoperator .less).1
  · exact absurd rfl (hoperator .less).2
  · exact absurd rfl (hoperator .greater).2
  · rfl

end

/-- **Pairs of operators.** Two checks of the same amounts ask for a relation and for its
opposite, and both runs return. Each record that the checks look at and on which both sides
come to amounts is flagged by exactly one of them: by the first if the amounts are not in the
relation, and by the second if they are. No other record is flagged by either. With any other
operator all records with both amounts are flagged if the operator is there; if it is empty
the check is skipped. The runs report what is flagged, one by one. -/
theorem opposite_operators (check : Check) (data : Dataset) (left right : Value)
    (tolerance : Binary64) :
    (∀ (relation : Relation) (found opposed : List Finding),
      let asking := check.weighing left right (.text relation.operator) tolerance
      let opposing := check.weighing left right (.text relation.opposite) tolerance
      asking.run data = .ok found → opposing.run data = .ok opposed →
        ReportsEach (data.records check.scope.kind) (asking.Flags data) (check.ReportsOn data)
          found ∧
        ReportsEach (data.records check.scope.kind) (opposing.Flags data) (check.ReportsOn data)
          opposed ∧
        (∀ r x y, check.Weighs data left right r x y →
          (asking.Flags data r ↔ ¬relation.Relates tolerance x y) ∧
          (opposing.Flags data r ↔ relation.Relates tolerance x y)) ∧
        ∀ r, (¬∃ x y, check.Weighs data left right r x y) →
          ¬asking.Flags data r ∧ ¬opposing.Flags data r) ∧
    ∀ operator : Value, (∀ relation : Relation,
        operator ≠ .text relation.operator ∧ operator ≠ .text relation.opposite) →
      (operator.isFilled → ∀ found,
        (check.weighing left right operator tolerance).run data = .ok found →
        ReportsEach (data.records check.scope.kind)
          (fun r => ∃ x y, check.Weighs data left right r x y) (check.ReportsOn data) found) ∧
      (operator.isFilled = false →
        (check.weighing left right operator tolerance).run data = .ok []) := by
  constructor
  · intro relation found opposed asking opposing hfound hopposed
    have hoperator := isFilled_operator relation
    have hopposite := isFilled_opposite relation
    refine ⟨run_reports_each rfl hfound, run_reports_each rfl hopposed, fun r x y h => ⟨?_, ?_⟩,
      fun r hnone => ?_⟩
    · exact (h.flags_iff hoperator hfound).trans h.holds_operator_iff
    · exact (h.flags_iff hopposite hopposed).trans h.holds_opposite_iff
    · rw [flags_weighing_iff hoperator hfound, flags_weighing_iff hopposite hopposed]
      constructor <;> rintro ⟨x, y, h, -⟩ <;> exact hnone ⟨x, y, h⟩
  · intro operator hnone
    refine ⟨fun hfilled found hfound => ?_, fun hempty => ?_⟩
    · refine (run_reports_each rfl hfound).congr fun r _ => ?_
      rw [flags_weighing_iff hfilled hfound]
      refine exists_congr fun x => exists_congr fun y => ?_
      exact and_iff_left (holds_eq_false hnone)
    · refine run_of_absent _ data fun habsent => ?_
      have hfilled := (absent_weighing_eq_nil_iff.1 habsent).2.2
      rw [hempty] at hfilled
      cases hfilled

/-- The seller's check with a rule about what is paid and what is due. -/
def paymentRule (operator : String) : Check :=
  sellerRule.weighing (.text "\x7bpaid\x7d") (.text "\x7bdue\x7d") (.text operator)
    monetaryTolerance

/-- A header on which more is paid than is due is flagged by `<` and not by `>=`, and one on
which nothing is paid by neither. What is no operator flags the two headers with both amounts. -/
theorem opposite_operators_less :
    let overpaid : Record := ⟨[("paid", .text "12"), ("due", .ofInt 9)]⟩
    let underpaid : Record := ⟨[("paid", .ofInt 9), ("due", .ofInt 12)]⟩
    let unpaid : Record := ⟨[("due", .ofInt 9)]⟩
    ∃ data found opposed other, Dataset.ofRecords [] [overpaid, underpaid, unpaid] [] = .ok data ∧
      (paymentRule "<").run data = .ok found ∧ (paymentRule ">=").run data = .ok opposed ∧
      (paymentRule "~").run data = .ok other ∧
      (found.length, opposed.length, other.length) = (1, 1, 2) ∧
      ((paymentRule "<").Flags data overpaid ∧ ¬(paymentRule ">=").Flags data overpaid) ∧
      (¬(paymentRule "<").Flags data unpaid ∧ ¬(paymentRule ">=").Flags data unpaid) ∧
      ReportsEach data.headers
        (fun r => ∃ x y, sellerRule.Weighs data (.text "\x7bpaid\x7d") (.text "\x7bdue\x7d") r x y)
        (sellerRule.ReportsOn data) other := by
  intro overpaid underpaid unpaid
  have hruns : (do
      let data ← Dataset.ofRecords [] [overpaid, underpaid, unpaid] []
      let found ← (paymentRule "<").run data
      let opposed ← (paymentRule ">=").run data
      let other ← (paymentRule "~").run data
      return (found.length, opposed.length, other.length) : Result _) = .ok (1, 1, 2) := by
    decide +kernel
  obtain ⟨data, hdata, h⟩ := Result.bind_eq_ok.1 hruns
  obtain ⟨found, hfound, h⟩ := Result.bind_eq_ok.1 h
  obtain ⟨opposed, hopposed, h⟩ := Result.bind_eq_ok.1 h
  obtain ⟨other, hother, h⟩ := Result.bind_eq_ok.1 h
  obtain ⟨hpairs, hnone⟩ := opposite_operators sellerRule data (.text "\x7bpaid\x7d")
    (.text "\x7bdue\x7d") monetaryTolerance
  obtain ⟨-, -, hweighed, hpassed⟩ := hpairs .less found opposed hfound hopposed
  have hheaders : data.headers = [overpaid, underpaid, unpaid] :=
    (Dataset.records_of_ofRecords hdata).2.1
  have hmem : overpaid ∈ data.headers := hheaders ▸ List.mem_cons_self
  have hpaidOver : sellerRule.Weighs data (.text "\x7bpaid\x7d") (.text "\x7bdue\x7d") overpaid
      (.float (.ofInt 12)) (.whole 9) :=
    ⟨⟨hmem, rfl⟩, by decide +kernel, by decide +kernel⟩
  have hunpaid : Expression.arithmetic (.text "\x7bpaid\x7d") unpaid.value = .ok none := by
    decide +kernel
  have hless : ¬Relation.less.Relates monetaryTolerance (.float (.ofInt 12)) (.whole 9) := by
    change ¬Number.lt _ _ = true
    decide +kernel
  obtain ⟨hasking, hopposing⟩ := hweighed overpaid _ _ hpaidOver
  have hunknown (relation : Relation) : Value.text "~" ≠ .text relation.operator ∧
      Value.text "~" ≠ .text relation.opposite := by
    cases relation <;> simp [Relation.operator, Relation.opposite]
  refine ⟨data, found, opposed, other, hdata, hfound, hopposed, hother, Except.ok.inj h,
    ⟨hasking.2 hless, fun hflags => hless (hopposing.1 hflags)⟩, hpassed unpaid ?_,
    (hnone (.text "~") hunknown).1 rfl other hother⟩
  rintro ⟨x, y, hweighs⟩
  have hpaid := hweighs.left
  rw [hunpaid] at hpaid
  cases hpaid

/-- An operator that is empty flags nothing: the check is skipped, although the header has both
amounts and they are not equal. -/
theorem weighing_without_operator :
    let overpaid : Record := ⟨[("paid", .text "12"), ("due", .ofInt 9)]⟩
    (∀ relation : Relation, "" ≠ relation.operator ∧ "" ≠ relation.opposite) ∧
      ∃ data x y, Dataset.ofRecords [] [overpaid] [] = .ok data ∧
        sellerRule.Weighs data (.text "\x7bpaid\x7d") (.text "\x7bdue\x7d") overpaid x y ∧
        (paymentRule "").run data = .ok [] ∧ ¬(paymentRule "").Flags data overpaid := by
  intro overpaid
  obtain ⟨data, hdata⟩ : Returns (Dataset.ofRecords [] [overpaid] []) :=
    .of_isOk (by decide +kernel)
  have hmem : overpaid ∈ data.headers :=
    (Dataset.records_of_ofRecords hdata).2.1 ▸ List.mem_cons_self
  refine ⟨fun relation => by cases relation <;> decide, data, .float (.ofInt 12), .whole 9, hdata,
    ⟨⟨hmem, rfl⟩, by decide +kernel, by decide +kernel⟩, ?_, ?_⟩
  · exact run_of_absent _ data (by decide)
  · rintro ⟨habsent, -⟩
    exact absurd habsent (by decide)

end Check

end Custom

end InvoiceReadiness
