import InvoiceReadiness.Proofs.Checks.CreditNotes
import InvoiceReadiness.Proofs.Checks.HeaderTotals
import InvoiceReadiness.Proofs.Custom.Operators
import InvoiceReadiness.Proofs.Numeric.Ordering
import InvoiceReadiness.Proofs.Numeric.Padding

/-!
# Larger tolerances

Custom checks of an equation and five checks of the pack hold an amount of a record against
another one, within a tolerance that the parameters give. A record is flagged where the two
do not agree, so a larger tolerance should flag no more records.

A custom check takes the tolerance as it stands, and keeps this law. The checks of the pack
take the tolerance for money in the place of zero. So they keep the law where the smaller
tolerance is not zero, and where the larger one is at least the one for money; a tolerance
between the two flags all that zero does.

## Main results

* `Custom.Check.ofRecord_withTolerance` — what a check has from the tolerance it is given.
* `Pint.AmountCheck.run_reports_each` — what a check of the pack reports.
* `raising_tolerance` — what is flagged within a larger tolerance.
-/

namespace InvoiceReadiness

/-! ## Another tolerance among the parameters -/

/-- The parameters of a configuration or of a check; none if they are no object. -/
def Record.givenParameters (r : Record) : Members :=
  match r.get "parameters" with
  | .object members => members
  | _ => []

/-- A configuration or a check with a tolerance among its parameters, whatever it was. -/
def Record.withTolerance (r : Record) (given : Value) : Record :=
  r.withCell "parameters" (.object (r.givenParameters.set "tolerance" given))

namespace Record

theorem get_withTolerance_ne (r : Record) (given : Value) {name : String}
    (hname : name ≠ "parameters") : (r.withTolerance given).get name = r.get name :=
  r.get_withCell_ne hname _

theorem get_withTolerance_parameters (r : Record) (given fallback : Value) :
    ((r.withTolerance given).get "parameters").orElse fallback =
      .object (r.givenParameters.set "tolerance" given) := by
  have hfilled : (Value.object (r.givenParameters.set "tolerance" given)).isFilled := by
    cases r.givenParameters with
    | nil => rfl
    | cons member rest =>
        rw [Members.set]
        split <;> rfl
  rw [withTolerance, get_withCell_self, Value.orElse, if_pos hfilled]

theorem has_withTolerance_ne (r : Record) (given : Value) {name : String}
    (hname : name ≠ "parameters") : (r.withTolerance given).has name = r.has name :=
  Members.has_set_ne r.members hname _

end Record

/-! ## Custom checks -/

namespace Custom

variable {check : Check} {data : Dataset} {records : List Record} {r : Record}
  {left right operator : Value} {tolerance : Binary64}

/-- The check of two amounts that are to be equal, within a tolerance. -/
def Check.equating (check : Check) (left right : Value) (tolerance : Binary64) : Check :=
  { check with rule := .math left right (.text "=") tolerance }

/-- A configuration of a check that two amounts are equal. -/
structure Equates (config : Record) : Prop where
  rule : config.get "rule_type" = .text RuleType.math.name
  operator : config.givenParameters.get "operator" = .text "="

/-- The tolerance of a configuration is that of the rule of the check, and nothing else about
the check comes from it. -/
theorem Check.ofRecord_withTolerance {config : Record} (hconfig : Equates config)
    (given : Value) :
    ofRecord (config.withTolerance given) = (do
      let check ← ofRecord (config.withTolerance .null)
      let tolerance ← Rule.toleranceOf given
      return check.equating
        ((config.givenParameters.get "left_expression").orElse .null)
        ((config.givenParameters.get "right_expression").orElse .null) tolerance) := by
  have htype (label : Value) : named (.text RuleType.math.name) RuleType.ofName? label .ruleType =
      .ok RuleType.math := rfl
  have hnone : Rule.toleranceOf .null = .ok monetaryTolerance := rfl
  have hoperator : ((Value.text "=").orElse .null) = .text "=" := rfl
  have hget (members : Members) (name : String) :
      (Record.mk members).get name = members.get name := rfl
  simp (disch := decide) only [ofRecord, Record.get_withTolerance_ne, parametersOf,
    Record.get_withTolerance_parameters, hconfig.rule, htype, Result.ok_bind, activity,
    Record.has_withTolerance_ne]
  simp (disch := decide) only [Rule.ofParameters, hget, Members.get_set_self,
    Members.get_set_ne, hnone, hconfig.operator, hoperator, bind_assoc, pure_bind]
  refine congrArg _ (funext fun scope => ?_)
  split
  · rfl
  · rw [bind_assoc]
    rfl

/-- Within a larger tolerance, a check of equal amounts flags no record that it does not flag
within a smaller one. -/
theorem Check.flags_of_le {x y : Binary64} (hle : (Number.float x).le (.float y))
    (h : (check.equating left right y).Flags data r) :
    (check.equating left right x).Flags data r := by
  obtain ⟨habsent, records, hselected, hr, hflags⟩ := h
  refine ⟨habsent, records, hselected, hr, Rule.flags_math_iff.2 ?_⟩
  obtain ⟨m, n, hleft, hright, hfails⟩ := Rule.flags_math_iff.1 hflags
  exact ⟨m, n, hleft, hright, Number.disagree_of_le hle hfails⟩

variable {given : Value} {n : Number} {x : Binary64}

/-- A tolerance that is a number is taken as it stands. -/
theorem Rule.toBinary64_of_toleranceOf (hn : given.toNumber? = some n)
    (h : Rule.toleranceOf given = .ok x) : n.toBinary64 = .ok x := by
  have hnull : given.isNull = false := by
    cases given with
    | null => cases hn
    | _ => rfl
  refine Value.toBinary64_of_toNumber? hn ?_
  rw [Rule.toleranceOf, hnull, if_neg Bool.false_ne_true] at h
  split at h
  · rename_i y hy
    rw [hy, Except.ok.inj h]
  · cases h
  · rw [Result.bind_eq_ok] at h
    obtain ⟨_, -, ⟨⟩⟩ := h

end Custom

/-! ## Checks of the pack -/

namespace Pint

/-- The tolerance that a check of the pack compares with where it is given a number: in the
place of zero it is the one for money. -/
def orMonetary (n : Number) : Number := if n.isNonzero then n else .float monetaryTolerance

theorem toleranceOf_eq {task : Task} {given : Value} {n : Number}
    (hparameter : task.parameter "tolerance" = .ok given) (hn : given.toNumber? = some n) :
    toleranceOf task = .ok (orMonetary n) := by
  rw [toleranceOf, hparameter, Result.ok_bind, hn]
  rfl

section

variable {m n : Number}

theorem orMonetary_le (hzero : Number.zero.le m) (hle : m.le n)
    (h : m.isNonzero ∨ n.isNonzero = false ∨ (Number.float monetaryTolerance).le n) :
    (orMonetary m).le (orMonetary n) := by
  have hmoney : (Number.float monetaryTolerance).le (.float monetaryTolerance) := by
    decide +kernel
  unfold orMonetary
  cases hm : m.isNonzero with
  | true =>
      -- A tolerance that is not less than one above zero is above zero.
      have hn : n.isNonzero = true := by
        by_contra hn
        obtain ⟨hbelow, -⟩ := Number.isNonzero_eq_false_iff.1 (eq_false_of_ne_true hn)
        have hnot := Number.isNonzero_eq_false_iff.2 ⟨Number.le_trans hle hbelow, hzero⟩
        rw [hm] at hnot
        cases hnot
      rw [if_pos rfl, if_pos hn]
      exact hle
  | false =>
      rw [if_neg Bool.false_ne_true]
      split
      · rename_i hn
        rcases h with h | h | h
        · rw [hm] at h
          cases h
        · rw [hn] at h
          cases h
        · exact h
      · exact hmoney

/-- In the place of zero stands a tolerance that is larger than those below it. -/
theorem le_orMonetary (hm : m.isNonzero = false) (hn : n.isNonzero)
    (hle : n.le (.float monetaryTolerance)) : (orMonetary n).le (orMonetary m) := by
  rw [orMonetary, orMonetary, if_pos hn, hm, if_neg Bool.false_ne_true]
  exact hle

end

/-- The checks of the pack that hold an amount of a record against another one. -/
inductive AmountCheck where
  | netSum | totals | lineTax | taxSum | lineNet

namespace AmountCheck

/-- The identifier of the check. -/
def id : AmountCheck → String
  | netSum => "UAE-UC1-CHK-021"
  | totals => "UAE-UC1-CHK-025"
  | lineTax => "UAE-UC1-CHK-028"
  | taxSum => "UAE-UC1-CHK-029"
  | lineNet => "UAE-UC1-CHK-034"

def procedure : AmountCheck → Procedure
  | netSum => lineNetSum
  | totals => headerTotals
  | lineTax => lineVat
  | taxSum => lineVatSum
  | lineNet => Pint.lineNet

/-- The records that the check goes through. -/
def kind : AmountCheck → RecordKind
  | netSum | totals | taxSum => .headers
  | lineTax | lineNet => .lines

/-- The two amounts that are to agree; there is nothing to compare if a cell that has to be a
number is none. -/
def sides (data : Dataset) (r : Record) : AmountCheck → Result (Option (Number × Number))
  | netSum => do
    let sum ← sumOfLines data r "line_total_excl_vat"
    return some (sum, (r.get "total_excl_vat").amount)
  | totals => do
    match (r.get "total_incl_vat").toNumber?, (r.get "total_excl_vat").toNumber?,
        (r.get "vat_total").toNumber? with
    | some incl, some excl, some vat => return some (incl, ← excl.add vat)
    | _, _, _ => return none
  | lineTax => do
    match (r.get "line_total_excl_vat").toNumber?, (r.get "vat_rate").toNumber?,
        (r.get "vat_amount").toNumber? with
    | some base, some rate, some vat => return some (vat, ← base.mul (← rate.div (.whole 100)))
    | _, _, _ => return none
  | taxSum => do
    let sum ← sumOfLines data r "vat_amount"
    return some (sum, (r.get "vat_total").amount)
  | lineNet => do
    match (r.get "quantity").toNumber?, (r.get "unit_price").toNumber?,
        (r.get "line_total_excl_vat").toNumber? with
    | some quantity, some price, some total =>
      return some (total, ← (← quantity.mul price).sub (r.get "line_discount").amount)
    | _, _, _ => return none

/-- The records whose two amounts do not agree within a tolerance. -/
def Flags (c : AmountCheck) (data : Dataset) (tolerance : Number) (r : Record) : Prop :=
  ∃ x y, c.sides data r = .ok (some (x, y)) ∧ x.agree y tolerance = .ok false

/-- Where a record is: a header by its own cells, a line by its header too. -/
def place (data : Dataset) (r : Record) : AmountCheck → Result Coordinates
  | netSum | totals | taxSum => .ok (.ofHeader r)
  | lineTax | lineNet => linePlace data r

/-- A case is about a record if it was opened where the record is. -/
def IsAbout (c : AmountCheck) (data : Dataset) (r : Record) (found : Case) : Prop :=
  c.place data r = .ok found.observation.place

variable {c : AmountCheck} {data : Dataset} {m n : Number} {r : Record}

theorem Flags.of_le (hle : m.le n) (h : c.Flags data n r) : c.Flags data m r := by
  obtain ⟨x, y, hsides, hagree⟩ := h
  exact ⟨x, y, hsides, Number.disagree_of_le hle hagree⟩

theorem flags_iff {x y : Number} (hsides : c.sides data r = .ok (some (x, y))) :
    c.Flags data m r ↔ x.agree y m = .ok false := by
  constructor
  · rintro ⟨x', y', hsides', hagree⟩
    obtain ⟨⟩ := Option.some.inj (Except.ok.inj (hsides.symm.trans hsides'))
    exact hagree
  · exact fun hagree => ⟨x, y, hsides, hagree⟩

/-- A procedure that has nothing to compare says nothing. -/
theorem says_of_sides_none (hsides : c.sides data r = .ok none) :
    Yields (Says (c.Flags data m r) (c.IsAbout data r)) (pure none) := by
  refine Yields.pure_iff.2 (says_none.2 ?_)
  rintro ⟨x, y, hsides', -⟩
  rw [hsides] at hsides'
  cases hsides'

/-- A procedure that compares the two amounts of a record, and says something if they do not
agree. -/
theorem says_of_sides {x y : Number} {rest : Result (Option Case)}
    (hsides : c.sides data r = .ok (some (x, y)))
    (hrest : Yields (fun said => ∃ found, said = some found ∧ c.IsAbout data r found) rest) :
    Yields (Says (c.Flags data m r) (c.IsAbout data r)) (do
      if ← x.agree y m then return none
      rest) := by
  rw [flags_iff hsides]
  simp only [Yields.bind_iff, Yields.ite_iff, Yields.pure_iff, says_none]
  refine fun agrees hagrees => ⟨?_, fun hfails said hsaid => ?_⟩
  · rintro rfl hfails
    rw [hagrees] at hfails
    cases hfails
  · obtain ⟨found, rfl, habout⟩ := hrest hsaid
    rw [Bool.not_eq_true] at hfails
    exact says_some.2 ⟨hfails ▸ hagrees, habout⟩

section Procedures

variable {task : Task} (htolerance : toleranceOf task = .ok m)

theorem isAbout_of_report {observation : Observation} {found : Case}
    (h : c.place task.data r = .ok observation.place) :
    (task.report observation = .ok found → c.IsAbout task.data r found) ↔ True := by
  refine iff_true_intro fun hfound => ?_
  rw [IsAbout, observation_of_report hfound]
  exact h

include htolerance

theorem netSum_reports :
    Yields (ReportsEach task.data.headers (netSum.Flags task.data m)
      (netSum.IsAbout task.data)) (lineNetSum task) := by
  rw [lineNetSum, htolerance, Result.ok_bind]
  refine reportsEach_of_collect fun header _ => Yields.bind_iff.2 fun sum hsum => ?_
  have hplace : netSum.place task.data header = .ok (.ofHeader header) := rfl
  refine says_of_sides (by rw [sides, hsum]; rfl) ?_
  simp [isAbout_of_report, hplace]

theorem taxSum_reports :
    Yields (ReportsEach task.data.headers (taxSum.Flags task.data m)
      (taxSum.IsAbout task.data)) (lineVatSum task) := by
  rw [lineVatSum, htolerance, Result.ok_bind]
  refine reportsEach_of_collect fun header _ => Yields.bind_iff.2 fun sum hsum => ?_
  have hplace : taxSum.place task.data header = .ok (.ofHeader header) := rfl
  refine says_of_sides (by rw [sides, hsum]; rfl) ?_
  simp [isAbout_of_report, hplace]

theorem totals_reports :
    Yields (ReportsEach task.data.headers (totals.Flags task.data m)
      (totals.IsAbout task.data)) (headerTotals task) := by
  rw [headerTotals, htolerance, Result.ok_bind]
  refine reportsEach_of_collect fun header _ => ?_
  unfold totalsCase
  split
  · rename_i incl excl vat hincl hexcl hvat
    refine Yields.bind_iff.2 fun sum hsum => ?_
    have hplace : totals.place task.data header = .ok (.ofHeader header) := rfl
    refine says_of_sides (by simp only [sides, hincl, hexcl, hvat, hsum]; rfl) ?_
    simp [isAbout_of_report, hplace]
  · rename_i hmissing
    refine says_of_sides_none ?_
    rw [sides]
    split
    · rename_i hincl hexcl hvat
      exact (hmissing _ _ _ hincl hexcl hvat).elim
    · rfl

theorem lineTax_reports :
    Yields (ReportsEach task.data.lines (lineTax.Flags task.data m)
      (lineTax.IsAbout task.data)) (lineVat task) := by
  rw [lineVat, htolerance, Result.ok_bind]
  refine reportsEach_of_collect fun line _ => ?_
  split
  · rename_i base rate vat hbase hrate hvat
    refine Yields.bind_iff.2 fun share hshare => Yields.bind_iff.2 fun expected hexpected => ?_
    have hsides : lineTax.sides task.data line = .ok (some (vat, expected)) := by
      simp only [sides, hbase, hrate, hvat, hshare, Result.ok_bind, hexpected]
      rfl
    refine says_of_sides hsides (Yields.bind_iff.2 fun position hposition => ?_)
    simp [isAbout_of_report, place, hposition]
  · rename_i hmissing
    refine says_of_sides_none ?_
    rw [sides]
    split
    · rename_i hbase hrate hvat
      exact (hmissing _ _ _ hbase hrate hvat).elim
    · rfl

theorem lineNet_reports :
    Yields (ReportsEach task.data.lines (lineNet.Flags task.data m)
      (lineNet.IsAbout task.data)) (Pint.lineNet task) := by
  rw [Pint.lineNet, htolerance, Result.ok_bind]
  refine reportsEach_of_collect fun line _ => ?_
  split
  · rename_i quantity price total hquantity hprice htotal
    refine Yields.bind_iff.2 fun product hproduct => Yields.bind_iff.2 fun expected hexpected => ?_
    have hsides : lineNet.sides task.data line = .ok (some (total, expected)) := by
      simp only [sides, hquantity, hprice, htotal, hproduct, Result.ok_bind, hexpected]
      rfl
    refine says_of_sides hsides (Yields.bind_iff.2 fun position hposition => ?_)
    simp [isAbout_of_report, place, hposition]
  · rename_i hmissing
    refine says_of_sides_none ?_
    rw [sides]
    split
    · rename_i hquantity hprice htotal
      exact (hmissing _ _ _ hquantity hprice htotal).elim
    · rfl

theorem procedure_reports (c : AmountCheck) :
    Yields (ReportsEach (task.data.records c.kind) (c.Flags task.data m) (c.IsAbout task.data))
      (c.procedure task) := by
  cases c with
  | netSum => exact netSum_reports htolerance
  | totals => exact totals_reports htolerance
  | lineTax => exact lineTax_reports htolerance
  | taxSum => exact taxSum_reports htolerance
  | lineNet => exact lineNet_reports htolerance

end Procedures

theorem procedureNamed_id (c : AmountCheck) :
    procedureNamed procedures (.text c.id) = .ok (some c.procedure) := by
  cases c <;> rfl

/-- A run of one of the checks reports the records whose amounts do not agree, one by one. -/
theorem run_reports_each {check : Record} (hid : check.get "check_id" = .text c.id)
    {given : Value} (hn : given.toNumber? = some n) :
    Yields (ReportsEach (data.records c.kind) (c.Flags data (orMonetary n)) (c.IsAbout data))
      (runRecord (check.withTolerance given) data) := by
  have hprocedure : procedureOf (check.withTolerance given) = .ok (some c.procedure) := by
    rw [procedureOf, check.get_withTolerance_ne given (by decide), hid, procedureNamed_id]
    rfl
  rw [runRecord, hprocedure, Result.ok_bind]
  dsimp only
  rw [check.get_withTolerance_parameters]
  refine procedure_reports (toleranceOf_eq ?_ hn) c
  exact congrArg Except.ok (Members.get_set_self _ "tolerance" given)

end AmountCheck
end Pint

/-! ## Two tolerances -/

/-- **What is flagged within a larger tolerance.** Two runs are given tolerances that are
numbers, or texts that write them, and the second is at least as large as the first. What a
custom check of an equation flags in the second run it also flags in the first. The same goes
for the checks of the pack on amounts, unless the first tolerance is zero and the second is
above zero and below the one for money: then what is flagged in the first run is flagged in
the second. Each run reports the records that are flagged, one by one. -/
theorem raising_tolerance {given₁ given₂ : Value} {t₁ t₂ : Number}
    (hgiven₁ : given₁.toNumber? = some t₁) (hgiven₂ : given₂.toNumber? = some t₂)
    (hzero : Number.zero.le t₁) (hle : t₁.le t₂) (data : Dataset) :
    (∀ (config : Record) (check₁ check₂ : Custom.Check) (found₁ found₂ : List Finding),
      Custom.Equates config →
      Custom.Check.ofRecord (config.withTolerance given₁) = .ok check₁ →
      Custom.Check.ofRecord (config.withTolerance given₂) = .ok check₂ →
      check₁.run data = .ok found₁ → check₂.run data = .ok found₂ →
      ReportsEach (data.records check₁.scope.kind) (check₁.Flags data)
          (check₁.ReportsOn data) found₁ ∧
        ReportsEach (data.records check₁.scope.kind) (check₂.Flags data)
          (check₁.ReportsOn data) found₂ ∧
        ∀ r, check₂.Flags data r → check₁.Flags data r) ∧
    ∀ (c : Pint.AmountCheck) (check : Record) (cases₁ cases₂ : List Pint.Case),
      check.get "check_id" = .text c.id →
      Pint.runRecord (check.withTolerance given₁) data = .ok cases₁ →
      Pint.runRecord (check.withTolerance given₂) data = .ok cases₂ →
      ReportsEach (data.records c.kind) (c.Flags data (Pint.orMonetary t₁)) (c.IsAbout data)
          cases₁ ∧
        ReportsEach (data.records c.kind) (c.Flags data (Pint.orMonetary t₂)) (c.IsAbout data)
          cases₂ ∧
        (t₁.isNonzero ∨ t₂.isNonzero = false ∨ (Number.float monetaryTolerance).le t₂ →
          ∀ r, c.Flags data (Pint.orMonetary t₂) r → c.Flags data (Pint.orMonetary t₁) r) ∧
        (t₁.isNonzero = false ∧ t₂.isNonzero ∧ t₂.le (.float monetaryTolerance) →
          ∀ r, c.Flags data (Pint.orMonetary t₁) r →
            c.Flags data (Pint.orMonetary t₂) r) := by
  constructor
  · intro config check₁ check₂ found₁ found₂ hconfig hcheck₁ hcheck₂ hrun₁ hrun₂
    rw [Custom.Check.ofRecord_withTolerance hconfig] at hcheck₁ hcheck₂
    obtain ⟨check, hcheck, h⟩ := Result.bind_eq_ok.1 hcheck₁
    obtain ⟨x, hx, ⟨⟩⟩ := Result.bind_eq_ok.1 h
    rw [hcheck, Result.ok_bind] at hcheck₂
    obtain ⟨y, hy, ⟨⟩⟩ := Result.bind_eq_ok.1 hcheck₂
    have hrounded := Number.toBinary64_le hzero hle
      (Custom.Rule.toBinary64_of_toleranceOf hgiven₁ hx)
      (Custom.Rule.toBinary64_of_toleranceOf hgiven₂ hy)
    exact ⟨Custom.Check.run_reports_each rfl hrun₁, Custom.Check.run_reports_each rfl hrun₂,
      fun r => Custom.Check.flags_of_le hrounded⟩
  · intro c check cases₁ cases₂ hid hrun₁ hrun₂
    refine ⟨c.run_reports_each hid hgiven₁ hrun₁, c.run_reports_each hid hgiven₂ hrun₂, ?_, ?_⟩
    · exact fun h r => Pint.AmountCheck.Flags.of_le (Pint.orMonetary_le hzero hle h)
    · rintro ⟨hnone, hsome, hbelow⟩ r
      exact Pint.AmountCheck.Flags.of_le (Pint.le_orMonetary hnone hsome hbelow)

/-- Within the text of 0.005 both checks of totals flag a header that is wrong by 0.008, and
within one neither does. -/
theorem raising_tolerance_text :
    let header := headerOfTotals (.ofInt 1) (.ofFloat (.decimal 1008 3)) (.ofInt 1) (.ofInt 0)
    let small := Value.text " 0.005 "
    ∃ data config check₁ check₂ found₁ found₂ cases₁ cases₂ t,
      Dataset.ofRecords [] [header] [] = .ok data ∧
      Custom.totalsConfig.record = .ok config ∧ Custom.Equates config ∧
      Custom.Check.ofRecord (config.withTolerance small) = .ok check₁ ∧
      Custom.Check.ofRecord (config.withTolerance (.ofInt 1)) = .ok check₂ ∧
      check₁.run data = .ok found₁ ∧ check₂.run data = .ok found₂ ∧
      Pint.runRecord (Pint.totalsCheck.withTolerance small) data = .ok cases₁ ∧
      Pint.runRecord (Pint.totalsCheck.withTolerance (.ofInt 1)) data = .ok cases₂ ∧
      (found₁.length, found₂.length, cases₁.length, cases₂.length) = (1, 0, 1, 0) ∧
      small.toNumber? = some t ∧ t.isNonzero ∧
      (∀ r, check₂.Flags data r → check₁.Flags data r) ∧
      ∀ r, Pint.AmountCheck.totals.Flags data (Pint.orMonetary (.whole 1)) r →
        Pint.AmountCheck.totals.Flags data (Pint.orMonetary t) r := by
  intro header small
  have hruns : (do
      let data ← Dataset.ofRecords [] [header] []
      let config ← Custom.totalsConfig.record
      let check₁ ← Custom.Check.ofRecord (config.withTolerance small)
      let check₂ ← Custom.Check.ofRecord (config.withTolerance (.ofInt 1))
      let found₁ ← check₁.run data
      let found₂ ← check₂.run data
      let cases₁ ← Pint.runRecord (Pint.totalsCheck.withTolerance small) data
      let cases₂ ← Pint.runRecord (Pint.totalsCheck.withTolerance (.ofInt 1)) data
      return (found₁.length, found₂.length, cases₁.length, cases₂.length) : Result _) =
        .ok (1, 0, 1, 0) := by decide +kernel
  obtain ⟨data, hdata, h⟩ := Result.bind_eq_ok.1 hruns
  obtain ⟨config, hconfig, h⟩ := Result.bind_eq_ok.1 h
  obtain ⟨check₁, hcheck₁, h⟩ := Result.bind_eq_ok.1 h
  obtain ⟨check₂, hcheck₂, h⟩ := Result.bind_eq_ok.1 h
  obtain ⟨found₁, hfound₁, h⟩ := Result.bind_eq_ok.1 h
  obtain ⟨found₂, hfound₂, h⟩ := Result.bind_eq_ok.1 h
  obtain ⟨cases₁, hcases₁, h⟩ := Result.bind_eq_ok.1 h
  obtain ⟨cases₂, hcases₂, h⟩ := Result.bind_eq_ok.1 h
  have hequates : Custom.Equates config := by
    rw [← Except.ok.inj hconfig]
    exact ⟨rfl, rfl⟩
  have hread : (readNumber? (trim " 0.005 ")).any fun x =>
      Number.zero.le (.float x) && (Number.float x).le (.whole 1) &&
        (Number.float x).isNonzero := by decide +kernel
  obtain ⟨x, hx, hbounds⟩ := (Option.any_eq_true _ _).1 hread
  simp only [Bool.and_eq_true] at hbounds
  obtain ⟨⟨hzero, hle⟩, hnonzero⟩ := hbounds
  have hsmall : small.toNumber? = some (.float x) := by rw [Value.toNumber?, hx]; rfl
  have hone : (Value.ofInt 1).toNumber? = some (.whole 1) := rfl
  obtain ⟨hcustom, hpack⟩ := raising_tolerance hsmall hone hzero hle data
  obtain ⟨-, -, hcustom⟩ :=
    hcustom config check₁ check₂ found₁ found₂ hequates hcheck₁ hcheck₂ hfound₁ hfound₂
  obtain ⟨-, -, hpack, -⟩ := hpack .totals Pint.totalsCheck cases₁ cases₂ rfl hcases₁ hcases₂
  exact ⟨data, config, check₁, check₂, found₁, found₂, cases₁, cases₂, .float x, hdata, hconfig,
    hequates, hcheck₁, hcheck₂, hfound₁, hfound₂, hcases₁, hcases₂, Except.ok.inj h, hsmall,
    hnonzero, hcustom, hpack (.inl hnonzero)⟩

/-- Where the checks of the pack break the law. Within zero the check of totals takes the
tolerance for money instead, and passes a header that is wrong by 0.008; within 0.005 it flags
that header. A custom check flags it within either. -/
theorem raising_tolerance_from_zero :
    let header := headerOfTotals (.ofInt 1) (.ofFloat (.decimal 1008 3)) (.ofInt 1) (.ofInt 0)
    let pack (given : Value) : Result Nat := do
      let data ← Dataset.ofRecords [] [header] []
      return (← Pint.runRecord (Pint.totalsCheck.withTolerance given) data).length
    let custom (given : Value) : Result Nat := do
      let data ← Dataset.ofRecords [] [header] []
      let check ← Custom.Check.ofRecord ((← Custom.totalsConfig.record).withTolerance given)
      return (← check.run data).length
    pack (.ofInt 0) = .ok 0 ∧ pack (.ofFloat (.decimal 5 3)) = .ok 1 ∧
      custom (.ofInt 0) = .ok 1 ∧ custom (.ofFloat (.decimal 5 3)) = .ok 1 := by
  decide +kernel

end InvoiceReadiness
