import InvoiceReadiness.Proofs.Expression.Faults
import InvoiceReadiness.Proofs.Numeric.Padding
import InvoiceReadiness.Proofs.Value.Showing

/-!
# Amounts of cells

The checks that come with the library take the number of a cell with
`Value.toNumber?`; the checks of users take it with an expression. The two ways differ
in much, in what they do with texts, truth values and missing cells, and still they
come to the same amount: an operator that has no number to work with fails, or makes a
text, and either way there is no amount.

One thing has to be excluded. `Value.toNumber?` drops the blanks around a text before
it reads a number, and an expression does not; information separators are blanks, but
no number may be padded with them. `Value.ReadsAlike` says that this makes no
difference.

## Main results

* `Expression.arithmetic_cell` — the amount of a field is the number of its cell.
* `Expression.arithmetic_sum` — the amount of a sum of two fields is the sum of the
  numbers of their cells, and none if one of them has no number.
-/

namespace InvoiceReadiness

/-- Trimming makes no difference to the number that a text writes. -/
def Value.ReadsAlike (v : Value) : Prop :=
  ∀ s, v = .text s → readNumber? (trim s) = readNumber? s

/-- A text without information separators reads the same with and without the blanks
around it. -/
theorem Value.readsAlike_of_margins {s : String}
    (h : s.toList.all fun c => isBlankChar c == isNumberMargin c) :
    (Value.text s).ReadsAlike := by
  have hsame : ∀ c ∈ s.toList, isBlankChar c = isNumberMargin c :=
    fun c hc => beq_iff_eq.1 (List.all_eq_true.1 h c hc)
  rintro _ ⟨⟩
  rw [readNumber?, readNumber?, trim, String.toList_ofList, trimBlanks,
    trimChars_congr hsame, trimChars_trimChars]

/-- The sum of the numbers of two cells; none if one of them has no number. -/
def Value.sum? (v w : Value) : Option Number :=
  match v.toNumber?, w.toNumber? with
  | some m, some n => (m.add n).toOption
  | _, _ => none

theorem Value.toNumber?_of_sum? {v w : Value} {sum : Number} (h : v.sum? w = some sum) :
    (∃ m, v.toNumber? = some m) ∧ ∃ n, w.toNumber? = some n := by
  unfold Value.sum? at h
  split at h
  · rename_i m n hm hn
    exact ⟨⟨m, hm⟩, ⟨n, hn⟩⟩
  · cases h

theorem Value.sum?_eq_none {v w : Value} (h : v.toNumber? = none ∨ w.toNumber? = none) :
    v.sum? w = none := by
  cases hsum : v.sum? w with
  | none => rfl
  | some sum =>
      obtain ⟨⟨m, hm⟩, n, hn⟩ := Value.toNumber?_of_sum? hsum
      simp [hm, hn] at h

/-- The number of a cell keeps to the digit limit if the cell does. -/
theorem Value.withinDigits_of_toNumber? {v : Value} {n : Number} (hv : v.withinDigits)
    (hn : v.toNumber? = some n) : (Value.number n).withinDigits := by
  cases v with
  | number m =>
      cases hn
      exact hv
  | text s =>
      rw [Value.toNumber?, Option.map_eq_some_iff] at hn
      obtain ⟨x, -, rfl⟩ := hn
      rfl
  | _ => cases hn

namespace Expression

/-! ## Looking up a cell -/

/-- What an amount takes from a cell that is looked up under a path. -/
def scalarOfCell (path : String) : Value → Result Scalar
  | .null => .error (.expression (.missingField path))
  | .text s => .ok (((Scalar.numberOfText? s).map Scalar.number).getD (.text s))
  | v => Scalar.ofValue v

theorem resolve_cell (r : Record) {cell : String}
    (hcell : Value.segments cell = [cell.toList]) :
    r.value.resolve cell = .ok (r.get cell) := by
  rw [Value.resolve, hcell, Record.value, Value.follow, String.ofList_toList, Value.follow]
  rfl

theorem amountLookup_cell (r : Record) {cell : String}
    (hcell : Value.segments cell = [cell.toList]) :
    amountLookup r.value cell = scalarOfCell cell (r.get cell) := by
  rw [amountLookup, resolve_cell r hcell, Result.ok_bind]
  cases r.get cell <;> rfl

theorem numberOfText?_eq (s : String) :
    Scalar.numberOfText? s = (readNumber? s).map .float := by
  rw [Scalar.numberOfText?]
  split
  · rename_i hblank
    have hall : ∀ c ∈ s.toList, isBlankChar c := fun c =>
      isBlankChar_of_trimBlanks (List.isEmpty_iff.1 hblank)
    rw [readNumber?_blank hall]
    rfl
  · rfl

/-- What an amount takes from a cell: its number; if it has none something that is no
number, or a fault of the language. -/
inductive TakenFrom (v : Value) : Result Scalar → Prop where
  | number {n : Number} (h : v.toNumber? = some n) : TakenFrom v (.ok (.number n))
  | other {x : Scalar} (h : v.toNumber? = none) (hnot : x.isNumber = false)
      (hnull : x.isNull = false) (hplain : ∃ s, x.plain = .ok s) : TakenFrom v (.ok x)
  | fault {cause : ExpressionFault} (h : v.toNumber? = none) :
      TakenFrom v (.error (.expression cause))

theorem takenFrom_scalarOfCell (path : String) {v : Value} (hv : v.ReadsAlike) :
    TakenFrom v (scalarOfCell path v) := by
  cases v with
  | null => exact .fault rfl
  | bool b => exact .other rfl rfl rfl ⟨_, rfl⟩
  | number n => exact .number rfl
  | text s =>
      have hnumber : (Value.text s).toNumber? = (readNumber? s).map .float := by
        rw [Value.toNumber?, hv s rfl]
      rw [scalarOfCell, numberOfText?_eq]
      cases hread : readNumber? s with
      | some x =>
          rw [hread] at hnumber
          exact .number hnumber
      | none =>
          rw [hread] at hnumber
          exact .other hnumber rfl rfl ⟨s, rfl⟩
  | list items => exact .fault rfl
  | object members => exact .fault rfl

/-! ## The amount of a cell -/

/-- The amount of a field is the number of its cell, if that is finite. -/
theorem arithmetic_cell {s path : String} {record v : Value} (hv : v.ReadsAlike)
    (hamount : amount s record = scalarOfCell path v)
    (hfinite : ∀ n, v.toNumber? = some n → n.isFinite = .ok true) :
    arithmetic (.text s) record = .ok v.toNumber? := by
  have htaken := takenFrom_scalarOfCell path hv
  rw [← hamount] at htaken
  rw [arithmetic_text]
  generalize amount s record = scalar at htaken
  cases htaken with
  | number hn =>
      simp only [hfinite _ hn, hn]
      rfl
  | @other x hnone hnot =>
      rw [hnone]
      cases x with
      | number n => cases hnot
      | _ => rfl
  | fault hnone =>
      rw [hnone]
      rfl

/-! ## The amount of a sum -/

theorem numberFor_of_not_number {x : Scalar} {s : String} (operator : String)
    (hnot : x.isNumber = false) (hplain : x.plain = .ok s) :
    x.numberFor operator = .error (.expression (.notNumeric operator s)) := by
  cases x
  case number n => cases hnot
  all_goals
    rw [Scalar.numberFor, hplain, Result.ok_bind]
    · rfl
    · rintro n ⟨⟩

theorem applyOperator_add_numbers (m n : Number) :
    applyOperator .add (.number m) (.number n) = (do return .number (← m.add n)) := rfl

/-- The sum of two scalars, neither of them null, of which one is no number: a text, or
a fault of the language. -/
theorem applyOperator_add_of_not_number {x y : Scalar}
    (hnot : x.isNumber = false ∨ y.isNumber = false)
    (hx : x.isNull = false) (hy : y.isNull = false)
    (hxplain : ∃ s, x.plain = .ok s) (hyplain : ∃ s, y.plain = .ok s) :
    (∃ s, applyOperator .add x y = .ok (.text s)) ∨
      ∃ cause, applyOperator .add x y = .error (.expression cause) := by
  obtain ⟨s, hs⟩ := hxplain
  obtain ⟨t, ht⟩ := hyplain
  by_cases htext : (x.isText || y.isText) = true
  · refine .inl ⟨s ++ t, ?_⟩
    simp only [applyOperator, htext, hx, hy, hs, ht, Result.ok_bind]
    rfl
  · have hnumbers : applyOperator .add x y = (do
        let a ← x.numberFor Operator.add.spelling
        let b ← y.numberFor Operator.add.spelling
        return .number (← arithmeticResult .add a b)) := by
      simp only [applyOperator, htext]
      rfl
    refine .inr ?_
    rw [hnumbers]
    by_cases hxnumber : x.isNumber = false
    · rw [numberFor_of_not_number _ hxnumber hs]
      exact ⟨_, rfl⟩
    · obtain ⟨n, rfl⟩ : ∃ n, x = .number n := by
        cases x <;> simp_all [Scalar.isNumber]
      rw [numberFor_of_not_number _ (hnot.resolve_left hxnumber) ht]
      exact ⟨_, rfl⟩

/-- There is no amount where one of two scalars that are added is no number. -/
theorem arithmetic_of_not_number {s : String} {record : Value} {x y : Scalar}
    (hamount : amount s record = applyOperator .add x y)
    (hnot : x.isNumber = false ∨ y.isNumber = false)
    (hx : x.isNull = false) (hy : y.isNull = false)
    (hxplain : ∃ s, x.plain = .ok s) (hyplain : ∃ s, y.plain = .ok s) :
    arithmetic (.text s) record = .ok none := by
  rw [arithmetic_text, hamount]
  rcases applyOperator_add_of_not_number hnot hx hy hxplain hyplain with
    ⟨t, ht⟩ | ⟨cause, hcause⟩
  · rw [ht]
  · rw [hcause]
    rfl

/-- The amount of a sum of two fields is the sum of the numbers of their cells, if that
is finite, and none if one of the cells has no number. -/
theorem arithmetic_sum {s p q : String} {record v w : Value} (hv : v.ReadsAlike)
    (hw : w.ReadsAlike) (hvdigits : v.withinDigits) (hwdigits : w.withinDigits)
    (hamount : amount s record = (do
      let x ← scalarOfCell p v
      let y ← scalarOfCell q w
      applyOperator .add x y))
    (hfinite : ∀ m n, v.toNumber? = some m → w.toNumber? = some n →
      ∃ sum, m.add n = .ok sum ∧ sum.isFinite = .ok true) :
    arithmetic (.text s) record = .ok (v.sum? w) := by
  have hvtaken := takenFrom_scalarOfCell p hv
  have hwtaken := takenFrom_scalarOfCell q hw
  generalize scalarOfCell p v = left at hvtaken hamount
  generalize scalarOfCell q w = right at hwtaken hamount
  cases hvtaken with
  | fault hvnone =>
      rw [arithmetic_text, hamount, Value.sum?_eq_none (.inl hvnone)]
      rfl
  | @number m hm =>
      have hmplain : ∃ s, (Scalar.number m).plain = .ok s :=
        Value.exists_plain (Value.withinDigits_of_toNumber? hvdigits hm)
      cases hwtaken with
      | fault hwnone =>
          rw [arithmetic_text, hamount, Value.sum?_eq_none (.inr hwnone)]
          rfl
      | @number n hn =>
          obtain ⟨sum, hsum, hsumfinite⟩ := hfinite _ _ hm hn
          have hvalue : amount s record = .ok (.number sum) := by
            rw [hamount, Result.ok_bind, Result.ok_bind, applyOperator_add_numbers, hsum]
            rfl
          rw [arithmetic_text, hvalue, Value.sum?, hm, hn]
          simp only [hsumfinite, hsum]
          rfl
      | other hwnone hnot hnull hplain =>
          rw [Value.sum?_eq_none (.inr hwnone)]
          exact arithmetic_of_not_number hamount (.inr hnot) rfl hnull hmplain hplain
  | other hvnone hnot hnull hplain =>
      rw [Value.sum?_eq_none (.inl hvnone)]
      cases hwtaken with
      | fault hwnone =>
          rw [arithmetic_text, hamount]
          rfl
      | @number n hn =>
          have hnplain : ∃ s, (Scalar.number n).plain = .ok s :=
            Value.exists_plain (Value.withinDigits_of_toNumber? hwdigits hn)
          exact arithmetic_of_not_number hamount (.inl hnot) hnull rfl hplain hnplain
      | other hwnone hwnot hwnull hwplain =>
          exact arithmetic_of_not_number hamount (.inl hnot) hnull hwnull hplain hwplain

end Expression

end InvoiceReadiness
