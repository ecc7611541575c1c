import InvoiceReadiness.Proofs.Expression.Operations
import InvoiceReadiness.Proofs.Numeric.Agreement
import InvoiceReadiness.Proofs.Value.Identity

/-!
# How scalars are compared

Expressions compare scalars by order (`<`, `<=`, `>`, `>=`), loosely (`==`, `!=`) and strictly
(`===`, `!==`). A number beside a text is compared with the number that the text writes, but
not strictly; and a null or a truth value has no place in the order.

The three ways fit together. Among numbers and texts, loose equality is the middle case of the
order (`looselyEqual_eq_compare?`), so that the laws of both are those of one comparison with
four results: less, equal, greater, or none where a text writes no number or a number is none.
Strict equality is equality of data within a kind, and the alignment of a number with a text
does not come into it (`alignPair_of_strictlyEqual`).

## Main results

* `Scalar.compare?_swap` — the order the other way round.
* `Scalar.looselyEqual_eq_compare?` — loose equality in the order.
* `Scalar.strictlyEqual_trans`, `Scalar.looselyEqual_of_strictlyEqual` — strict equality.
* `Expression.comparisons_cohere` — the laws of the eight operators.
-/

namespace InvoiceReadiness

/-! ## Equality of numbers and of data -/

namespace Number

variable {l m n : Number}

theorem eq_of_eq_swap (h : m.eq n) : n.eq m := by
  obtain ⟨hexact, hnan⟩ := (eq_iff_exact m n).1 h
  exact (eq_iff_exact n m).2 ⟨hexact.symm, hexact ▸ hnan⟩

theorem eq_of_eq_of_eq (h : l.eq m) (h' : m.eq n) : l.eq n := by
  obtain ⟨hlm, hnan⟩ := (eq_iff_exact l m).1 h
  obtain ⟨hmn, -⟩ := (eq_iff_exact m n).1 h'
  exact (eq_iff_exact l n).2 ⟨hlm.trans hmn, hnan⟩

end Number

namespace Scalar

variable {x y z : Scalar} {s : String} {m n : Number}

/-- Equal scalars are both null, one text, or count as equal numbers. -/
inductive SameData : Scalar → Scalar → Prop where
  | null : SameData null null
  | text (s : String) : SameData (text s) (text s)
  | number {x y : Scalar} {m n : Number} (hx : x.value.number? = some m)
      (hy : y.value.number? = some n) (heq : m.eq n) : SameData x y

theorem same_iff : x.value.same y.value ↔ SameData x y := by
  constructor
  · intro h
    cases x <;> cases y <;>
      simp only [value, Value.same, Value.number?, Option.any_some, Option.any_none, beq_iff_eq,
        Bool.false_eq_true] at h
    case null.null => exact .null
    case text.text => exact h ▸ .text _
    all_goals exact .number rfl rfl h
  · intro h
    cases h with
    | null => rfl
    | text s => simp [value, Value.same]
    | number hx hy heq =>
        cases x <;> cases hx <;> rw [value, Value.same, hy] <;> exact heq

theorem SameData.symm (h : SameData x y) : SameData y x := by
  cases h with
  | null => exact .null
  | text s => exact .text s
  | number hx hy heq => exact .number hy hx (Number.eq_of_eq_swap heq)

theorem SameData.trans (h : SameData x y) (h' : SameData y z) : SameData x z := by
  cases h with
  | null => exact h'
  | text s => exact h'
  | number hx hy heq =>
      cases h' with
      | null => cases hy
      | text s => cases hy
      | number hy' hz heq' =>
          obtain rfl := Option.some.inj (hy.symm.trans hy')
          exact .number hx hz (Number.eq_of_eq_of_eq heq heq')

theorem same_comm (x y : Scalar) : x.value.same y.value = y.value.same x.value := by
  have hsymm (x y : Scalar) (h : x.value.same y.value) : y.value.same x.value :=
    same_iff.2 (same_iff.1 h).symm
  exact Bool.eq_iff_iff.2 ⟨hsymm x y, hsymm y x⟩

/-! ## Alignment -/

theorem alignPair_swap (x y : Scalar) : alignPair y x = (alignPair x y).swap := by
  cases x <;> cases y <;> simp only [alignPair, Prod.swap_prod_mk]
  all_goals split <;> rfl

/-! ## Order -/

theorem compare?_swap (x y : Scalar) : y.compare? x = (x.compare? y).map Ordering.swap := by
  rw [compare?, compare?, alignPair_swap]
  rcases alignPair x y with ⟨a, b⟩
  cases a <;> cases b <;> try rfl
  case number.number m n => exact m.compare?_swap n
  case text.text s t => exact congrArg some Std.OrientedOrd.eq_swap

/-- Two scalars that are aligned to numbers are ordered as these are. -/
theorem compare?_of_alignPair (h : alignPair x y = (number m, number n)) :
    x.compare? y = (number m).compare? (number n) := by
  rw [compare?, h]
  rfl

/-- What has a place in the order: a number or a text. -/
def isOrdered (x : Scalar) : Bool := x.isNumber || x.isText

theorem isOrdered_cases (h : x.isOrdered) : (∃ n, x = number n) ∨ ∃ s, x = text s := by
  cases x with
  | number n => exact .inl ⟨n, rfl⟩
  | text s => exact .inr ⟨s, rfl⟩
  | _ => cases h

theorem isOrdered_of (hnull : x.isNull = false) (hbool : x.isBool = false) : x.isOrdered := by
  cases x with
  | null => cases hnull
  | bool b => cases hbool
  | _ => rfl

theorem isOrdered_alignPair (hx : x.isOrdered) (hy : y.isOrdered) :
    (alignPair x y).1.isOrdered ∧ (alignPair x y).2.isOrdered := by
  rcases isOrdered_cases hx with ⟨m, rfl⟩ | ⟨s, rfl⟩ <;>
    rcases isOrdered_cases hy with ⟨n, rfl⟩ | ⟨t, rfl⟩
  · exact ⟨rfl, rfl⟩
  · simp only [alignPair]
    split <;> exact ⟨rfl, rfl⟩
  · simp only [alignPair]
    split <;> exact ⟨rfl, rfl⟩
  · exact ⟨rfl, rfl⟩

/-! ## Loose equality -/

theorem looselyEqual_comm (x y : Scalar) : x.looselyEqual y = y.looselyEqual x := by
  rw [looselyEqual, looselyEqual, alignPair_swap, Bool.or_comm, Bool.and_comm]
  split
  · rfl
  · exact same_comm _ _

theorem looselyEqual_of_isOrdered (hx : x.isOrdered) (hy : y.isOrdered) :
    x.looselyEqual y = (alignPair x y).1.value.same (alignPair x y).2.value := by
  have hnull {x : Scalar} (hx : x.isOrdered) : x.isNull = false := by
    rcases isOrdered_cases hx with ⟨n, rfl⟩ | ⟨s, rfl⟩ <;> rfl
  rw [looselyEqual, hnull hx, hnull hy]
  rfl

theorem looselyEqual_of_alignPair (hx : x.isOrdered) (hy : y.isOrdered)
    (h : alignPair x y = (number m, number n)) :
    x.looselyEqual y = (number m).looselyEqual (number n) := by
  rw [looselyEqual_of_isOrdered hx hy, h]
  rfl

/-- Among numbers and texts, loose equality is the middle case of the order. -/
theorem looselyEqual_eq_compare? (hx : x.isOrdered) (hy : y.isOrdered) :
    x.looselyEqual y = (x.compare? y == some .eq) := by
  obtain ⟨ha, hb⟩ := isOrdered_alignPair hx hy
  rw [looselyEqual_of_isOrdered hx hy, compare?]
  generalize alignPair x y = pair at ha hb ⊢
  obtain ⟨a, b⟩ := pair
  rcases isOrdered_cases ha with ⟨m, rfl⟩ | ⟨s, rfl⟩ <;>
    rcases isOrdered_cases hb with ⟨n, rfl⟩ | ⟨t, rfl⟩
  · rfl
  · rfl
  · rfl
  · have hsame : (text s).value.same (text t).value = (s == t) := by
      simp [value, Value.same]
    dsimp only
    rw [hsame, Bool.eq_iff_iff, beq_iff_eq, beq_iff_eq, Option.some.injEq,
      Std.compare_eq_iff_eq]

/-! ## Strict equality -/

theorem strictlyEqual_iff :
    x.strictlyEqual y ↔
      x.isBool = y.isBool ∧ x.isNumber = y.isNumber ∧ x.value.same y.value := by
  simp only [strictlyEqual, Bool.and_eq_true, beq_iff_eq, and_assoc]

theorem strictlyEqual_symm (h : x.strictlyEqual y) : y.strictlyEqual x := by
  obtain ⟨hbool, hnumber, hsame⟩ := strictlyEqual_iff.1 h
  exact strictlyEqual_iff.2 ⟨hbool.symm, hnumber.symm, same_comm x y ▸ hsame⟩

theorem strictlyEqual_trans (h : x.strictlyEqual y) (h' : y.strictlyEqual z) :
    x.strictlyEqual z := by
  obtain ⟨hbool, hnumber, hsame⟩ := strictlyEqual_iff.1 h
  obtain ⟨hbool', hnumber', hsame'⟩ := strictlyEqual_iff.1 h'
  refine strictlyEqual_iff.2 ⟨hbool.trans hbool', hnumber.trans hnumber', ?_⟩
  exact same_iff.2 ((same_iff.1 hsame).trans (same_iff.1 hsame'))

/-- Strictly equal scalars are of one kind, so there is nothing to align. -/
theorem alignPair_of_strictlyEqual (h : x.strictlyEqual y) : alignPair x y = (x, y) := by
  obtain ⟨-, hnumber, -⟩ := strictlyEqual_iff.1 h
  cases x <;> cases y <;> first | rfl | cases hnumber

theorem looselyEqual_of_strictlyEqual (h : x.strictlyEqual y) : x.looselyEqual y := by
  have halign := alignPair_of_strictlyEqual h
  obtain ⟨-, -, hsame⟩ := strictlyEqual_iff.1 h
  rw [looselyEqual, halign]
  cases same_iff.1 hsame with
  | null => rfl
  | text s => exact hsame
  | number hx hy _ =>
      cases x <;> cases hx <;> cases y <;> cases hy <;> exact hsame

end Scalar

/-! ## The operators -/

namespace Operator

/-- The operators that compare their operands. -/
def isComparison (op : Operator) : Bool :=
  op.isOrder || op == equal || op == unequal || op == identical || op == distinct

/-- The comparisons that align a number with a text. -/
def isAligned (op : Operator) : Bool := op.isOrder || op == equal || op == unequal

end Operator

namespace Expression

variable {x y : Scalar} {op : Operator}

/-- A comparison holds of two scalars. -/
def Holds (op : Operator) (x y : Scalar) : Prop := applyOperator op x y = .ok (.bool true)

theorem exists_applyOperator (hop : op.isComparison) (x y : Scalar) :
    ∃ b, applyOperator op x y = .ok (.bool b) := by
  cases op <;> first | exact ⟨_, rfl⟩ | contradiction

theorem applyOperator_order_eq (hop : op.isOrder) (x y : Scalar) :
    applyOperator op x y = .ok (.bool ((x.compare? y).any op.admits)) := by
  rw [applyOperator_order hop]
  cases x <;> cases y <;> rfl

theorem holds_order_iff (hop : op.isOrder) : Holds op x y ↔ (x.compare? y).any op.admits := by
  rw [Holds, applyOperator_order_eq hop, Except.ok.injEq, Scalar.bool.injEq]

theorem holds_equal_iff : Holds .equal x y ↔ x.looselyEqual y := by
  rw [Holds, applyOperator, Except.ok.injEq, Scalar.bool.injEq]

theorem holds_unequal_iff : Holds .unequal x y ↔ x.looselyEqual y = false := by
  rw [Holds, applyOperator, Except.ok.injEq, Scalar.bool.injEq, Bool.not_eq_true']

theorem holds_identical_iff : Holds .identical x y ↔ x.strictlyEqual y := by
  rw [Holds, applyOperator, Except.ok.injEq, Scalar.bool.injEq]

theorem holds_distinct_iff : Holds .distinct x y ↔ x.strictlyEqual y = false := by
  rw [Holds, applyOperator, Except.ok.injEq, Scalar.bool.injEq, Bool.not_eq_true']

/-- Turning around the operands turns around what an operator asks of their order. -/
theorem holds_swap {op op' : Operator} (hop : op.isOrder) (hop' : op'.isOrder)
    (hadmits : ∀ order : Ordering, op.admits order = op'.admits order.swap) (x y : Scalar) :
    Holds op x y ↔ Holds op' y x := by
  rw [holds_order_iff hop, holds_order_iff hop', x.compare?_swap y, Option.any_map]
  cases x.compare? y with
  | none => rfl
  | some order => rw [Option.any_some, Option.any_some, hadmits order]

/-- Of two numbers or texts, at most one of less, equal and greater holds. -/
theorem order_of_isOrdered (hx : x.isOrdered) (hy : y.isOrdered) :
    ¬(Holds .lt x y ∧ Holds .equal x y) ∧
      ¬(Holds .lt x y ∧ Holds .gt x y) ∧
      ¬(Holds .equal x y ∧ Holds .gt x y) ∧
      (Holds .le x y ↔ Holds .lt x y ∨ Holds .equal x y) := by
  have hlt := holds_order_iff (x := x) (y := y) (show Operator.lt.isOrder from rfl)
  have hgt := holds_order_iff (x := x) (y := y) (show Operator.gt.isOrder from rfl)
  have hle := holds_order_iff (x := x) (y := y) (show Operator.le.isOrder from rfl)
  rw [hlt, hgt, hle, holds_equal_iff, Scalar.looselyEqual_eq_compare? hx hy]
  rcases x.compare? y with _ | _ | _ | _ <;> decide

/-- An operator that aligns its operands looks at their order and at loose equality only. -/
theorem applyOperator_congr {x' y' : Scalar} (hop : op.isAligned)
    (hcompare : x.compare? y = x'.compare? y')
    (hequal : x.looselyEqual y = x'.looselyEqual y') :
    applyOperator op x y = applyOperator op x' y' := by
  cases hcase : op.isOrder with
  | true => rw [applyOperator_order_eq hcase, applyOperator_order_eq hcase, hcompare]
  | false =>
      cases op with
      | equal => rw [applyOperator, applyOperator, hequal]
      | unequal => rw [applyOperator, applyOperator, hequal]
      | _ => contradiction

/-- A number beside a text that writes one: the text counts as its number. -/
theorem applyOperator_aligned {t : String} {n : Number} (ht : Scalar.numberOfText? t = some n)
    (hop : op.isAligned) (m : Number) :
    applyOperator op (.number m) (.text t) = applyOperator op (.number m) (.number n) ∧
      applyOperator op (.text t) (.number m) = applyOperator op (.number n) (.number m) := by
  have hright : Scalar.alignPair (.number m) (.text t) = (.number m, .number n) := by
    simp only [Scalar.alignPair, ht]
  have hleft : Scalar.alignPair (.text t) (.number m) = (.number n, .number m) := by
    rw [Scalar.alignPair_swap, hright]
    rfl
  exact ⟨applyOperator_congr hop (Scalar.compare?_of_alignPair hright)
      (Scalar.looselyEqual_of_alignPair rfl rfl hright),
    applyOperator_congr hop (Scalar.compare?_of_alignPair hleft)
      (Scalar.looselyEqual_of_alignPair rfl rfl hleft)⟩

/-- **The comparisons of scalars.** All of them have a truth value. Less and greater, and the
weak forms of them, are each other turned around; loose and strict equality do not depend on
the order of the operands, and have their negations. Strict equality is transitive, and loose
equality follows from it. Of two scalars that are neither null nor truth values, at most one
of less, equal and greater holds, and a weak order is the strict one or equality. A text
that writes a number counts as it beside a number. -/
theorem comparisons_cohere (x y z : Scalar) :
    (∀ op : Operator, op.isComparison → ∃ b, applyOperator op x y = .ok (.bool b)) ∧
    (Holds .lt x y ↔ Holds .gt y x) ∧
    (Holds .le x y ↔ Holds .ge y x) ∧
    (Holds .equal x y ↔ Holds .equal y x) ∧
    (Holds .unequal x y ↔ ¬Holds .equal x y) ∧
    (Holds .distinct x y ↔ ¬Holds .identical x y) ∧
    (Holds .identical x y → Holds .equal x y) ∧
    (Holds .identical x y → Holds .identical y x) ∧
    (Holds .identical x y → Holds .identical y z → Holds .identical x z) ∧
    (x.isNull = false → x.isBool = false → y.isNull = false → y.isBool = false →
      ¬(Holds .lt x y ∧ Holds .equal x y) ∧
      ¬(Holds .lt x y ∧ Holds .gt x y) ∧
      ¬(Holds .equal x y ∧ Holds .gt x y) ∧
      (Holds .le x y ↔ Holds .lt x y ∨ Holds .equal x y)) ∧
    ∀ s m n, Scalar.numberOfText? s = some n → ∀ op : Operator, op.isAligned →
      applyOperator op (.number m) (.text s) = applyOperator op (.number m) (.number n) ∧
      applyOperator op (.text s) (.number m) = applyOperator op (.number n) (.number m) := by
  refine ⟨fun op hop => exists_applyOperator hop x y, holds_swap rfl rfl (by decide) x y,
    holds_swap rfl rfl (by decide) x y, ?_, ?_, ?_, ?_, ?_, ?_, ?_,
    fun s m n hs op hop => applyOperator_aligned hs hop m⟩
  · rw [holds_equal_iff, holds_equal_iff, Scalar.looselyEqual_comm]
  · rw [holds_unequal_iff, holds_equal_iff, Bool.not_eq_true]
  · rw [holds_distinct_iff, holds_identical_iff, Bool.not_eq_true]
  · rw [holds_identical_iff, holds_equal_iff]
    exact Scalar.looselyEqual_of_strictlyEqual
  · rw [holds_identical_iff, holds_identical_iff]
    exact Scalar.strictlyEqual_symm
  · rw [holds_identical_iff, holds_identical_iff, holds_identical_iff]
    exact Scalar.strictlyEqual_trans
  · intro hx hx' hy hy'
    exact order_of_isOrdered (Scalar.isOrdered_of hx hx') (Scalar.isOrdered_of hy hy')

/-- A text is compared with a whole number by the nearest float that it writes, which is less
than this number; and a text that writes a not-a-number has no place in the order. -/
theorem comparisons_cohere_of_texts :
    Holds .gt (.number (.whole 9007199254740993)) (.text "9007199254740993") ∧
      ¬(Holds .equal (.number (.whole 9007199254740993)) (.text "9007199254740993") ∧
        Holds .gt (.number (.whole 9007199254740993)) (.text "9007199254740993")) ∧
      applyOperator .ge (.number (.whole 1)) (.text "nan") =
        applyOperator .ge (.number (.whole 1)) (.number (.float .nan)) := by
  have hcohere := comparisons_cohere (.number (.whole 9007199254740993))
    (.text "9007199254740993") .null
  obtain ⟨-, -, -, -, -, -, -, -, -, hordered, haligned⟩ := hcohere
  refine ⟨(holds_order_iff rfl).2 (by decide +kernel), (hordered rfl rfl rfl rfl).2.2.1, ?_⟩
  exact (haligned "nan" (.whole 1) (.float .nan) (by decide +kernel) .ge rfl).1

end Expression

end InvoiceReadiness
