import InvoiceReadiness.Expression.Evaluation
import InvoiceReadiness.Proofs.Expression.Inlining
import InvoiceReadiness.Proofs.Value.Showing

/-!
# Which faults leave an evaluation

Conditions, amounts and formulas answer the faults of the language each in their
way: a condition holds, an amount is none, a formula passes them on. The policy is
meant to cover everything that can go wrong. It does not: four faults of numbers
are no faults of the language, and the evaluators let them through.

* A whole number beyond the range of binary64 is tested, divided, or combined with
  a binary64 number (`numberTooLarge`).
* An infinite dividend is asked for its remainder (`infiniteDividend`).
* A whole number of too many digits is written, or read from a text (`digitLimit`).
* A segment of a path looks like the position of an item without being a numeral
  (`notANumeral`).

Nothing else leaves them. The proof follows the program: `FailsOnly` is shown for
each operation, then by induction for trees, then for reading and evaluating a text.

## Main results

* `evaluateWith_fails`, `ofText_fails` — the faults of evaluating and of reading.
* `evaluation_faults` — what the three evaluators do on every text and record.
* `exists_leaking_condition` — none of the four faults can be left out.
-/

namespace InvoiceReadiness

/-- The faults of numbers that are no faults of the language. -/
inductive Fault.IsNumeric : Fault → Prop where
  | notANumeral : IsNumeric .notANumeral
  | digitLimit : IsNumeric .digitLimit
  | infiniteDividend : IsNumeric .infiniteDividend
  | numberTooLarge : IsNumeric .numberTooLarge

/-- The faults of evaluations: those of the language, a depth budget that is used
up, and those of numbers. -/
def Fault.OfEvaluation (fault : Fault) : Prop :=
  Expression.isOwnFault fault ∨ fault.IsNumeric

theorem Fault.IsNumeric.ofEvaluation {fault : Fault} (h : fault.IsNumeric) :
    fault.OfEvaluation := .inr h

theorem Fault.ofEvaluation_expression (cause : ExpressionFault) :
    (Fault.expression cause).OfEvaluation := .inl rfl

theorem Fault.ofEvaluation_tooDeep : Fault.tooDeep.OfEvaluation := .inl rfl

/-- The faults of operations on values that are not of their kind. -/
inductive Fault.IsOfKind : Fault → Prop where
  | notText : IsOfKind .notText
  | notAKey : IsOfKind .notAKey
  | operandKind : IsOfKind .operandKind

/-- The two families are apart. -/
theorem Fault.IsNumeric.not_own {fault : Fault} (h : fault.IsNumeric) :
    Expression.isOwnFault fault = false := by
  cases h <;> rfl

/-! ## Numbers and their texts -/

theorem naturalOfText?_fails (cs : List Char) :
    FailsOnly Fault.IsNumeric (naturalOfText? cs) := by
  unfold naturalOfText? wholeOfDigits?
  split
  · split
    · exact .error .digitLimit
    · exact .ok _ _
  · exact .error .notANumeral

theorem Binary64.ofInt?_fails (n : Int) :
    FailsOnly (· = .numberTooLarge) (Binary64.ofInt? n) := by
  unfold Binary64.ofInt?
  dsimp only
  split
  · exact .ok _ _
  · exact .error rfl

namespace Number

theorem toBinary64_fails (n : Number) :
    FailsOnly (· = .numberTooLarge) n.toBinary64 := by
  cases n with
  | whole n => exact Binary64.ofInt?_fails n
  | float x => exact .ok _ _

theorem isFinite_fails (n : Number) :
    FailsOnly (· = .numberTooLarge) n.isFinite := by
  cases n with
  | whole n =>
      simp only [Number.isFinite]
      exact (Binary64.ofInt?_fails n).map
  | float x => exact .ok _ _

theorem isTruthy_fails (n : Number) :
    FailsOnly (· = .numberTooLarge) n.isTruthy := by
  cases n with
  | whole n =>
      simp only [Number.isTruthy]
      split
      · exact .ok _ _
      · exact (Binary64.ofInt?_fails n).map
  | float x => exact .ok _ _

end Number

/-- An operation on two numbers as binary64 fails as its operands do, or by itself. -/
private theorem binary64_fails {P : Fault → Prop} (m n : Number)
    {f : Binary64 → Binary64 → Result Number} (hlarge : P .numberTooLarge)
    (hf : ∀ a b, FailsOnly P (f a b)) :
    FailsOnly P (do
      let a ← m.toBinary64
      let b ← n.toBinary64
      f a b) := by
  have hoperand (k : Number) : FailsOnly P k.toBinary64 :=
    k.toBinary64_fails.mono fun fault h => h ▸ hlarge
  exact (hoperand m).bind fun a _ => (hoperand n).bind fun b _ => hf a b

namespace Number

/-- Sums, differences and products fail on whole numbers out of range alone. -/
private theorem lift_fails (onWhole : Int → Int → Int)
    (onFloat : Binary64 → Binary64 → Binary64) (m n : Number) :
    FailsOnly (· = .numberTooLarge) (lift onWhole onFloat m n) := by
  have hfloat := binary64_fails (P := (· = .numberTooLarge)) m n
    (f := fun a b => .ok (.float (onFloat a b))) rfl fun a b => .ok _ _
  cases m <;> cases n
  case whole.whole =>
    simp only [lift]
    exact .ok _ _
  all_goals exact hfloat

theorem div_fails (m n : Number) : FailsOnly (· = .numberTooLarge) (m.div n) := by
  have hfloat := binary64_fails (P := (· = .numberTooLarge)) m n
    (f := fun a b => .ok (.float (a.div b))) rfl fun a b => .ok _ _
  cases m <;> cases n
  case whole.whole =>
    unfold Number.div
    dsimp only
    split
    · exact .ok _ _
    · exact .error rfl
  all_goals exact hfloat

theorem remainder_fails (m n : Number) :
    FailsOnly Fault.IsNumeric (m.remainder n) := by
  refine binary64_fails m n .numberTooLarge fun a b => ?_
  split
  · exact .ok _ _
  · exact .error .infiniteDividend

end Number

/-! ## Scalars -/

namespace Scalar

theorem isTruthy_fails (x : Scalar) :
    FailsOnly (· = .numberTooLarge) x.isTruthy := by
  cases x with
  | number n => exact n.isTruthy_fails
  | _ => exact .ok _ _

theorem plain_fails (x : Scalar) : FailsOnly (· = .digitLimit) x.plain := by
  cases x with
  | number n =>
      cases n with
      | whole n => exact wholeText?_fails n
      | float x =>
          simp only [Scalar.plain, Scalar.value, Value.plain]
          split
          · exact wholeText?_fails _
          · exact .ok _ _
  | _ => exact .ok _ _

/-- What is no number is named in a fault of the language, if it can be shown. -/
theorem numberFor_fails (operator : String) (x : Scalar) :
    FailsOnly Fault.OfEvaluation (x.numberFor operator) := by
  have hnamed : FailsOnly Fault.OfEvaluation (do
      let shown ← x.plain
      throw (.expression (.notNumeric operator shown)) : Result Number) :=
    (x.plain_fails.mono fun fault h => h ▸ Fault.IsNumeric.digitLimit.ofEvaluation).bind
      fun shown _ => .error (Fault.ofEvaluation_expression _)
  cases x with
  | number n => exact .ok _ _
  | _ => exact hnamed

theorem ofValue_fails (v : Value) :
    FailsOnly Fault.OfEvaluation (Scalar.ofValue v) := by
  cases v with
  | list items => exact .error (Fault.ofEvaluation_expression _)
  | object members => exact .error (Fault.ofEvaluation_expression _)
  | _ => exact .ok _ _

end Scalar

namespace Expression

/-! ## Operations -/

theorem arithmeticResult_fails (op : Operator) (m n : Number) :
    FailsOnly Fault.OfEvaluation (arithmeticResult op m n) := by
  have hlarge {r : Result Number} (h : FailsOnly (· = .numberTooLarge) r) :
      FailsOnly Fault.OfEvaluation r :=
    h.mono fun fault h => h ▸ Fault.IsNumeric.numberTooLarge.ofEvaluation
  unfold arithmeticResult
  split
  · exact hlarge (Number.lift_fails _ _ m n)
  · exact hlarge (Number.lift_fails _ _ m n)
  · exact hlarge (Number.lift_fails _ _ m n)
  · split
    · exact .error (Fault.ofEvaluation_expression _)
    · split
      · exact hlarge (m.div_fails n)
      · exact (m.remainder_fails n).mono fun fault => Fault.IsNumeric.ofEvaluation

theorem applyOperator_fails (op : Operator) (x y : Scalar) :
    FailsOnly Fault.OfEvaluation (applyOperator op x y) := by
  have hplain (z : Scalar) : FailsOnly Fault.OfEvaluation z.plain :=
    z.plain_fails.mono fun fault h => h ▸ Fault.IsNumeric.digitLimit.ofEvaluation
  have hnumbers : FailsOnly Fault.OfEvaluation (do
      let a ← x.numberFor op.spelling
      let b ← y.numberFor op.spelling
      return Scalar.number (← arithmeticResult op a b)) :=
    (x.numberFor_fails _).bind fun a _ => (y.numberFor_fails _).bind fun b _ =>
      (arithmeticResult_fails op a b).bind fun n _ => .ok _ _
  have htexts : FailsOnly Fault.OfEvaluation (do
      return Scalar.text ((← x.plain) ++ (← y.plain))) :=
    (hplain x).bind fun s _ => (hplain y).bind fun t _ => .ok _ _
  cases op with
  | add | sub | mul | div | rem =>
      simp only [applyOperator]
      split
      · split
        · exact .error (Fault.ofEvaluation_expression _)
        · exact htexts
      · exact hnumbers
  | _ => exact .ok _ _

theorem applySign_fails (sign : Sign) (x : Scalar) :
    FailsOnly Fault.OfEvaluation (applySign sign x) := by
  cases sign with
  | not =>
      exact (x.isTruthy_fails.mono fun fault h =>
        h ▸ Fault.IsNumeric.numberTooLarge.ofEvaluation).map
  | minus => exact (x.numberFor_fails _).map
  | plus => exact (x.numberFor_fails _).map

/-! ## Trees -/

/-- Evaluating a tree fails as its operations and look-ups do, or runs out of depth. -/
theorem evaluateWith_fails {lookup : Lookup}
    (hlookup : ∀ path, FailsOnly Fault.OfEvaluation (lookup path)) (budget : Nat)
    (e : Expression) : FailsOnly Fault.OfEvaluation (evaluateWith lookup budget e) := by
  have htruth (x : Scalar) : FailsOnly Fault.OfEvaluation x.isTruthy :=
    x.isTruthy_fails.mono fun fault h =>
      h ▸ Fault.IsNumeric.numberTooLarge.ofEvaluation
  induction budget generalizing e with
  | zero => exact .error Fault.ofEvaluation_tooDeep
  | succ budget ih =>
      cases e with
      | literal value => exact .ok _ _
      | field path => exact hlookup path
      | signed sign operand =>
          exact (ih operand).bind fun x _ => applySign_fails sign x
      | binary op left right =>
          exact (ih left).bind fun x _ => (ih right).bind fun y _ =>
            applyOperator_fails op x y
      | and left right =>
          refine (ih left).bind fun x _ => (htruth x).bind fun b _ => ?_
          cases b
          · exact .ok _ _
          · exact ih right
      | or left right =>
          refine (ih left).bind fun x _ => (htruth x).bind fun b _ => ?_
          cases b
          · exact ih right
          · exact .ok _ _

end Expression

/-! ## Look-ups -/

/-- Following a path fails on a segment that looks like a position and cannot be
read as one. -/
theorem Value.follow_fails (v : Value) (segments : List (List Char)) :
    FailsOnly Fault.IsNumeric (v.follow segments) := by
  induction segments generalizing v with
  | nil =>
      rw [Value.follow]
      exact .ok _ _
  | cons segment rest ih =>
      cases v with
      | object members => exact ih _
      | list items =>
          rw [Value.follow]
          split
          · exact (naturalOfText?_fails segment).bind fun i _ => ih _
          · exact .ok _ _
      | _ =>
          rw [Value.follow]
          · exact .ok _ _
          all_goals simp

namespace Expression

theorem plainLookup_fails (record : Value) (path : String) :
    FailsOnly Fault.OfEvaluation (plainLookup record path) := by
  have hresolve := record.follow_fails (Value.segments path)
  exact (hresolve.mono fun fault => Fault.IsNumeric.ofEvaluation).bind
    fun v _ => Scalar.ofValue_fails v

theorem amountLookup_fails (record : Value) (path : String) :
    FailsOnly Fault.OfEvaluation (amountLookup record path) := by
  have hresolve := record.follow_fails (Value.segments path)
  refine (hresolve.mono fun fault => Fault.IsNumeric.ofEvaluation).bind fun v _ => ?_
  split
  · exact .error (Fault.ofEvaluation_expression _)
  · exact .ok _ _
  · exact Scalar.ofValue_fails v

/-! ## Reading -/

theorem tokenize_fails (s : String) : FailsOnly Fault.OfEvaluation (tokenize s) := by
  intro fault h
  obtain ⟨pieces, tokens, rest, -, -, hhalts⟩ := Lexer.tokenize_eq_error.1 h
  cases hhalts with
  | noLexeme hnone => exact Fault.ofEvaluation_expression _
  | unknownWord hlongest hunknown => exact Fault.ofEvaluation_expression _
  | longInteger hlongest hdigits hlimit => exact .inr .digitLimit

theorem parse_fails (budget : Nat) (tokens : List Token) :
    FailsOnly Fault.OfEvaluation (Parser.parse budget tokens) := by
  intro fault h
  rcases Parser.parse_fault h with ⟨cause, rfl⟩ | ⟨rfl, -⟩ | ⟨token, -, hshown⟩
  · exact Fault.ofEvaluation_expression cause
  · exact Fault.ofEvaluation_tooDeep
  · obtain ⟨rfl, -⟩ := Parser.shown_eq_error hshown
    exact .inr .digitLimit

theorem ofText_fails (s : String) : FailsOnly Fault.OfEvaluation (ofText s) := by
  unfold ofText
  split
  · exact .error (Fault.ofEvaluation_expression _)
  · exact (tokenize_fails s).bind fun tokens _ => parse_fails depthBudget tokens

theorem ofValue_text_fails (s : String) :
    FailsOnly Fault.OfEvaluation (ofValue (.text s)) := by
  simp only [ofValue]
  split
  · exact .error (Fault.ofEvaluation_expression _)
  · exact ofText_fails s

/-! ## The three evaluators -/

/-- The truth of a text over a record, before any fault is answered. -/
def truth (s : String) (record : Value) : Result Bool :=
  evaluate (.text s) record >>= Scalar.isTruthy

theorem truth_fails (s : String) (record : Value) :
    FailsOnly Fault.OfEvaluation (truth s record) := by
  have hvalue : FailsOnly Fault.OfEvaluation (evaluate (.text s) record) :=
    (ofValue_text_fails s).bind fun e _ =>
      evaluateWith_fails (plainLookup_fails record) depthBudget e
  exact hvalue.bind fun x _ => x.isTruthy_fails.mono fun fault h =>
    h ▸ Fault.IsNumeric.numberTooLarge.ofEvaluation

/-- The value of a text as an amount, before any fault is answered. -/
def amount (s : String) (record : Value) : Result Scalar := do
  evaluateWith (amountLookup record) depthBudget (← ofValue (.text s))

theorem amount_fails (s : String) (record : Value) :
    FailsOnly Fault.OfEvaluation (amount s record) :=
  (ofValue_text_fails s).bind fun e _ =>
    evaluateWith_fails (amountLookup_fails record) depthBudget e

/-- Blanks have no truth, by a fault of the language. -/
theorem truth_blank {s : String} (h : (trimBlanks s.toList).isEmpty)
    (record : Value) : truth s record = .error (.expression .empty) := by
  have hread : ofTextWithin depthBudget s = .error (.expression .empty) := by
    simp [ofTextWithin, List.isEmpty_iff.1 h]
    rfl
  simp [truth, evaluate_text, evaluateWithin, hread]

/-- A condition is the truth of its text, and holds where that is missing by a fault
of the language; a blank text is no exception. -/
theorem condition_text (s : String) (record : Value) :
    condition (.text s) record =
      match truth s record with
      | .ok b => .ok b
      | .error fault => if isOwnFault fault then .ok true else .error fault := by
  by_cases hblank : (trimBlanks s.toList).isEmpty
  · have hcondition : condition (.text s) record = .ok true := by
      by_cases hfilled : (Value.text s).isFilled
      · simp [condition, hfilled, Value.asText, List.isEmpty_iff.1 hblank]
        rfl
      · simp [condition, hfilled]
        rfl
    rw [hcondition, truth_blank hblank]
    rfl
  · have hfilled : (Value.text s).isFilled := by
      have hne : s ≠ "" := by
        rintro rfl
        exact hblank rfl
      simpa [Value.isFilled] using hne
    simp only [condition, hfilled, hblank, Value.asText, Result.ok_bind, truth]
    cases evaluate (.text s) record >>= Scalar.isTruthy <;> rfl

/-- A condition fails with the numeric faults of its truth and with nothing else. -/
theorem condition_eq_error {s : String} {record : Value} {fault : Fault} :
    condition (.text s) record = .error fault ↔
      truth s record = .error fault ∧ fault.IsNumeric := by
  rw [condition_text]
  cases htruth : truth s record with
  | ok b => simp
  | error other =>
      rcases truth_fails s record htruth with hown | hnumeric
      · have hother : other.IsNumeric → False := fun h => by
          simp [h.not_own] at hown
        simp only [hown, if_true, reduceCtorEq, Except.error.injEq, false_iff]
        rintro ⟨rfl, hnumeric⟩
        exact hother hnumeric
      · simp only [hnumeric.not_own, Except.error.injEq]
        constructor
        · rintro ⟨⟩
          exact ⟨rfl, hnumeric⟩
        · rintro ⟨rfl, -⟩
          rfl

/-- An amount is the number that its text comes to, if that is finite, and none where
there is no number or it is missing by a fault of the language. -/
theorem arithmetic_text (s : String) (record : Value) :
    arithmetic (.text s) record =
      match amount s record with
      | .ok (.number n) => n.isFinite.map fun finite => if finite then some n else none
      | .ok _ => .ok none
      | .error fault => if isOwnFault fault then .ok none else .error fault := by
  change (match amount s record with
    | .ok (.number n) => do return if ← n.isFinite then some n else none
    | .ok _ => return none
    | .error fault => if isOwnFault fault then return none else throw fault) = _
  cases amount s record with
  | ok x => cases x <;> rfl
  | error fault => rfl

/-- An amount that is there is finite. -/
theorem isFinite_of_arithmetic {s : String} {record : Value} {n : Number}
    (h : arithmetic (.text s) record = .ok (some n)) : n.isFinite = .ok true := by
  rw [arithmetic_text] at h
  split at h
  · rename_i m hvalue
    cases hfinite : m.isFinite with
    | ok finite =>
        rw [hfinite] at h
        cases finite
        · cases h
        · cases h
          exact hfinite
    | error fault =>
        rw [hfinite] at h
        cases h
  · cases h
  · split at h <;> cases h

/-- An amount fails with the numeric faults of its value, or because the value is a
whole number out of range. -/
theorem arithmetic_fails (s : String) (record : Value) :
    FailsOnly Fault.IsNumeric (arithmetic (.text s) record) := by
  have hvalue := amount_fails s record
  rw [arithmetic_text]
  split
  · rename_i n _
    exact (n.isFinite_fails.mono fun fault h => h ▸ .numberTooLarge).map
  · exact .ok _ _
  · rename_i fault hfault
    split
    · exact .ok _ _
    · rename_i hown
      exact .error ((hvalue hfault).resolve_left hown)

/-- A formula passes on the faults of its truth, and a used up depth budget as a fault
of the language. -/
theorem formula_text (s : String) (record : Value) :
    formula (.text s) record =
      match truth s record with
      | .error .tooDeep => .error (.expression (.nestedTooDeeply s))
      | result => result := by
  have htruth : (evaluate (.text s) record >>= Scalar.isTruthy) = truth s record := rfl
  unfold formula
  rw [htruth]
  rcases truth s record with fault | b
  · cases fault <;> rfl
  · rfl

theorem formula_fails (s : String) (record : Value) :
    FailsOnly (fun fault => (∃ cause, fault = .expression cause) ∨ fault.IsNumeric)
      (formula (.text s) record) := by
  have htruth := truth_fails s record
  rw [formula_text]
  split
  · exact .error (.inl ⟨_, rfl⟩)
  · rename_i hdeep
    intro fault hfault
    rcases htruth hfault with hown | hnumeric
    · cases fault with
      | expression cause => exact .inl ⟨cause, rfl⟩
      | tooDeep => exact (hdeep hfault).elim
      | _ => cases hown
    · exact .inr hnumeric

/-- The numeric faults of a formula are those of its truth. -/
theorem truth_of_formula_eq_error {s : String} {record : Value} {fault : Fault}
    (h : formula (.text s) record = .error fault) (hnumeric : fault.IsNumeric) :
    truth s record = .error fault := by
  rw [formula_text] at h
  split at h
  · cases h
    cases hnumeric
  · exact h

/-! ## What is no text

The evaluators are given parameters of checks, which are data of any kind. -/

/-- What is no text is not read: it is empty, or of the wrong kind. -/
theorem ofValue_of_not_text {v : Value} (hkind : ∀ s, v ≠ .text s) :
    ∃ fault, ofValue v = .error fault ∧ (fault = .expression .empty ∨ fault.IsOfKind) := by
  have hscalar (hv : ofValue v =
      if !v.isFilled then .error (.expression .empty) else do ofText (← v.asText))
      (htext : v.asText = .error .notText) :
      ∃ fault, ofValue v = .error fault ∧ (fault = .expression .empty ∨ fault.IsOfKind) := by
    rw [hv]
    split
    · exact ⟨_, rfl, .inl rfl⟩
    · rw [htext]
      exact ⟨_, rfl, .inr .notText⟩
  cases v with
  | text s => exact absurd rfl (hkind s)
  | list items => exact ⟨_, rfl, .inr .notAKey⟩
  | object members => exact ⟨_, rfl, .inr .notAKey⟩
  | _ => exact hscalar rfl rfl

/-- What is no text comes to no amount, or to a fault. -/
theorem arithmetic_of_not_text {v : Value} (hkind : ∀ s, v ≠ .text s) (record : Value) :
    arithmetic v record = .ok none ∨
      ∃ fault, arithmetic v record = .error fault ∧ fault.IsOfKind := by
  obtain ⟨fault, hfault, hwhy⟩ := ofValue_of_not_text hkind
  unfold arithmetic
  rw [hfault]
  rcases hwhy with rfl | hwhy
  · exact .inl rfl
  · refine .inr ⟨fault, ?_, hwhy⟩
    cases hwhy <;> rfl

theorem formula_of_not_text {v : Value} (hkind : ∀ s, v ≠ .text s) (record : Value) :
    ∃ fault, formula v record = .error fault ∧
      (fault = .expression .empty ∨ fault.IsOfKind) := by
  obtain ⟨fault, hfault, hwhy⟩ := ofValue_of_not_text hkind
  refine ⟨fault, ?_, hwhy⟩
  unfold formula evaluate
  rw [hfault]
  rcases hwhy with rfl | hwhy
  · rfl
  · cases hwhy <;> rfl

/-- An amount that is there was written as text. -/
theorem exists_text_of_arithmetic {v record : Value} {n : Number}
    (h : arithmetic v record = .ok (some n)) : ∃ s, v = .text s := by
  by_contra htext
  have hkind (s : String) : v ≠ .text s := fun hs => htext ⟨s, hs⟩
  rcases arithmetic_of_not_text hkind record with hnone | ⟨fault, hfault, -⟩
  · rw [hnone] at h
    cases h
  · rw [hfault] at h
    cases h

/-! ## The policy -/

/-- The evaluators answer all faults of a text over a record: a condition has a truth
value and holds if it cannot be evaluated, an amount is none or finite, and a formula
fails with faults of the language only. -/
structure AnswersFaults (s : String) (record : Value) : Prop where
  condition : ∃ b, Expression.condition (.text s) record = .ok b
  holds : ∀ fault, truth s record = .error fault →
    Expression.condition (.text s) record = .ok true
  arithmetic : ∃ found, Expression.arithmetic (.text s) record = .ok found ∧
    ∀ n, found = some n → n.isFinite = .ok true
  formula : ∀ fault, Expression.formula (.text s) record = .error fault →
    ∃ cause, fault = .expression cause

/-- A condition holds where it cannot be evaluated by a fault of the language. -/
theorem condition_eq_true {s : String} {record : Value} {fault : Fault}
    (htruth : truth s record = .error fault) (hnumeric : ¬fault.IsNumeric) :
    condition (.text s) record = .ok true := by
  have hown : isOwnFault fault := (truth_fails s record htruth).resolve_right hnumeric
  rw [condition_text, htruth]
  simp [hown]

/-- The policy is kept if and only if no numeric fault comes up. -/
theorem answersFaults_iff (s : String) (record : Value) :
    AnswersFaults s record ↔
      ∀ fault : Fault, fault.IsNumeric →
        truth s record ≠ .error fault ∧ arithmetic (.text s) record ≠ .error fault := by
  constructor
  · rintro ⟨⟨b, hb⟩, -, ⟨found, hfound, -⟩, -⟩ fault hnumeric
    constructor
    · intro htruth
      rw [condition_eq_error.2 ⟨htruth, hnumeric⟩] at hb
      cases hb
    · intro harithmetic
      rw [harithmetic] at hfound
      cases hfound
  · intro hnone
    refine ⟨?_, fun fault htruth => ?_, ?_, fun fault hformula => ?_⟩
    · cases hcondition : condition (.text s) record with
      | ok b => exact ⟨b, rfl⟩
      | error fault =>
          obtain ⟨htruth, hnumeric⟩ := condition_eq_error.1 hcondition
          exact absurd htruth (hnone fault hnumeric).1
    · exact condition_eq_true htruth fun hnumeric => (hnone fault hnumeric).1 htruth
    · cases harithmetic : arithmetic (.text s) record with
      | ok found =>
          refine ⟨found, rfl, ?_⟩
          rintro n rfl
          exact isFinite_of_arithmetic harithmetic
      | error fault =>
          exact absurd harithmetic (hnone fault (arithmetic_fails s record harithmetic)).2
    · refine (formula_fails s record hformula).resolve_right fun hnumeric => ?_
      exact (hnone fault hnumeric).1 (truth_of_formula_eq_error hformula hnumeric)

end Expression

/-- Each of the numeric faults leaves some condition, and no number in the record has
more than 4300 digits. -/
theorem exists_leaking_condition {fault : Fault} (h : fault.IsNumeric) :
    ∃ s record, Expression.condition (.text s) record = .error fault := by
  cases h with
  | notANumeral =>
      exact ⟨"\x7ba.²\x7d", .object [("a", .list [])], by decide +kernel⟩
  | digitLimit =>
      exact ⟨"\x7bn\x7d * \x7bn\x7d + ''", .object [("n", .ofNat (tenPow 2200))],
        by decide +kernel⟩
  | infiniteDividend => exact ⟨"-1e400 % 1", .object [], by decide +kernel⟩
  | numberTooLarge =>
      exact ⟨"\x7bn\x7d", .object [("n", .ofNat (tenPow 400))], by decide +kernel⟩

/--
**What the evaluators do with faults.** On every text and every record the policy for
faults is kept if and only if no numeric fault comes up. Each evaluator keeps its part
of it but for those faults: a condition holds where its text cannot be read or
evaluated by a fault of the language, and lets through exactly the numeric faults that
its evaluation ends with; an amount is none or a finite number; a formula has a truth
value or fails with a fault of the language.
-/
theorem evaluation_faults (s : String) (record : Value) :
    (Expression.AnswersFaults s record ↔ ∀ fault : Fault, fault.IsNumeric →
      Expression.truth s record ≠ .error fault ∧
        Expression.arithmetic (.text s) record ≠ .error fault) ∧
    (∀ fault, Expression.truth s record = .error fault → ¬fault.IsNumeric →
      Expression.condition (.text s) record = .ok true) ∧
    (∀ fault, Expression.condition (.text s) record = .error fault ↔
      Expression.truth s record = .error fault ∧ fault.IsNumeric) ∧
    (∀ n, Expression.arithmetic (.text s) record = .ok (some n) → n.isFinite = .ok true) ∧
    (∀ fault, Expression.arithmetic (.text s) record = .error fault → fault.IsNumeric) ∧
    ∀ fault, Expression.formula (.text s) record = .error fault →
      (∃ cause, fault = .expression cause) ∨ fault.IsNumeric :=
  ⟨Expression.answersFaults_iff s record, fun _ => Expression.condition_eq_true,
    fun _ => Expression.condition_eq_error, fun _ => Expression.isFinite_of_arithmetic,
    fun _ h => Expression.arithmetic_fails s record h,
    fun _ h => Expression.formula_fails s record h⟩

/-- The remainder of an infinite dividend leaves all three evaluators, though a
condition that cannot be evaluated is to hold. -/
theorem infiniteDividend_leaves :
    Expression.condition (.text "1e400 % 2") (.object []) = .error .infiniteDividend ∧
      Expression.arithmetic (.text "1e400 % 2") (.object []) = .error .infiniteDividend ∧
      Expression.formula (.text "1e400 % 2") (.object []) = .error .infiniteDividend := by
  decide +kernel

end InvoiceReadiness
