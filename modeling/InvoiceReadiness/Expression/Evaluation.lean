import InvoiceReadiness.Expression.Parser
import InvoiceReadiness.Value.Path

/-!
# Evaluating expressions

An expression is evaluated over a record. The three uses of expressions treat
faults differently:

* a **condition** holds if it cannot be read or evaluated (`condition`),
* an **amount** is none then, and likewise if a field has no value or the result
  is not a finite number (`arithmetic`),
* a **formula** passes the fault on (`formula`).

In amounts a field with numeric text counts as a number throughout.
-/

namespace InvoiceReadiness

namespace Expression

/-- How fields get their values. -/
abbrev Lookup := String → Result Scalar

/-- The result of an arithmetic operator. -/
def arithmeticResult (op : Operator) (a b : Number) : Result Number :=
  match op with
  | .add => a.add b
  | .sub => a.sub b
  | .mul => a.mul b
  | op =>
    if !b.isNonzero then .error (.expression .divisionByZero)
    else if op = .div then a.div b
    else a.remainder b

/-- The result of an operator with two operands. -/
def applyOperator (op : Operator) (x y : Scalar) : Result Scalar :=
  match op with
  | .equal => .ok (.bool (x.looselyEqual y))
  | .unequal => .ok (.bool !(x.looselyEqual y))
  | .identical => .ok (.bool (x.strictlyEqual y))
  | .distinct => .ok (.bool !(x.strictlyEqual y))
  | .lt => .ok (.bool (ordered x y (· == .lt)))
  | .le => .ok (.bool (ordered x y (· != .gt)))
  | .gt => .ok (.bool (ordered x y (· == .gt)))
  | .ge => .ok (.bool (ordered x y (· != .lt)))
  | op =>
    if op = .add ∧ (x.isText || y.isText) then
      if x.isNull || y.isNull then .error (.expression .nullText)
      else do return .text ((← x.plain) ++ (← y.plain))
    else do
      let a ← x.numberFor op.spelling
      let b ← y.numberFor op.spelling
      return .number (← arithmeticResult op a b)
where
  /-- Whether the order of two scalars, neither of them null, is as asked. -/
  ordered (x y : Scalar) (holds : Ordering → Bool) : Bool :=
    !x.isNull && !y.isNull && (x.compare? y).any holds

/-- The result of a sign. -/
def applySign (sign : Sign) (x : Scalar) : Result Scalar :=
  match sign with
  | .not => (x.isTruthy).map fun b => .bool !b
  | .minus => (x.numberFor sign.spelling).map fun n => .number n.neg
  | .plus => (x.numberFor sign.spelling).map .number

/--
The value of an expression, within a depth budget of one for each level of the
tree. A connective does not evaluate its right side if the left side decides.
-/
def evaluateWith (lookup : Lookup) : Nat → Expression → Result Scalar
  | 0, _ => .error .tooDeep
  | _ + 1, literal value => .ok value
  | _ + 1, field path => lookup path
  | budget + 1, signed sign operand => do
    applySign sign (← evaluateWith lookup budget operand)
  | budget + 1, and left right => do
    let x ← evaluateWith lookup budget left
    if ← x.isTruthy then evaluateWith lookup budget right else return x
  | budget + 1, or left right => do
    let x ← evaluateWith lookup budget left
    if ← x.isTruthy then return x else evaluateWith lookup budget right
  | budget + 1, binary op left right => do
    let x ← evaluateWith lookup budget left
    let y ← evaluateWith lookup budget right
    applyOperator op x y

/-- Fields as they are; missing ones are null. -/
def plainLookup (record : Value) : Lookup := fun path => do
  Scalar.ofValue (← record.resolve path)

/-- Fields of amounts: they must have a value, and numeric text is a number. -/
def amountLookup (record : Value) : Lookup := fun path => do
  match ← record.resolve path with
  | .null => throw (.expression (.missingField path))
  | .text s => return ((Scalar.numberOfText? s).map Scalar.number).getD (.text s)
  | v => Scalar.ofValue v

/-- The value of an expression over a record. -/
def evaluate (expression record : Value) : Result Scalar := do
  evaluateWith (plainLookup record) depthBudget (← ofValue expression)

/-- Whether a fault comes from the expression itself. -/
def isOwnFault : Fault → Bool
  | .expression _ => true
  | .tooDeep => true
  | _ => false

/-- Whether a record passes a condition. An empty condition always holds. -/
def condition (text record : Value) : Result Bool := do
  if !text.isFilled then return true
  let s ← text.asText
  if (trimBlanks s.toList).isEmpty then return true
  match evaluate text record >>= Scalar.isTruthy with
  | .ok b => return b
  | .error fault => if isOwnFault fault then return true else throw fault

/-- The finite number that an amount comes to. -/
def arithmetic (text record : Value) : Result (Option Number) := do
  let result := do evaluateWith (amountLookup record) depthBudget (← ofValue text)
  match result with
  | .ok (.number n) => return if ← n.isFinite then some n else none
  | .ok _ => return none
  | .error fault => if isOwnFault fault then return none else throw fault

/-- Whether a formula holds over a record. -/
def formula (text record : Value) : Result Bool := do
  match evaluate text record >>= Scalar.isTruthy, text with
  | .error .tooDeep, .text s => throw (.expression (.nestedTooDeeply s))
  | .error fault, _ => throw fault
  | .ok b, _ => return b

end Expression

end InvoiceReadiness
