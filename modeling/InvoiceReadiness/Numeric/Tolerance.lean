import InvoiceReadiness.Value.Shown

/-!
# Cells as amounts, and agreement of amounts

A cell counts as a number if it holds one or a text that writes one; truth
values do not count. Two amounts agree if they are equal or strictly closer than
a tolerance. Their difference is rounded to six decimal places first, so that
the noise of binary arithmetic does not slip under a tolerance of 0.01.
-/

namespace InvoiceReadiness

/-- The tolerance for amounts of money. -/
def monetaryTolerance : Binary64 := Binary64.decimal 1 2

/-- Whether two amounts are equal or strictly closer than `tolerance`. -/
def Number.agree (left right tolerance : Number) : Result Bool := do
  let gap := (← left.sub right).abs.roundPlaces 6
  return !gap.isNonzero || gap.lt tolerance

namespace Value

/-- Null, or a value whose text is empty after trimming. -/
def isBlank (v : Value) : Result Bool := do
  if v.isNull then return true
  let s ← v.shown
  return (trimBlanks s.toList).isEmpty

/-- The number that a cell holds or writes. -/
def toNumber? : Value → Option Number
  | number n => some n
  | text s => (readNumber? (trim s)).map .float
  | _ => none

/-- The number of a cell, and zero if there is none. -/
def amount (v : Value) : Number :=
  match v.toNumber? with
  | some n => if n.isNonzero then n else .zero
  | none => .zero

/-- Agreement of amounts that are data; the tolerance is not looked at if they are equal. -/
def agree (left right tolerance : Value) : Result Bool := do
  match left.number?, right.number? with
  | some x, some y =>
    let gap := (← x.sub y).abs.roundPlaces 6
    if !gap.isNonzero then return true
    match tolerance.number? with
    | some t => return gap.lt t
    | none => throw .operandKind
  | _, _ => throw .operandKind

end Value

end InvoiceReadiness
