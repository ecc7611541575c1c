import InvoiceReadiness.Numeric.Binary64

/-!
# Percentages

A share is computed in binary64: the quotient of two counts is rounded once, and
its product with one hundred once more. Of nothing, all is covered.
-/

namespace InvoiceReadiness.Binary64

/-- The number one hundred. -/
def hundred : Binary64 := ofInt 100

/-- A part of a whole in percent; one hundred if the whole is nothing. -/
def percent (part whole : Nat) : Binary64 :=
  if whole == 0 then hundred else (ofRatio false part whole).mul hundred

/-- The mean of numbers; none if there are no numbers. -/
def mean? (xs : List Binary64) : Option Binary64 :=
  if xs.isEmpty then none else some ((xs.foldl add zero).div (ofInt xs.length))

end InvoiceReadiness.Binary64
