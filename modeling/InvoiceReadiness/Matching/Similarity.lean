import InvoiceReadiness.Numeric.Binary64
import InvoiceReadiness.Value.Key

/-!
# Edit distance and similarity

The edit distance of two texts is the least number of insertions, deletions and
replacements of one character that turn one into the other. It is computed row
by row: the row of a character holds the distances between the first text up to
that character and every beginning of the second text.

The similarity of two normal forms is between zero and one: one for equal texts,
zero if exactly one of them is empty, 0.9 if one contains the other, and
otherwise the share of the longer text that the edit distance leaves.
-/

namespace InvoiceReadiness.Matching

variable {α : Type} [BEq α]

/--
The entries of the row of `c` after the entry `left`, from the row before, whose
entries start above `left`.
-/
def rowFrom (c : α) : Nat → List α → List Nat → List Nat
  | left, d :: rest, corner :: above :: more =>
    let best := min (min (above + 1) (left + 1)) (corner + if c == d then 0 else 1)
    best :: rowFrom c best rest (above :: more)
  | _, _, _ => []

/-- The row of `c`, from the row before. -/
def nextRow (c : α) (second : List α) (row : List Nat) : List Nat :=
  let first := row.headD 0 + 1
  first :: rowFrom c first second row

/-- The least number of edits that turn one list into the other. -/
def editDistance (first second : List α) : Nat :=
  let rows := first.foldl (fun row c => nextRow c second row) (List.range (second.length + 1))
  rows.getLastD 0

/-- The similarity of texts of which one contains the other. -/
def containmentScore : Binary64 := Binary64.decimal 9 1

/-- The number one as binary64. -/
def fullScore : Binary64 := Binary64.ofInt 1

/-- The similarity of two normal forms. -/
def similarity (a b : List α) : Binary64 :=
  if a.isEmpty && b.isEmpty then fullScore
  else if a.isEmpty || b.isEmpty then Binary64.zero
  else if a == b then fullScore
  else if occursIn a b || occursIn b a then containmentScore
  else
    let longer := max a.length b.length
    Binary64.ofRatio false (longer - editDistance a b) longer

/--
The similarity of values: of texts by their characters. Other values are compared
by their elements, and one contains another if it holds it as an element.
-/
def similarityOf (a b : Value) : Result Binary64 := do
  if let (.text s, .text t) := (a, b) then return similarity s.toList t.toList
  if !a.isFilled && !b.isFilled then return fullScore
  if !a.isFilled || !b.isFilled then return Binary64.zero
  if a == b then return fullScore
  if ← b.holds a then return containmentScore
  if ← a.holds b then return containmentScore
  let xs ← a.elements
  let ys ← b.elements
  let longer := max xs.length ys.length
  return Binary64.ofRatio false (longer - editDistance xs ys) longer

end InvoiceReadiness.Matching
