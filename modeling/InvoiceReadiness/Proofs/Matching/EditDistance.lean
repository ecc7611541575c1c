import InvoiceReadiness.Matching.Similarity

/-!
# The edit distance and its rows

The edit distance of two lists is defined here by what happens to their last
characters: one of them is dropped, or both are matched (`distance`, on lists that are
turned around, so that the last character comes first). The computation row by row
agrees with it: the row of a beginning of the first list holds its distances to all
beginnings of the second (`rowOf`), and each step makes the row of the next beginning
of it (`nextRow_rowOf`).

## Main results

* `editDistance_eq_distance` — the rows end at the distance.
* `editDistance_comm` — the distance does not depend on the order of the lists.
-/

namespace InvoiceReadiness.Matching

variable {α : Type} [BEq α]

/-- The least number of edits between two lists that are read from their ends. -/
def distance : List α → List α → Nat
  | [], ys => ys.length
  | xs, [] => xs.length
  | x :: xs, y :: ys =>
    min (min (distance xs (y :: ys) + 1) (distance (x :: xs) ys + 1))
      (distance xs ys + if x == y then 0 else 1)
termination_by xs ys => xs.length + ys.length

theorem distance_nil (ys : List α) : distance [] ys = ys.length := by
  rw [distance]

theorem distance_nil_right (xs : List α) : distance xs [] = xs.length := by
  cases xs with
  | nil => rw [distance]
  | cons x xs =>
      rw [distance]
      intro h
      cases h

theorem distance_cons_cons (x y : α) (xs ys : List α) :
    distance (x :: xs) (y :: ys) =
      min (min (distance xs (y :: ys) + 1) (distance (x :: xs) ys + 1))
        (distance xs ys + if x == y then 0 else 1) := by
  rw [distance]

/-- The distance is the same both ways if characters are equal both ways. -/
theorem distance_comm [PartialEquivBEq α] (xs ys : List α) :
    distance xs ys = distance ys xs := by
  induction xs generalizing ys with
  | nil => rw [distance_nil, distance_nil_right]
  | cons x xs ih =>
      induction ys with
      | nil => rw [distance_nil, distance_nil_right]
      | cons y ys ihys =>
          have hsame : (x == y) = (y == x) := BEq.comm
          rw [distance_cons_cons, distance_cons_cons, ih (y :: ys), ihys, ih ys, hsame]
          rw [Nat.min_comm (distance (y :: ys) xs + 1)]

/-! ## Rows -/

/-- The distances from `p` to `q` and to each longer beginning of what `rest` goes on
with; both are read from their ends. -/
def rowOf (p q : List α) : List α → List Nat
  | [] => [distance p q]
  | d :: rest => distance p q :: rowOf p (d :: q) rest

theorem headD_rowOf (p q rest : List α) : (rowOf p q rest).headD 0 = distance p q := by
  cases rest <;> rfl

/-- The row before starts right above the first entry. -/
theorem rowOf_eq_cons (p q rest : List α) :
    ∃ more, rowOf p q rest = distance p q :: more := by
  cases rest with
  | nil => exact ⟨[], rfl⟩
  | cons d rest => exact ⟨rowOf p (d :: q) rest, rfl⟩

theorem rowFrom_rowOf (c : α) (p q rest : List α) :
    distance (c :: p) q :: rowFrom c (distance (c :: p) q) rest (rowOf p q rest) =
      rowOf (c :: p) q rest := by
  induction rest generalizing q with
  | nil => rfl
  | cons d rest ih =>
      obtain ⟨more, hmore⟩ := rowOf_eq_cons p (d :: q) rest
      have hbest : min (min (distance p (d :: q) + 1) (distance (c :: p) q + 1))
          (distance p q + if c == d then 0 else 1) = distance (c :: p) (d :: q) :=
        (distance_cons_cons c d p q).symm
      rw [rowOf, rowOf, hmore, rowFrom, hbest, ← hmore, ih]

/-- The row of a character, from the row before. -/
theorem nextRow_rowOf (c : α) (p second : List α) :
    nextRow c second (rowOf p [] second) = rowOf (c :: p) [] second := by
  have hfirst : (rowOf p [] second).headD 0 + 1 = distance (c :: p) [] := by
    rw [headD_rowOf, distance_nil_right, distance_nil_right, List.length_cons]
  rw [nextRow, hfirst, rowFrom_rowOf]

theorem rowOf_nil (q rest : List α) :
    rowOf [] q rest = List.range' q.length (rest.length + 1) := by
  induction rest generalizing q with
  | nil => rw [rowOf, distance_nil]; rfl
  | cons d rest ih => rw [rowOf, distance_nil, ih, List.length_cons, List.range'_succ]; rfl

theorem foldl_nextRow (first p second : List α) :
    first.foldl (fun row c => nextRow c second row) (rowOf p [] second) =
      rowOf (first.reverse ++ p) [] second := by
  induction first generalizing p with
  | nil => rfl
  | cons c first ih =>
      rw [List.foldl_cons, nextRow_rowOf, ih, List.reverse_cons, List.append_assoc]
      rfl

theorem getLastD_rowOf (p q rest : List α) (default : Nat) :
    (rowOf p q rest).getLastD default = distance p (rest.reverse ++ q) := by
  induction rest generalizing q default with
  | nil => rfl
  | cons d rest ih =>
      rw [rowOf, List.getLastD_cons, ih, List.reverse_cons, List.append_assoc]
      rfl

/-- The last entry of the last row is the distance of the whole lists. -/
theorem editDistance_eq_distance (first second : List α) :
    editDistance first second = distance first.reverse second.reverse := by
  have hstart : List.range (second.length + 1) = rowOf [] [] second := by
    rw [rowOf_nil, List.range_eq_range']
    rfl
  rw [editDistance, hstart, foldl_nextRow, getLastD_rowOf, List.append_nil, List.append_nil]

theorem editDistance_comm [PartialEquivBEq α] (first second : List α) :
    editDistance first second = editDistance second first := by
  rw [editDistance_eq_distance, editDistance_eq_distance, distance_comm]

end InvoiceReadiness.Matching
