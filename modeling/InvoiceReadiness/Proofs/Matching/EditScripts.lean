import InvoiceReadiness.Proofs.Matching.EditDistance
import Mathlib.Order.Bounds.Basic

/-!
# Edit scripts

An edit inserts, deletes or replaces one character, anywhere in a list. Lists turn into each
other by scripts of edits, one after the other, and the edit distance is the length of the
shortest script.

A script of that length is read off the cases of the distance (`turnsInto_distance`). That
none is shorter has to be seen for every script, also for one that goes back and forth:
a single edit changes the distance to any third list by at most one
(`distance_le_of_edit`), and a script does so once for each of its edits.

The laws of a metric are then those of scripts: a script can be undone, and two can be put
one after the other.

## Main results

* `isLeast_editDistance` — the distance is the length of the shortest script.
* `editDistance_eq_zero_iff`, `editDistance_le_add` — the laws of a metric, with
  `editDistance_comm`.
* `editDistance_metric` — all of them, with the bounds that the lengths of the lists give.
-/

namespace InvoiceReadiness.Matching

variable {α : Type} {n : Nat} {s t u : List α}

/-- One edit: a character is inserted, deleted or replaced, anywhere in a list. -/
inductive Edit : List α → List α → Prop where
  | insert (before after : List α) (c : α) : Edit (before ++ after) (before ++ c :: after)
  | delete (before after : List α) (c : α) : Edit (before ++ c :: after) (before ++ after)
  | replace (before after : List α) (c d : α) :
      Edit (before ++ c :: after) (before ++ d :: after)

/-- A list turns into another one by so many edits, one after the other. -/
inductive TurnsInto : Nat → List α → List α → Prop where
  | refl (s : List α) : TurnsInto 0 s s
  | step {n : Nat} {s t u : List α} (first : Edit s t) (rest : TurnsInto n t u) :
      TurnsInto (n + 1) s u

/-! ## Edits and scripts -/

namespace Edit

/-- An edit can be undone by another one. -/
theorem symm (h : Edit s t) : Edit t s := by
  cases h with
  | insert before after c => exact .delete before after c
  | delete before after c => exact .insert before after c
  | replace before after c d => exact .replace before after d c

/-- What is an edit is one also with another character in front. -/
theorem cons (c : α) (h : Edit s t) : Edit (c :: s) (c :: t) := by
  cases h with
  | insert before after d => exact .insert (c :: before) after d
  | delete before after d => exact .delete (c :: before) after d
  | replace before after d e => exact .replace (c :: before) after d e

/-- An edit is one also if the lists are read from their ends. -/
theorem reverse (h : Edit s t) : Edit s.reverse t.reverse := by
  cases h with
  | insert before after c => simpa using insert after.reverse before.reverse c
  | delete before after c => simpa using delete after.reverse before.reverse c
  | replace before after c d => simpa using replace after.reverse before.reverse c d

theorem length_le (h : Edit s t) : t.length ≤ s.length + 1 := by
  cases h <;> simp only [List.length_append, List.length_cons] <;> omega

end Edit

namespace TurnsInto

/-- Scripts can be put one after the other. -/
theorem trans {m : Nat} (hst : TurnsInto m s t) (htu : TurnsInto n t u) :
    TurnsInto (m + n) s u := by
  induction hst with
  | refl s => rwa [Nat.zero_add]
  | step first _ ih =>
      rw [Nat.add_right_comm]
      exact step first (ih htu)

/-- A script can be undone by one of the same length. -/
theorem symm (h : TurnsInto n s t) : TurnsInto n t s := by
  induction h with
  | refl s => exact refl s
  | step first _ ih => exact ih.trans (step first.symm (refl _))

theorem cons (c : α) (h : TurnsInto n s t) : TurnsInto n (c :: s) (c :: t) := by
  induction h with
  | refl s => exact refl (c :: s)
  | step first _ ih => exact step (first.cons c) ih

theorem reverse (h : TurnsInto n s t) : TurnsInto n s.reverse t.reverse := by
  induction h with
  | refl s => exact refl s.reverse
  | step first _ ih => exact step first.reverse ih

theorem reverse_iff : TurnsInto n s.reverse t.reverse ↔ TurnsInto n s t := by
  constructor
  · intro h
    simpa using h.reverse
  · exact reverse

/-- Without edits nothing changes. -/
theorem eq_of_zero (h : TurnsInto 0 s t) : s = t := by
  cases h
  rfl

theorem length_le (h : TurnsInto n s t) : t.length ≤ s.length + n := by
  induction h with
  | refl s => exact Nat.le_refl _
  | step first _ ih =>
      have hfirst := first.length_le
      omega

/-! A character in front of a list may be inserted, deleted or replaced first. -/

theorem insert_cons (c : α) (h : TurnsInto n s t) : TurnsInto (n + 1) s (c :: t) :=
  step (.insert [] s c) (h.cons c)

theorem delete_cons (c : α) (h : TurnsInto n s t) : TurnsInto (n + 1) (c :: s) t :=
  step (.delete [] s c) h

theorem replace_cons (c d : α) (h : TurnsInto n s t) : TurnsInto (n + 1) (c :: s) (d :: t) :=
  step (.replace [] s c d) (h.cons d)

/-- Every list can be written character by character. -/
theorem of_nil (t : List α) : TurnsInto t.length [] t := by
  induction t with
  | nil => exact refl []
  | cons c t ih => exact ih.insert_cons c

end TurnsInto

/-! ## A script for the distance -/

section Distance

variable [BEq α]

theorem distance_cons_cons_cases (x y : α) (xs ys : List α) :
    distance (x :: xs) (y :: ys) = distance xs (y :: ys) + 1 ∨
      distance (x :: xs) (y :: ys) = distance (x :: xs) ys + 1 ∨
      distance (x :: xs) (y :: ys) = distance xs ys + if x == y then 0 else 1 := by
  rw [distance_cons_cons]
  omega

variable [LawfulBEq α]

/-- There is a script as long as the distance: its first edit is the one that the distance
counts. -/
theorem turnsInto_distance (xs ys : List α) : TurnsInto (distance xs ys) xs ys := by
  induction xs generalizing ys with
  | nil =>
      rw [distance_nil]
      exact .of_nil ys
  | cons x xs ih =>
      induction ys with
      | nil =>
          rw [distance_nil_right]
          exact (TurnsInto.of_nil (x :: xs)).symm
      | cons y ys ihys =>
          rcases distance_cons_cons_cases x y xs ys with hdelete | hinsert | hmatch
          · rw [hdelete]
            exact (ih (y :: ys)).delete_cons x
          · rw [hinsert]
            exact ihys.insert_cons y
          · rw [hmatch]
            by_cases hsame : x = y
            · rw [hsame, if_pos (beq_self_eq_true y)]
              exact (ih ys).cons y
            · rw [if_neg (by simpa using hsame)]
              exact (ih ys).replace_cons x y

/-! ## No script is shorter -/

omit [LawfulBEq α]

theorem distance_cons_le (x : α) (xs ys : List α) :
    distance (x :: xs) ys ≤ distance xs ys + 1 := by
  cases ys with
  | nil => rw [distance_nil_right, distance_nil_right, List.length_cons]
  | cons y ys =>
      rw [distance_cons_cons]
      omega

theorem distance_le_cons_right (xs ys : List α) (y : α) :
    distance xs (y :: ys) ≤ distance xs ys + 1 := by
  cases xs with
  | nil => rw [distance_nil, distance_nil, List.length_cons]
  | cons x xs =>
      rw [distance_cons_cons]
      omega

theorem distance_cons_cons_le (x y : α) (xs ys : List α) :
    distance (x :: xs) (y :: ys) ≤ distance xs ys + 1 := by
  rw [distance_cons_cons]
  split <;> omega

theorem distance_le_distance_cons (x : α) (xs zs : List α) :
    distance xs zs ≤ distance (x :: xs) zs + 1 := by
  induction zs with
  | nil =>
      rw [distance_nil_right, distance_nil_right, List.length_cons]
      omega
  | cons z zs ih =>
      have hinsert := distance_le_cons_right xs zs z
      rcases distance_cons_cons_cases x z xs zs with h | h | h <;> omega

theorem distance_replace_le (x y : α) (xs zs : List α) :
    distance (x :: xs) zs ≤ distance (y :: xs) zs + 1 := by
  induction zs with
  | nil =>
      rw [distance_nil_right, distance_nil_right, List.length_cons]
      exact Nat.le_succ _
  | cons z zs ih =>
      have hdelete := distance_cons_le x xs (z :: zs)
      have hinsert := distance_le_cons_right (x :: xs) zs z
      have hmatch := distance_cons_cons_le x z xs zs
      rcases distance_cons_cons_cases y z xs zs with h | h | h <;> omega

/-- Lists that are near each other stay so with a character in front. -/
theorem distance_cons_le_distance_cons {xs ys : List α}
    (h : ∀ zs, distance xs zs ≤ distance ys zs + 1) (x : α) (zs : List α) :
    distance (x :: xs) zs ≤ distance (x :: ys) zs + 1 := by
  induction zs with
  | nil =>
      have hlength := h []
      rw [distance_nil_right, distance_nil_right] at *
      simpa using hlength
  | cons z zs ih =>
      have hrest := h zs
      have hdelete := h (z :: zs)
      have hcons := distance_cons_cons x z xs zs
      rcases distance_cons_cons_cases x z ys zs with h' | h' | h' <;> omega

/-- One edit changes the distance to any list by at most one. -/
theorem distance_le_of_edit (h : Edit s t) (zs : List α) :
    distance s zs ≤ distance t zs + 1 := by
  have hbefore (before s t : List α) (hnear : ∀ zs, distance s zs ≤ distance t zs + 1) :
      ∀ zs, distance (before ++ s) zs ≤ distance (before ++ t) zs + 1 := by
    induction before with
    | nil => exact hnear
    | cons x before ih => exact distance_cons_le_distance_cons ih x
  cases h with
  | insert before after c => exact hbefore before _ _ (distance_le_distance_cons c after) zs
  | delete before after c => exact hbefore before _ _ (distance_cons_le c after) zs
  | replace before after c d => exact hbefore before _ _ (distance_replace_le c d after) zs

theorem distance_self [LawfulBEq α] (s : List α) : distance s s = 0 := by
  induction s with
  | nil => exact distance_nil []
  | cons x s ih =>
      rw [distance_cons_cons, ih, if_pos (beq_self_eq_true x)]
      omega

/-- A script is at least as long as the distance, by induction on its edits. -/
theorem distance_le_of_turnsInto [LawfulBEq α] (h : TurnsInto n s t) : distance s t ≤ n := by
  induction h with
  | refl s => exact Nat.le_of_eq (distance_self s)
  | step first _ ih => exact (distance_le_of_edit first _).trans (Nat.succ_le_succ ih)

/-- Matching all characters of the shorter list is one way to turn one into the other. -/
theorem distance_le_max (xs ys : List α) : distance xs ys ≤ max xs.length ys.length := by
  induction xs generalizing ys with
  | nil => simp [distance_nil]
  | cons x xs ih =>
      cases ys with
      | nil => simp [distance_nil_right]
      | cons y ys =>
          have hmatch := distance_cons_cons_le x y xs ys
          have hrest := ih ys
          rw [List.length_cons, List.length_cons]
          omega

end Distance

/-! ## The edit distance -/

section EditDistance

variable [BEq α] [LawfulBEq α]

/-- The edit distance is the length of the shortest script. -/
theorem isLeast_editDistance (s t : List α) :
    IsLeast {n | TurnsInto n s t} (editDistance s t) := by
  rw [editDistance_eq_distance]
  constructor
  · exact TurnsInto.reverse_iff.1 (turnsInto_distance s.reverse t.reverse)
  · intro n h
    exact distance_le_of_turnsInto h.reverse

theorem editDistance_eq_zero_iff {s t : List α} : editDistance s t = 0 ↔ s = t := by
  have hleast := isLeast_editDistance s t
  constructor
  · intro hzero
    rw [hzero] at hleast
    exact hleast.1.eq_of_zero
  · rintro rfl
    exact Nat.le_zero.1 (hleast.2 (TurnsInto.refl s))

/-- The way over a third list is no shorter. -/
theorem editDistance_le_add (s t u : List α) :
    editDistance s u ≤ editDistance s t + editDistance t u :=
  (isLeast_editDistance s u).2
    (TurnsInto.trans (isLeast_editDistance s t).1 (isLeast_editDistance t u).1)

theorem length_le_add_editDistance (s t : List α) :
    t.length ≤ s.length + editDistance s t :=
  TurnsInto.length_le (isLeast_editDistance s t).1

omit [LawfulBEq α] in
theorem editDistance_le_max (s t : List α) : editDistance s t ≤ max s.length t.length := by
  rw [editDistance_eq_distance, ← s.length_reverse, ← t.length_reverse]
  exact distance_le_max s.reverse t.reverse

end EditDistance

/--
**The edit distance** of two lists of characters is the least number of insertions, deletions
and replacements of one character that turn the first into the second. So it is a metric on
texts, and it lies between the difference of the lengths and the length of the longer text.
-/
theorem editDistance_metric [DecidableEq α] (s t : List α) :
    IsLeast {n | TurnsInto n s t} (editDistance s t) ∧
      editDistance s t = editDistance t s ∧
      (editDistance s t = 0 ↔ s = t) ∧
      (∀ u, editDistance s u ≤ editDistance s t + editDistance t u) ∧
      max s.length t.length - min s.length t.length ≤ editDistance s t ∧
      editDistance s t ≤ max s.length t.length := by
  have hst := length_le_add_editDistance s t
  have hts := length_le_add_editDistance t s
  rw [editDistance_comm] at hts
  refine ⟨isLeast_editDistance s t, editDistance_comm s t, editDistance_eq_zero_iff,
    editDistance_le_add s t, ?_, editDistance_le_max s t⟩
  omega

example : editDistance "kitten".toList "sitting".toList = 3 := by decide

end InvoiceReadiness.Matching
