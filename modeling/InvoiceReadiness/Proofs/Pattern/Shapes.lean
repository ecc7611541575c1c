import InvoiceReadiness.Pattern.Search

/-!
# Patterns of a fixed shape

Most patterns of the check pack ask for characters of certain sets in certain numbers, one
after the other, from the start of a text to its end. There is only one way to match such a
pattern, so the search comes down to cutting the text into words of given lengths.

## Main results

* `isSome_run_times` — a set a fixed number of times takes a word of that length.
* `foundIn_textStart` — a pattern that starts with the text is sought there alone.
-/

namespace InvoiceReadiness

/-- The state after a word. -/
def MatchState.past (state : MatchState) (word rest : List Char) : MatchState :=
  { state with
    place := ⟨word.reverse ++ state.place.before, rest, state.place.index + word.length⟩ }

theorem MatchState.isSome_step?_bind {takes : Char → Bool} {state : MatchState}
    {rest : Pattern.Continue} : ((state.step? takes).bind rest).isSome ↔
      ∃ c after, state.place.after = c :: after ∧ takes c ∧ (rest (state.past [c] after)).isSome := by
  unfold step?
  split
  · rename_i hafter
    simp [hafter]
  · rename_i c after hafter
    by_cases htakes : takes c
    · rw [if_pos htakes, Option.bind_some]
      constructor
      · exact fun h => ⟨c, after, hafter, htakes, h⟩
      · rintro ⟨c', after', heq, -, h⟩
        obtain ⟨rfl, rfl⟩ := List.cons.inj (hafter.symm.trans heq)
        exact h
    · rw [if_neg htakes]
      refine iff_of_false nofun ?_
      rintro ⟨c', after', heq, htakes', -⟩
      obtain ⟨rfl, rfl⟩ := List.cons.inj (hafter.symm.trans heq)
      exact htakes htakes'

@[simp] theorem MatchState.past_nil (state : MatchState) :
    state.past [] state.place.after = state := rfl

theorem MatchState.past_past (state : MatchState) (c : Char) (word after rest : List Char) :
    (state.past [c] after).past word rest = state.past (c :: word) rest := by
  have hindex : state.place.index + 1 + word.length = state.place.index + (word.length + 1) := by
    omega
  simp [past, hindex]

namespace Pattern

/-- A pattern a fixed number of times. -/
def times (n : Nat) (body : Pattern) : Pattern := .repeated .greedy n (some n) body

variable {s : CharSet} {state : MatchState} {rest : Continue}

theorem isSome_run_set : ((set s).run state rest).isSome ↔
    ∃ c after, state.place.after = c :: after ∧ s.takes c ∧
      (rest (state.past [c] after)).isSome :=
  MatchState.isSome_step?_bind

/-- Rounds up to a fixed number take a word of as many characters as rounds are left. -/
theorem isSome_repeatGreedy {left : Nat} {rounds count : Nat} {last : Option Nat}
    (hrounds : left < rounds) : (repeatGreedy (set s).run (count + left) (some (count + left)) rest
        rounds count last state).isSome ↔
      ∃ word after, state.place.after = word ++ after ∧ word.length = left ∧
        (∀ c ∈ word, s.takes c) ∧ (rest (state.past word after)).isSome := by
  obtain ⟨rounds, rfl⟩ := Nat.exists_eq_add_of_lt hrounds
  induction left generalizing count state with
  | zero =>
      rw [Nat.add_zero, Nat.zero_add, repeatGreedy_of_max]
      constructor
      · exact fun h => ⟨[], state.place.after, rfl, rfl, nofun, h⟩
      · rintro ⟨word, after, hafter, hlength, -, h⟩
        obtain rfl := List.eq_nil_of_length_eq_zero hlength
        obtain rfl : state.place.after = after := hafter
        exact h
  | succ left ih =>
      have hcount : count + (left + 1) = count + 1 + left := by omega
      have hrounds : left + 1 + rounds + 1 = left + rounds + 1 + 1 := by omega
      rw [hrounds, repeatGreedy_of_lt _ (by omega), isSome_run_set, hcount]
      simp only [ih (by omega)]
      constructor
      · rintro ⟨c, tail, hc, htakes, word, after, htail, hlength, hword, h⟩
        refine ⟨c :: word, after, ?_, ?_, List.forall_mem_cons.2 ⟨htakes, hword⟩, ?_⟩
        · rw [hc]
          exact congrArg (c :: ·) htail
        · rw [List.length_cons, hlength]
        · rwa [MatchState.past_past] at h
      · rintro ⟨word, after, hafter, hlength, hword, h⟩
        obtain ⟨c, more, rfl⟩ := List.exists_cons_of_length_eq_add_one hlength
        obtain ⟨htakes, hmore⟩ := List.forall_mem_cons.1 hword
        refine ⟨c, more ++ after, hafter, htakes, more, after, rfl, ?_, hmore, ?_⟩
        · rwa [List.length_cons, Nat.add_right_cancel_iff] at hlength
        · rwa [MatchState.past_past]

/-- A set a fixed number of times takes a word of that length. -/
theorem isSome_run_times {n : Nat} : ((times n (set s)).run state rest).isSome ↔
    ∃ word after, state.place.after = word ++ after ∧ word.length = n ∧
      (∀ c ∈ word, s.takes c) ∧ (rest (state.past word after)).isSome := by
  have htimes : (repeatGreedy (set s).run (0 + n) (some (0 + n)) rest
      (n + state.place.after.length + 3) 0 none state).isSome ↔ _ := isSome_repeatGreedy (by omega)
  rwa [Nat.zero_add] at htimes

/-- A pattern that starts with the text is sought there alone. -/
theorem foundIn_textStart (p : Pattern) (s : String) :
    (seq (.anchor .textStart) p).foundIn s = (p.run ⟨⟨[], s.toList, 0⟩, []⟩ some).isSome := by
  have hlater (c : Char) (before : List Char) (index : Nat) (cs : List Char) :
      (seq (.anchor .textStart) p).foundFrom (c :: before) index cs = false := by
    induction cs generalizing c before index with
    | nil => rfl
    | cons d rest ih => exact ih d (c :: before) (index + 1)
  rw [foundIn]
  cases s.toList with
  | nil => rfl
  | cons c rest =>
      rw [foundFrom, hlater, Bool.or_false]
      rfl

end Pattern

end InvoiceReadiness
