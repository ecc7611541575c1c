import InvoiceReadiness.Value.Path

/-!
# The parts of a text

A text is cut at every separator in it, and the parts with the separators between them are the
text again. No part has a separator in it, so a text without separators is one part, and the
parts on the two sides of a separator are cut without regard to each other.

## Main results

* `intercalate_splitAtChar`, `not_mem_of_mem_splitAtChar` — what the parts are.
* `splitAtChar_append_cons` — the parts on the two sides of a separator.
-/

namespace InvoiceReadiness

/-- There is always a first part, and the next character goes in front of it, unless that is the
separator. -/
theorem exists_splitAtChar_cons (separator : Char) (cs : List Char) :
    ∃ first more, splitAtChar separator cs = first :: more ∧
      ∀ c, splitAtChar separator (c :: cs) =
        if c = separator then [] :: first :: more else (c :: first) :: more := by
  obtain ⟨first, more, hparts⟩ : ∃ first more, splitAtChar separator cs = first :: more := by
    cases cs with
    | nil => exact ⟨[], [], rfl⟩
    | cons c rest =>
        rw [splitAtChar]
        split
        · exact ⟨_, _, rfl⟩
        · split <;> exact ⟨_, _, rfl⟩
  refine ⟨first, more, hparts, fun c => ?_⟩
  rw [splitAtChar, hparts]
  simp only [beq_iff_eq]

/-- The parts with the separator between them are the text. -/
theorem intercalate_splitAtChar (separator : Char) (cs : List Char) :
    [separator].intercalate (splitAtChar separator cs) = cs := by
  induction cs with
  | nil => rfl
  | cons c rest ih =>
      obtain ⟨first, more, hparts, hcons⟩ := exists_splitAtChar_cons separator rest
      rw [hparts] at ih
      rw [hcons]
      split
      · rename_i hc
        rw [List.intercalate_cons_cons, ih, hc]
        rfl
      · cases more with
        | nil => simpa [List.intercalate] using ih
        | cons second more =>
            rw [List.intercalate_cons_cons] at ih ⊢
            rw [List.cons_append, List.cons_append, ih]

/-- The separator is in none of the parts. -/
theorem not_mem_of_mem_splitAtChar {separator : Char} {cs part : List Char}
    (h : part ∈ splitAtChar separator cs) : separator ∉ part := by
  induction cs generalizing part with
  | nil =>
      obtain rfl : part = [] := List.mem_singleton.1 h
      exact List.not_mem_nil
  | cons c rest ih =>
      obtain ⟨first, more, hparts, hcons⟩ := exists_splitAtChar_cons separator rest
      rw [hparts] at ih
      rw [hcons] at h
      split at h
      · rcases List.mem_cons.1 h with rfl | hlater
        · exact List.not_mem_nil
        · exact ih hlater
      · rename_i hc
        rcases List.mem_cons.1 h with rfl | hlater
        · rw [List.mem_cons, not_or]
          exact ⟨Ne.symm hc, ih List.mem_cons_self⟩
        · exact ih (List.mem_cons_of_mem _ hlater)

/-- A text without separators is its only part. -/
theorem splitAtChar_of_not_mem {separator : Char} {cs : List Char} (h : separator ∉ cs) :
    splitAtChar separator cs = [cs] := by
  induction cs with
  | nil => rfl
  | cons c rest ih =>
      obtain ⟨first, more, hparts, hcons⟩ := exists_splitAtChar_cons separator rest
      rw [ih fun hrest => h (List.mem_cons_of_mem c hrest)] at hparts
      obtain ⟨rfl, rfl⟩ := List.cons.inj hparts
      have hc : c ≠ separator := fun heq => h (heq ▸ List.mem_cons_self)
      rw [hcons, if_neg hc]

/-- A text with a separator in it has the parts before the separator and those after it. -/
theorem splitAtChar_append_cons (separator : Char) (before after : List Char) :
    splitAtChar separator (before ++ separator :: after) =
      splitAtChar separator before ++ splitAtChar separator after := by
  induction before with
  | nil =>
      obtain ⟨first, more, hparts, hcons⟩ := exists_splitAtChar_cons separator after
      rw [List.nil_append, hcons, if_pos rfl, hparts]
      rfl
  | cons c rest ih =>
      obtain ⟨first, more, hparts, hcons⟩ := exists_splitAtChar_cons separator rest
      obtain ⟨first', more', hparts', hcons'⟩ :=
        exists_splitAtChar_cons separator (rest ++ separator :: after)
      rw [hparts, hparts', List.cons_append] at ih
      obtain ⟨rfl, rfl⟩ := List.cons.inj ih
      rw [List.cons_append, hcons, hcons']
      split <;> rfl

end InvoiceReadiness
