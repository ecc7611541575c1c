import InvoiceReadiness.Numeric.Tolerance
import InvoiceReadiness.Proofs.Expression.Lexeme
import InvoiceReadiness.Value.Conversion

/-!
# Numbers with blanks around them

A text that is to be a number is read in two ways. Parameters of a rule are read as they are,
cells and the parameters of the check pack after the blanks around them have been dropped.
Blank are also the information separators, and no number may be padded with these, so the
second way reads more texts than the first. But it reads none of them otherwise: no numeral
has a blank in it, so what is left of a text that can be read as it is does not depend on
which blanks are dropped.

## Main results

* `unpaddedNumber?_of_mem` — a numeral has no blanks.
* `readNumber?_blank` — nothing but blanks is no number.
* `readNumber?_trim` — a number is read the same without the blanks around it.
* `Value.toBinary64_of_toNumber?` — the two ways to read a parameter.
-/

namespace InvoiceReadiness

/-! ## Trimming -/

theorem dropWhile_congr {p q : Char → Bool} {cs : List Char}
    (h : ∀ c ∈ cs, p c = q c) : cs.dropWhile p = cs.dropWhile q := by
  induction cs with
  | nil => rfl
  | cons c rest ih =>
      obtain ⟨hc, hrest⟩ := List.forall_mem_cons.1 h
      rw [List.dropWhile_cons, List.dropWhile_cons, hc, ih hrest]

theorem trimChars_congr {p q : Char → Bool} {cs : List Char}
    (h : ∀ c ∈ cs, p c = q c) : trimChars p cs = trimChars q cs := by
  have hkept : ∀ c ∈ (cs.dropWhile q).reverse, p c = q c := fun c hc =>
    h c ((List.dropWhile_sublist q).subset (List.mem_reverse.1 hc))
  rw [trimChars, trimChars, dropWhile_congr h, dropWhile_congr hkept]

/-- What is left after dropping has nothing to drop at its front. -/
theorem dropWhile_of_isPrefix {p : Char → Bool} {cs kept : List Char}
    (h : kept <+: cs.dropWhile p) : kept.dropWhile p = kept := by
  cases kept with
  | nil => rfl
  | cons c rest =>
      obtain ⟨more, hmore⟩ := h
      have hne : cs.dropWhile p ≠ [] := by simp [← hmore]
      have hhead := List.head_dropWhile_not p hne
      simp only [← hmore, List.cons_append, List.head_cons] at hhead
      rw [List.dropWhile_cons, hhead]
      rfl

/-- What is left after trimming has nothing to trim. -/
theorem trimChars_trimChars (drop : Char → Bool) (cs : List Char) :
    trimChars drop (trimChars drop cs) = trimChars drop cs := by
  let kept := (cs.dropWhile drop).reverse.dropWhile drop
  have hprefix : kept.reverse <+: cs.dropWhile drop := by
    have hsuffix : kept <:+ (cs.dropWhile drop).reverse := List.dropWhile_suffix drop
    rwa [← List.reverse_prefix, List.reverse_reverse] at hsuffix
  have htrim : trimChars drop cs = kept.reverse := rfl
  rw [htrim, trimChars, dropWhile_of_isPrefix hprefix, List.reverse_reverse,
    dropWhile_of_isPrefix (List.prefix_refl kept)]

theorem mem_of_mem_trimChars {drop : Char → Bool} {cs : List Char} {c : Char}
    (h : c ∈ trimChars drop cs) : c ∈ cs := by
  have hinner := (List.dropWhile_sublist drop).subset (List.mem_reverse.1 h)
  exact (List.dropWhile_sublist drop).subset (List.mem_reverse.1 hinner)

/-! ## Numerals and blanks -/

/-- Blank characters are no letters. -/
theorem toLower_of_isBlankChar {c : Char} (h : isBlankChar c) : c.toLower = c := by
  unfold Char.toLower
  refine dif_neg fun hupper => ?_
  obtain ⟨hfirst, hlast⟩ := hupper
  have hfrom : 65 ≤ c.toNat := UInt32.le_iff_toNat_le.1 hfirst
  have hto : c.toNat ≤ 90 := UInt32.le_iff_toNat_le.1 hlast
  simp only [isBlankChar, show c.toNat < 0x80 by omega, if_true, Bool.or_eq_true,
    Bool.and_eq_true, decide_eq_true_eq] at h
  omega

section Blank

variable {c : Char} (hblank : isBlankChar c)

include hblank

theorem ne_of_isBlankChar {d : Char} (hd : isBlankChar d = false) : c ≠ d := by
  rintro rfl
  rw [hd] at hblank
  cases hblank

theorem decimalDigit?_of_isBlankChar : decimalDigit? c = none := by
  by_contra hdigit
  have hnot := Lexer.isBlankChar_of_isDecimalDigit (Option.isSome_iff_ne_none.2 hdigit)
  rw [hnot] at hblank
  cases hblank

/-- No sign is blank. -/
theorem mem_takeSign {cs : List Char} (hc : c ∈ cs) : c ∈ (takeSign cs).2 := by
  unfold takeSign
  split
  · exact (List.mem_cons.1 hc).resolve_left (ne_of_isBlankChar hblank (by decide))
  · exact (List.mem_cons.1 hc).resolve_left (ne_of_isBlankChar hblank (by decide))
  · exact hc

theorem mem_takeDigits {cs : List Char} (hc : c ∈ cs) : c ∈ (takeDigits cs).2 := by
  induction cs with
  | nil => cases hc
  | cons d rest ih =>
      rw [takeDigits]
      cases hd : decimalDigit? d with
      | none => exact hc
      | some value =>
          have hne : c ≠ d := by
            rintro rfl
            rw [decimalDigit?_of_isBlankChar hblank] at hd
            cases hd
          exact ih ((List.mem_cons.1 hc).resolve_left hne)

theorem exponentPart?_of_mem {cs : List Char} (hc : c ∈ cs) : exponentPart? cs = none := by
  cases cs with
  | nil => cases hc
  | cons d rest =>
      rw [exponentPart?]
      split
      · rename_i hd
        have hlower := ne_of_isBlankChar hblank (d := 'e') (by decide)
        have hupper := ne_of_isBlankChar hblank (d := 'E') (by decide)
        have hne : c ≠ d := by
          rintro rfl
          simp [hlower, hupper] at hd
        have hrest := mem_takeSign hblank ((List.mem_cons.1 hc).resolve_left hne)
        have hafter := mem_takeDigits hblank hrest
        dsimp only
        split
        · rfl
        · rename_i digits hdigits
          rw [hdigits] at hafter
          cases hafter
        · rfl
      · rfl

theorem numberWord?_of_mem {cs : List Char} (hc : c ∈ cs) (negative : Bool) :
    numberWord? negative cs = none := by
  have hother (word : String) (hword : word.toList.all fun d => !isBlankChar d) :
      (String.ofList (cs.map Char.toLower) == word) = false := by
    rw [beq_eq_false_iff_ne]
    rintro rfl
    have hmem : c ∈ cs.map Char.toLower :=
      List.mem_map.2 ⟨c, hc, toLower_of_isBlankChar hblank⟩
    rw [String.toList_ofList] at hword
    have hnot := List.all_eq_true.1 hword c hmem
    rw [hblank] at hnot
    cases hnot
  simp only [numberWord?, hother "inf" (by decide), hother "infinity" (by decide),
    hother "nan" (by decide), Bool.or_false, Bool.false_eq_true, if_false]

/-- A numeral has no blanks: whatever has been read of a text with a blank in it, the blank is
still to come, and neither a word nor an exponent can end with what is left. -/
theorem unpaddedNumber?_of_mem {cs : List Char} (hc : c ∈ cs) : unpaddedNumber? cs = none := by
  have hbody := mem_takeSign hblank hc
  have hrest := mem_takeDigits hblank hbody
  unfold unpaddedNumber?
  generalize takeSign cs = signed at hbody hrest
  obtain ⟨negative, body⟩ := signed
  dsimp only at hbody hrest ⊢
  generalize takeDigits body = digits at hrest
  obtain ⟨whole, rest⟩ := digits
  dsimp only at hrest ⊢
  split
  · rename_i after
    have hafter : c ∈ after :=
      (List.mem_cons.1 hrest).resolve_left (ne_of_isBlankChar hblank (by decide))
    rw [numberWord?_of_mem hblank hbody, exponentPart?_of_mem hblank (mem_takeDigits hblank hafter)]
    split <;> rfl
  · rw [numberWord?_of_mem hblank hbody, exponentPart?_of_mem hblank hrest]
    split <;> rfl

/-- Dropping separators keeps blanks. -/
theorem mem_withoutSeparators? {afterDigit : Bool} {cs kept : List Char}
    (h : withoutSeparators? afterDigit cs = some kept) (hc : c ∈ cs) : c ∈ kept := by
  induction cs generalizing afterDigit kept with
  | nil => cases hc
  | cons d rest ih =>
      rw [withoutSeparators?] at h
      split at h
      · rename_i hd
        have hne : c ≠ d := by
          rw [beq_iff_eq.1 hd]
          exact ne_of_isBlankChar hblank (by decide)
        split at h
        · exact ih h ((List.mem_cons.1 hc).resolve_left hne)
        · cases h
      · obtain ⟨more, hmore, rfl⟩ := Option.map_eq_some_iff.1 h
        rcases List.mem_cons.1 hc with rfl | hc
        · exact List.mem_cons_self
        · exact List.mem_cons_of_mem d (ih hmore hc)

end Blank

/-- A text that is read as a number is not empty, and none of its characters is blank. -/
theorem not_isBlankChar_of_read {body : List Char} {x : Binary64}
    (h : (withoutSeparators? false body).bind unpaddedNumber? = some x) :
    body ≠ [] ∧ ∀ c ∈ body, isBlankChar c = false := by
  obtain ⟨kept, hkept, hx⟩ := Option.bind_eq_some_iff.1 h
  refine ⟨?_, fun c hc => ?_⟩
  · rintro rfl
    cases hkept
    have hnone : unpaddedNumber? [] = none := by decide
    rw [hnone] at hx
    cases hx
  · by_contra hblank
    rw [Bool.not_eq_false] at hblank
    rw [unpaddedNumber?_of_mem hblank (mem_withoutSeparators? hblank hkept hc)] at hx
    cases hx

theorem readNumber?_blank {s : String} (h : ∀ c ∈ s.toList, isBlankChar c) :
    readNumber? s = none := by
  cases hread : readNumber? s with
  | none => rfl
  | some x =>
      obtain ⟨hne, hseen⟩ := not_isBlankChar_of_read hread
      obtain ⟨c, hc⟩ := List.exists_mem_of_ne_nil _ hne
      have hblank := h c (mem_of_mem_trimChars hc)
      rw [hseen c hc] at hblank
      cases hblank

/-! ## Dropping more -/

/-- Where the first character that is left would not be dropped by either class, both drop
the same. -/
theorem dropWhile_eq_of_head {p q : Char → Bool} (hpq : ∀ c, p c → q c) {cs rest : List Char}
    {c : Char} (h : cs.dropWhile p = c :: rest) (hc : q c = false) :
    cs.dropWhile q = c :: rest := by
  induction cs with
  | nil => cases h
  | cons d more ih =>
      by_cases hd : p d
      · rw [List.dropWhile_cons_of_pos hd] at h
        rw [List.dropWhile_cons_of_pos (hpq d hd)]
        exact ih h
      · rw [List.dropWhile_cons_of_neg hd] at h
        obtain ⟨rfl, rfl⟩ := List.cons.inj h
        rw [List.dropWhile_cons_of_neg (by simp [hc])]

/-- Where neither end of what is left would be dropped by a larger class, it drops no more. -/
theorem trimChars_eq_of_ends {p q : Char → Bool} (hpq : ∀ c, p c → q c)
    {cs middle rest : List Char} {first last : Char}
    (hfirst : trimChars p cs = first :: rest) (hlast : trimChars p cs = middle ++ [last])
    (hqfirst : q first = false) (hqlast : q last = false) :
    trimChars q cs = trimChars p cs := by
  have hend : (cs.dropWhile p).reverse.dropWhile p = last :: middle.reverse := by
    rw [← List.reverse_reverse (List.dropWhile p _)]
    show (trimChars p cs).reverse = _
    rw [hlast, List.reverse_append]
    rfl
  -- What is left is the beginning of what is left after dropping at the front.
  have hfront : ∃ more, cs.dropWhile p = first :: more := by
    have hsuffix : (cs.dropWhile p).reverse.dropWhile p <:+ (cs.dropWhile p).reverse :=
      List.dropWhile_suffix p
    rw [← List.reverse_prefix, List.reverse_reverse] at hsuffix
    obtain ⟨more, hmore⟩ := hsuffix
    rw [trimChars] at hfirst
    rw [hfirst] at hmore
    exact ⟨rest ++ more, hmore.symm⟩
  obtain ⟨more, hmore⟩ := hfront
  rw [trimChars, trimChars, dropWhile_eq_of_head hpq hmore hqfirst, ← hmore,
    dropWhile_eq_of_head hpq hend hqlast, hend]

/-- A text that is read as a number is read the same without the blanks around it. -/
theorem readNumber?_trim {s : String} {x : Binary64} (h : readNumber? s = some x) :
    readNumber? (trim s) = some x := by
  unfold readNumber? at h ⊢
  obtain ⟨hne, hseen⟩ := not_isBlankChar_of_read h
  obtain ⟨first, rest, hfirst⟩ := List.exists_cons_of_ne_nil hne
  have hlast := (List.dropLast_concat_getLast hne).symm
  have hseenFirst := hseen first (by simp [hfirst])
  have hseenLast := hseen _ (List.getLast_mem hne)
  have hmargin : ∀ c, isNumberMargin c → isBlankChar c := by
    intro c hc
    rw [isNumberMargin, Bool.and_eq_true] at hc
    exact hc.1
  have htrim := trimChars_eq_of_ends hmargin hfirst hlast hseenFirst hseenLast
  rw [trim, String.toList_ofList, trimBlanks, htrim, trimChars_trimChars]
  exact h

/-- A value that is a number in both ways is the same one, as a binary64 number. -/
theorem Value.toBinary64_of_toNumber? {v : Value} {n : Number} {x : Binary64}
    (hn : v.toNumber? = some n) (hx : v.toBinary64 = .ok x) : n.toBinary64 = .ok x := by
  cases v with
  | number m =>
      cases hn
      exact hx
  | text s =>
      rw [Value.toNumber?, Option.map_eq_some_iff] at hn
      obtain ⟨y, hy, rfl⟩ := hn
      rw [Value.toBinary64] at hx
      split at hx
      · rename_i z hz
        cases hx
        rw [readNumber?_trim hz] at hy
        rw [← Option.some.inj hy]
        rfl
      · cases hx
  | _ => cases hn

end InvoiceReadiness
