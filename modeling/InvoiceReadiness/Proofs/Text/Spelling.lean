import InvoiceReadiness.Proofs.Value.Blanks
import InvoiceReadiness.Text.Case

/-!
# Spellings of a code

A code may be written with blanks around it, and in small or in capital letters. Raising to
upper case undoes the difference between letters, and leaves blanks as they are: so the upper
case of a text is a code without blanks only if there are no blanks in the text.

## Main results

* `upper_eq_of_sameButCase` — texts that differ in the case of letters have one upper case.
* `upper_eq_iff` — the texts whose upper case is a code.
-/

namespace InvoiceReadiness

/-- The code points of ranges, one by one. -/
def CharRanges.codePoints (ranges : CharRanges) : List Nat :=
  ranges.flatMap fun range => List.range' range.1 (range.2 + 1 - range.1)

theorem CharRanges.mem_codePoints {ranges : CharRanges} {c : Char} (h : ranges.contains c) :
    c.toNat ∈ ranges.codePoints := by
  obtain ⟨range, hrange, hc⟩ := List.any_eq_true.1 h
  rw [Bool.and_eq_true, decide_eq_true_eq, decide_eq_true_eq] at hc
  refine List.mem_flatMap.2 ⟨range, hrange, List.mem_range'_1.2 ?_⟩
  omega

theorem mem_codePoints_of_isBlankChar {c : Char} (h : isBlankChar c) :
    c.toNat ∈ CharRanges.codePoints blankRanges := by
  refine CharRanges.mem_codePoints ?_
  unfold isBlankChar at h
  split at h
  · rw [Bool.or_eq_true, Bool.and_eq_true, Bool.and_eq_true] at h
    simp only [decide_eq_true_eq] at h
    refine List.any_eq_true.2 ?_
    rcases h with h | h
    · exact ⟨(0x9, 0xD), by decide, by simpa using h⟩
    · exact ⟨(0x1C, 0x20), by decide, by simpa using h⟩
  · exact h

/-! ## Upper case -/

/-- A blank has no other upper case. -/
theorem upperForm_of_isBlankChar {c : Char} (h : isBlankChar c) : upperForm c = [c] := by
  have hall : ∀ code ∈ CharRanges.codePoints blankRanges,
      upperForm (Char.ofNat code) = [Char.ofNat code] := by decide +kernel
  have hc := hall c.toNat (mem_codePoints_of_isBlankChar h)
  rwa [Char.ofNat_toNat] at hc

theorem upperForm_ne_nil (c : Char) : upperForm c ≠ [] := by
  have hlong : ∀ entry ∈ longUpperForms, entry.2 ≠ [] := by decide
  unfold upperForm
  split
  · exact List.cons_ne_nil _ _
  · split
    · rename_i codes hfind
      rw [ne_eq, List.map_eq_nil_iff]
      exact hlong _ (List.mem_of_find?_eq_some hfind)
    · exact List.cons_ne_nil _ _

/-- A letter in its other case has the same upper case. -/
theorem upperForm_toLower (c : Char) : upperForm c.toLower = upperForm c := by
  by_cases hc : c.toNat < 0x80
  · have hall : ∀ code < 0x80,
        upperForm (Char.ofNat code).toLower = upperForm (Char.ofNat code) := by decide
    have hcode := hall c.toNat hc
    rwa [Char.ofNat_toNat] at hcode
  · have hnot : ¬(c.val ≥ 'A'.val ∧ c.val ≤ 'Z'.val) := by
      rintro ⟨-, hle⟩
      have hle : c.toNat ≤ 90 := hle
      omega
    unfold Char.toLower
    exact congrArg upperForm (dif_neg hnot)

/-- Two texts that differ in the case of ASCII letters alone. -/
def SameButCase (s t : String) : Prop :=
  s.toList.map Char.toLower = t.toList.map Char.toLower

instance (s t : String) : Decidable (SameButCase s t) :=
  inferInstanceAs (Decidable (_ = _))

theorem upper_eq_of_sameButCase {s t : String} (h : SameButCase s t) : upper s = upper t := by
  have hlower (cs : List Char) :
      (cs.map Char.toLower).flatMap upperForm = cs.flatMap upperForm := by
    rw [List.flatMap_map]
    exact congrArg (List.flatMap · cs) (funext upperForm_toLower)
  rw [upper, upper, ← hlower, h, hlower]

theorem SameButCase.eq_empty_iff {s t : String} (h : SameButCase s t) : s = "" ↔ t = "" := by
  rw [← String.toList_eq_nil_iff, ← String.toList_eq_nil_iff, ← List.map_eq_nil_iff, h,
    List.map_eq_nil_iff]

theorem upper_eq_empty_iff {s : String} : upper s = "" ↔ s = "" := by
  rw [← String.toList_eq_nil_iff, ← String.toList_eq_nil_iff, upper, String.toList_ofList,
    List.flatMap_eq_nil_iff]
  exact ⟨fun h => List.eq_nil_iff_forall_not_mem.2 fun c hc => upperForm_ne_nil c (h c hc),
    fun h => by simp [h]⟩

/-! ## Padding -/

theorem trim_eq_empty_iff {s : String} : trim s = "" ↔ (trimBlanks s.toList).isEmpty := by
  rw [← String.toList_eq_nil_iff, trim, String.toList_ofList, List.isEmpty_iff]

theorem Value.isBlank_text (s : String) : (Value.text s).isBlank = .ok (decide (trim s = "")) := by
  simp only [trim_eq_empty_iff, Bool.decide_eq_true]
  rfl

/-- A text without blanks has no padding. -/
theorem trim_eq_self {s : String} (h : ∀ c ∈ s.toList, isBlankChar c = false) : trim s = s := by
  rw [trim, trimBlanks, trimChars_of_forall h, String.ofList_toList]

/-- A text is a code in upper case if it is one without its padding, and has none. -/
theorem upper_eq_iff {s code : String} (hcode : ∀ c ∈ code.toList, isBlankChar c = false) :
    upper s = code ↔ upper (trim s) = code ∧ trim s = s := by
  refine ⟨fun h => ?_, fun h => h.2 ▸ h.1⟩
  have hs : trim s = s := by
    refine trim_eq_self fun c hc => ?_
    by_contra hblank
    have hmem : c ∈ (upper s).toList := by
      rw [upper, String.toList_ofList, List.mem_flatMap]
      exact ⟨c, hc, by simp [upperForm_of_isBlankChar (eq_true_of_ne_false hblank)]⟩
    exact hblank (hcode c (h ▸ hmem))
  exact ⟨hs.symm ▸ h, hs⟩

end InvoiceReadiness
