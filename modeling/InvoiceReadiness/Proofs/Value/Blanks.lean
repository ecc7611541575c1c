import InvoiceReadiness.Proofs.Expression.Inlining
import InvoiceReadiness.Proofs.Expression.Literals
import InvoiceReadiness.Proofs.Value.Showing

/-!
# Vacant cells

A cell is blank by the text that it would be shown with. Only null and texts of blanks
come out blank: the text of anything else has a character that is seen, be it the digit of
a number, the letter of a truth value or the bracket of a list. So whether a cell is vacant
can be told without its text, and zero, false, and lists and objects without items are not.

## Main results

* `Value.isBlank_eq_ok`, `Value.isVacant_of_isBlank` — a value is found to be blank if and
  only if it is vacant, unless it cannot be shown.
-/

namespace InvoiceReadiness

/-- Blanks are all that a text is made of if trimming leaves nothing. -/
theorem trimBlanks_eq_nil_iff {cs : List Char} :
    trimBlanks cs = [] ↔ ∀ c ∈ cs, isBlankChar c := by
  refine ⟨fun h c => Expression.isBlankChar_of_trimBlanks h, fun h => ?_⟩
  rw [trimBlanks, trimChars, List.dropWhile_eq_nil_iff.2 h]
  rfl

/-- Blanks after a text without blanks are dropped, and nothing else is. -/
theorem trimBlanks_append {cs after : List Char} (h : ∀ c ∈ cs, isBlankChar c = false)
    (hafter : ∀ c ∈ after, isBlankChar c) : trimBlanks (cs ++ after) = cs := by
  cases cs with
  | nil => exact trimBlanks_eq_nil_iff.2 hafter
  | cons c rest =>
      have hfront : (c :: rest ++ after).dropWhile isBlankChar = c :: rest ++ after :=
        List.dropWhile_cons_of_neg (by simp [h c List.mem_cons_self])
      have hback : ∀ d ∈ (c :: rest).reverse, isBlankChar d = false := fun d hd =>
        h d (List.mem_reverse.1 hd)
      rw [trimBlanks, trimChars, hfront, List.reverse_append, List.dropWhile_append_of_pos
        (fun d hd => hafter d (List.mem_reverse.1 hd)), dropWhile_of_forall hback,
        List.reverse_reverse]

theorem isBlankChar_of_isDigit {c : Char} (h : c.isDigit) : isBlankChar c = false := by
  refine Lexer.isBlankChar_of_isDecimalDigit ?_
  rw [isDecimalDigit, Lexer.decimalDigit?_of_isDigit h]
  rfl

/-! ## Texts with a character that is seen -/

/-- A text has a character that is no blank. -/
def IsSeen (s : String) : Prop := ∃ c ∈ s.toList, isBlankChar c = false

theorem IsSeen.trimBlanks_ne_nil {s : String} (h : IsSeen s) : trimBlanks s.toList ≠ [] := by
  obtain ⟨c, hc, hseen⟩ := h
  intro hnil
  rw [trimBlanks_eq_nil_iff.1 hnil c hc] at hseen
  cases hseen

/-- What a text starts with is seen in the whole. -/
theorem IsSeen.append {s : String} (h : IsSeen s) (t : String) : IsSeen (s ++ t) := by
  obtain ⟨c, hc, hseen⟩ := h
  exact ⟨c, by simp [hc], hseen⟩

theorem isSeen_wholeText (n : Int) : IsSeen (wholeText n) := by
  unfold wholeText
  split
  · exact ⟨'-', by simp, by decide⟩
  · have hne : decimalDigits n.natAbs ≠ [] := Nat.toDigits_ne_nil
    obtain ⟨c, hc⟩ := List.exists_mem_of_ne_nil _ hne
    refine ⟨c, ?_, isBlankChar_of_isDigit (Lexer.isDigit_of_mem_decimalDigits hc)⟩
    rwa [String.toList_ofList]

/-- The text of a decimal has a point or an exponent. -/
theorem DecimalDigits.exists_mark (d : DecimalDigits) :
    ∃ c ∈ d.text, isBlankChar c = false := by
  have hpoint : isBlankChar '.' = false := by decide
  unfold text
  split
  · split
    · exact ⟨'.', by simp, hpoint⟩
    · exact ⟨'.', by simp, hpoint⟩
  · exact ⟨'e', by simp, by decide⟩

theorem Binary64.isSeen_text (x : Binary64) : IsSeen x.text := by
  have hsigned (negative : Bool) {cs : List Char} (h : ∃ c ∈ cs, isBlankChar c = false) :
      IsSeen (String.ofList (if negative then '-' :: cs else cs)) := by
    obtain ⟨c, hc, hseen⟩ := h
    refine ⟨c, ?_, hseen⟩
    cases negative <;> simp [hc]
  cases x with
  | nan => exact ⟨'n', by decide, by decide⟩
  | infinite negative => exact hsigned negative ⟨'i', by decide, by decide⟩
  | finite negative units h =>
      refine hsigned negative ?_
      split
      · exact ⟨'0', by decide, by decide⟩
      · exact (shortestDigits units).exists_mark

namespace Value

/-! ## Vacant values -/

/-- Null, or a text of blanks alone. -/
def isVacant : Value → Bool
  | null => true
  | text s => s.toList.all isBlankChar
  | _ => false

theorem isNull_of_not_isVacant {v : Value} (hv : v.isVacant = false) : v.isNull = false := by
  cases v with
  | null => cases hv
  | _ => rfl

theorem withinDigits_of_isVacant {v : Value} (hv : v.isVacant) : v.withinDigits := by
  cases v with
  | null => rfl
  | text s => rfl
  | _ => cases hv

/-- The text of a value that is not vacant is seen. -/
theorem isSeen_of_shown {v : Value} {s : String} (hv : v.isVacant = false)
    (h : v.shown = .ok s) : IsSeen s := by
  cases v with
  | null => cases hv
  | bool b =>
      cases h
      cases b with
      | false => exact ⟨'F', by decide, by decide⟩
      | true => exact ⟨'T', by decide, by decide⟩
  | number n =>
      cases n with
      | whole n =>
          have h : wholeText? n = .ok s := h
          rw [wholeText?] at h
          split at h
          · cases h
          · cases h
            exact isSeen_wholeText n
      | float x =>
          cases h
          exact x.isSeen_text
  | text t =>
      cases h
      rw [isVacant, List.all_eq_false] at hv
      simpa only [IsSeen, Bool.not_eq_true] using hv
  | list items =>
      have h : (list items).quotedText = .ok s := h
      rw [quotedText] at h
      obtain ⟨parts, -, ⟨⟩⟩ := Result.bind_eq_ok.1 h
      have hopen : IsSeen "[" := ⟨'[', by decide, by decide⟩
      exact (hopen.append _).append _
  | object members =>
      have h : (object members).quotedText = .ok s := h
      rw [quotedText] at h
      obtain ⟨parts, -, ⟨⟩⟩ := Result.bind_eq_ok.1 h
      have hopen : IsSeen "\x7b" := ⟨'\x7b', by decide, by decide⟩
      exact (hopen.append _).append _

/-- A value that can be shown is blank if it is vacant, and only then. -/
theorem isBlank_eq_ok {v : Value} (hv : v.withinDigits) : v.isBlank = .ok v.isVacant := by
  cases hvacant : v.isVacant with
  | true =>
      cases v with
      | null => rfl
      | text s =>
          have hnil : trimBlanks s.toList = [] :=
            trimBlanks_eq_nil_iff.2 (List.all_eq_true.1 hvacant)
          exact congrArg Except.ok (List.isEmpty_iff.2 hnil)
      | _ => cases hvacant
  | false =>
      obtain ⟨s, hs⟩ := exists_shown hv
      rw [isBlank, isNull_of_not_isVacant hvacant, if_neg Bool.false_ne_true, hs, Result.ok_bind,
        List.isEmpty_eq_false_iff.2 (isSeen_of_shown hvacant hs).trimBlanks_ne_nil]
      rfl

/-- What is found to be blank or not is vacant or not, however large its numbers are. -/
theorem isVacant_of_isBlank {v : Value} {b : Bool} (h : v.isBlank = .ok b) : v.isVacant = b := by
  cases hvacant : v.isVacant with
  | true =>
      rw [isBlank_eq_ok (withinDigits_of_isVacant hvacant), hvacant] at h
      exact Except.ok.inj h
  | false =>
      rw [isBlank, isNull_of_not_isVacant hvacant, if_neg Bool.false_ne_true] at h
      obtain ⟨s, hs, ⟨⟩⟩ := Result.bind_eq_ok.1 h
      exact (List.isEmpty_eq_false_iff.2 (isSeen_of_shown hvacant hs).trimBlanks_ne_nil).symm

end Value

end InvoiceReadiness
