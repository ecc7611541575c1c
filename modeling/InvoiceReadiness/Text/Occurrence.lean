/-!
# Occurrences

Whether one text is found inside another one.
-/

namespace InvoiceReadiness

/-- Whether a list occurs in another one without gaps. -/
def occursIn {α : Type} [BEq α] (part : List α) : List α → Bool
  | [] => part.isEmpty
  | c :: rest => part.isPrefixOf (c :: rest) || occursIn part rest

/-- An occurrence is a list within a list. -/
theorem occursIn_iff_isInfix {α : Type} [BEq α] [LawfulBEq α] {part whole : List α} :
    occursIn part whole ↔ part <:+: whole := by
  induction whole with
  | nil => rw [occursIn, List.isEmpty_iff, List.infix_nil]
  | cons c rest ih =>
      rw [occursIn, Bool.or_eq_true, List.isPrefixOf_iff_prefix, ih, List.infix_cons_iff]

/-- Whether a text occurs in another one. -/
def textOccursIn (part whole : String) : Bool :=
  occursIn part.toList whole.toList

end InvoiceReadiness
