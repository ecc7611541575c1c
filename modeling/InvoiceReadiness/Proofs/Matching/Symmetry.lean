import InvoiceReadiness.Matching.Investigation
import InvoiceReadiness.Proofs.Matching.EditDistance
import InvoiceReadiness.Proofs.Numeric.Agreement

/-!
# Matching both ways

Every sign that a search looks for is a sign of two invoices, whichever of them is the
earlier one. The similarities of names, suppliers and numbers do not depend on the order,
and neither do the agreement of amounts, the gap between dates and the distance of two
registration numbers. The message of a match does, and a cell that cannot be shown may be
read in one order only; so the two comparisons are related where both end well (`Alike`).

## Main results

* `SearchRule.matches?_alike` — the two comparisons of a pair give one confidence.
-/

namespace InvoiceReadiness

theorem Date.gap_comm (d e : Date) : d.gap e = e.gap d := by
  unfold gap
  omega

namespace Matching

theorem similarity_comm (a b : List Char) : similarity a b = similarity b a := by
  have hboth : (a.isEmpty && b.isEmpty) = (b.isEmpty && a.isEmpty) := Bool.and_comm _ _
  have hone : (a.isEmpty || b.isEmpty) = (b.isEmpty || a.isEmpty) := Bool.or_comm _ _
  have hsame : (a == b) = (b == a) := BEq.comm
  have hpart : (occursIn a b || occursIn b a) = (occursIn b a || occursIn a b) :=
    Bool.or_comm _ _
  have hlonger : max a.length b.length = max b.length a.length := Nat.max_comm _ _
  rw [similarity, similarity, hboth, hone, hsame, hpart, hlonger, editDistance_comm]

variable (a b params : Record)

theorem nameSimilarity_alike : Alike (· = ·) (nameSimilarity a b) (nameSimilarity b a) := by
  refine Alike.bind_swap fun first second => ?_
  rw [Bool.or_comm, similarity_comm]
  apply Alike.ite
  · intro _
    exact Alike.pure rfl
  · intro _
    exact Alike.pure rfl

theorem numberSimilarity_alike :
    Alike (· = ·) (numberSimilarity a b) (numberSimilarity b a) := by
  refine Alike.bind_swap fun first second => ?_
  exact Alike.pure (similarity_comm first second)

/-- Where both registration numbers can be read, they are compared if the first has digits. -/
theorem supplierSimilarity_eq {a b : Record} {first second : List Char}
    (hfirst : normalized trnForm (a.get "seller_trn") = .ok first)
    (hsecond : normalized trnForm (b.get "seller_trn") = .ok second) :
    supplierSimilarity a b =
      if first.isEmpty = false ∧ first = second then pure fullScore else nameSimilarity a b := by
  rw [supplierSimilarity, hfirst, Result.ok_bind, hsecond, Result.ok_bind]
  by_cases hempty : first.isEmpty
  · rw [if_pos hempty, if_neg]
    intro h
    rw [h.1] at hempty
    contradiction
  · rw [if_neg hempty]
    simp [hempty]

theorem supplierSimilarity_alike :
    Alike (· = ·) (supplierSimilarity a b) (supplierSimilarity b a) := by
  intro x y hx hy
  obtain ⟨first, hfirst, -⟩ := Result.bind_eq_ok.1 hx
  obtain ⟨second, hsecond, -⟩ := Result.bind_eq_ok.1 hy
  rw [supplierSimilarity_eq hfirst hsecond] at hx
  rw [supplierSimilarity_eq hsecond hfirst] at hy
  have hsame : (first.isEmpty = false ∧ first = second) ↔
      (second.isEmpty = false ∧ second = first) := by
    constructor
    · rintro ⟨hempty, rfl⟩
      exact ⟨hempty, rfl⟩
    · rintro ⟨hempty, rfl⟩
      exact ⟨hempty, rfl⟩
  simp only [← hsame] at hy
  refine Alike.ite (fun _ => Alike.pure rfl) (fun _ => ?_) hx hy
  exact nameSimilarity_alike a b

/-- Two matches of one confidence, or none. -/
def SameConfidence (x y : Option Match) : Prop := x.map Prod.fst = y.map Prod.fst

theorem alike_none : Alike SameConfidence (pure none) (pure none) := Alike.pure rfl

theorem matchDuplicate_alike :
    Alike SameConfidence (matchDuplicate a b params) (matchDuplicate b a params) := by
  unfold matchDuplicate
  refine Alike.bind (supplierSimilarity_alike a b) fun vendor _ hvendor => ?_
  subst hvendor
  refine Alike.bind_left fun below => ?_
  refine Alike.ite (fun _ => alike_none) fun _ => ?_
  cases hfirst : (a.get "total_incl_vat").toNumber? with
  | none => cases (b.get "total_incl_vat").toNumber? <;> exact alike_none
  | some first =>
      cases hsecond : (b.get "total_incl_vat").toNumber? with
      | none => exact alike_none
      | some second =>
          refine Alike.bind_left fun tolerance => ?_
          rw [Number.agree_comm]
          refine Alike.bind_left fun agrees => ?_
          refine Alike.ite (fun _ => alike_none) fun _ => ?_
          refine Alike.bind_swap fun d e => ?_
          cases d with
          | none => cases e <;> exact alike_none
          | some d =>
              cases e with
              | none => exact alike_none
              | some e =>
                  refine Alike.bind_left fun window => ?_
                  rw [Date.gap_comm]
                  refine Alike.ite (fun _ => alike_none) fun _ => ?_
                  refine Alike.bind (numberSimilarity_alike a b) fun numbers _ hnumbers => ?_
                  subst hnumbers
                  refine Alike.bind_any fun number number' => ?_
                  refine Alike.bind_any fun amount amount' => ?_
                  exact Alike.pure rfl

/-- Two texts are passed over in either order, or in neither. -/
theorem skips_comm (s t : String) :
    (s.isEmpty || t.isEmpty || s == t) = (t.isEmpty || s.isEmpty || t == s) := by
  rw [Bool.or_comm s.isEmpty, BEq.comm]

theorem matchNumberVariant_alike :
    Alike SameConfidence (matchNumberVariant a b params) (matchNumberVariant b a params) := by
  unfold matchNumberVariant
  refine Alike.bind_swap fun first second => ?_
  rw [skips_comm]
  refine Alike.ite (fun _ => alike_none) fun _ => ?_
  refine Alike.bind (supplierSimilarity_alike a b) fun vendor _ hvendor => ?_
  subst hvendor
  refine Alike.bind_left fun below => ?_
  refine Alike.ite (fun _ => alike_none) fun _ => ?_
  refine Alike.bind (numberSimilarity_alike a b) fun score _ hscore => ?_
  subst hscore
  refine Alike.bind_left fun below => ?_
  refine Alike.ite (fun _ => alike_none) fun _ => ?_
  exact Alike.pure rfl

theorem matchTrnFormat_alike :
    Alike SameConfidence (matchTrnFormat a b params) (matchTrnFormat b a params) := by
  unfold matchTrnFormat
  refine Alike.bind_swap fun first second => ?_
  rw [skips_comm]
  refine Alike.ite (fun _ => alike_none) fun _ => ?_
  refine Alike.bind (nameSimilarity_alike a b) fun names _ hnames => ?_
  subst hnames
  refine Alike.bind_left fun below => ?_
  refine Alike.ite (fun _ => alike_none) fun _ => ?_
  refine Alike.bind_left fun threshold => ?_
  rw [editDistance_comm]
  refine Alike.ite (fun _ => alike_none) fun _ => ?_
  refine Alike.bind_left fun confidence => ?_
  refine Alike.bind_any fun name name' => ?_
  exact Alike.pure rfl

/-- A pair of invoices shows a sign with one confidence in either order, or in neither. -/
theorem SearchRule.matches?_alike (rule : SearchRule) :
    Alike SameConfidence (rule.matches? a b params) (rule.matches? b a params) := by
  cases rule with
  | fuzzyDuplicate => exact matchDuplicate_alike a b params
  | invoiceNumberVariant => exact matchNumberVariant_alike a b params
  | trnFormatSimilarity => exact matchTrnFormat_alike a b params

end Matching

end InvoiceReadiness
