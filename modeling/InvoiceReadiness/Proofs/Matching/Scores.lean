import InvoiceReadiness.Proofs.Matching.EditScripts
import InvoiceReadiness.Proofs.Numeric.Rounding
import Mathlib.Algebra.Order.Field.Rat
import Mathlib.Tactic.NormNum

/-!
# Similarity without rounding

The similarity of two normal forms is a share, and it is rounded once, when the share is
brought to binary64. `exactSimilarity` is the share before that. It is a similarity in the
proper sense: between zero and one, the same both ways, and one for equal texts only.

All of this is read off the four ways in which two texts can stand to each other
(`Standing`). For texts that are neither equal nor one within the other, the share is what
the edit distance leaves of the longer one; it leaves something or nothing, never less, so
there is no need to cut the share off at zero.

## Main results

* `Binary64.ofRatio_eq_ofRat` — a rounded quotient depends on the exact one only.
* `exists_standing`, `Standing.exactSimilarity_eq` — the score by the standing of two texts.
* `similarity_is_proper` — the laws of the score, and the score that is computed.
-/

namespace InvoiceReadiness

/-! ## Rounded quotients -/

namespace Binary64

/-- The binary64 number nearest to a rational number. -/
def ofRat (q : ℚ) : Binary64 := ofRatio (q < 0) q.num.natAbs q.den

/-- A rounded quotient is the number nearest to the exact one. -/
theorem ofRatio_eq_ofRat (num : Nat) {den : Nat} (hden : 0 < den) :
    ofRatio false num den = ofRat (num / den) := by
  have hnonneg : (0 : ℚ) ≤ num / den := div_nonneg (Nat.cast_nonneg _) (Nat.cast_nonneg _)
  have hne : (den : ℚ) ≠ 0 := Nat.cast_ne_zero.2 (Nat.ne_of_gt hden)
  have hnum : (((num / den : ℚ).num.natAbs : ℤ) : ℚ) = num / den * (num / den : ℚ).den := by
    rw [Int.natAbs_of_nonneg (Rat.num_nonneg.2 hnonneg), Rat.mul_den_eq_num]
  rw [ofRat, decide_eq_false (not_lt.2 hnonneg)]
  refine ofRatio_congr hden (Rat.den_pos _) ?_ false
  refine Nat.cast_injective (R := ℚ) ?_
  rw [Nat.cast_mul, Nat.cast_mul, ← Int.cast_natCast (Int.natAbs _), hnum, mul_right_comm,
    div_mul_cancel₀ _ hne]

end Binary64

namespace Matching

variable {a b : List Char}

/-! ## The share that is left -/

/-- The share of the longer text that the edit distance leaves. -/
def shareLeft (a b : List Char) : ℚ :=
  (((max a.length b.length : Nat) : ℚ) - editDistance a b) / (max a.length b.length : Nat)

theorem shareLeft_eq (a b : List Char) :
    shareLeft a b =
      ((max a.length b.length - editDistance a b : Nat) : ℚ) / (max a.length b.length : Nat) := by
  rw [shareLeft, Nat.cast_sub (editDistance_le_max a b)]

/-- Something is left or nothing, never less. -/
theorem shareLeft_nonneg (a b : List Char) : 0 ≤ shareLeft a b := by
  rw [shareLeft_eq]
  exact div_nonneg (Nat.cast_nonneg _) (Nat.cast_nonneg _)

theorem shareLeft_comm (a b : List Char) : shareLeft a b = shareLeft b a := by
  rw [shareLeft, shareLeft, editDistance_comm, Nat.max_comm]

theorem longer_pos (ha : a ≠ []) : 0 < max a.length b.length :=
  Nat.lt_of_lt_of_le (List.length_pos_iff.2 ha) (Nat.le_max_left _ _)

theorem shareLeft_eq_one_sub (ha : a ≠ []) :
    shareLeft a b = 1 - (editDistance a b : ℚ) / (max a.length b.length : Nat) := by
  have hne : ((max a.length b.length : Nat) : ℚ) ≠ 0 :=
    Nat.cast_ne_zero.2 (Nat.ne_of_gt (longer_pos ha))
  rw [shareLeft, sub_div, div_self hne]

theorem shareLeft_lt_one (ha : a ≠ []) (hne : a ≠ b) : shareLeft a b < 1 := by
  have hedits : 0 < editDistance a b := Nat.pos_of_ne_zero (mt editDistance_eq_zero_iff.1 hne)
  rw [shareLeft_eq_one_sub ha]
  exact sub_lt_self 1 (div_pos (Nat.cast_pos.2 hedits) (Nat.cast_pos.2 (longer_pos ha)))

/-! ## Scores -/

/-- The similarity of two normal forms before it is rounded. -/
def exactSimilarity (a b : List Char) : ℚ :=
  if a.isEmpty && b.isEmpty then 1
  else if a.isEmpty || b.isEmpty then 0
  else if a == b then 1
  else if occursIn a b || occursIn b a then 9 / 10
  else max 0 (shareLeft a b)

/-- How two texts stand to each other, with the score that they have for it. -/
inductive Standing (a b : List Char) : ℚ → Prop where
  | equal (h : a = b) : Standing a b 1
  | oneEmpty (h : a.isEmpty ≠ b.isEmpty) : Standing a b 0
  | within (ha : a ≠ []) (hb : b ≠ []) (hne : a ≠ b) (h : a <:+: b ∨ b <:+: a) :
      Standing a b (9 / 10)
  | apart (ha : a ≠ []) (hb : b ≠ []) (hne : a ≠ b) (hab : ¬a <:+: b) (hba : ¬b <:+: a) :
      Standing a b (shareLeft a b)

theorem isEmpty_eq_isEmpty (ha : a ≠ []) (hb : b ≠ []) : a.isEmpty = b.isEmpty := by
  rw [List.isEmpty_eq_false_iff.2 ha, List.isEmpty_eq_false_iff.2 hb]

theorem exists_standing (a b : List Char) : ∃ score, Standing a b score := by
  by_cases hne : a = b
  · exact ⟨_, .equal hne⟩
  by_cases hempty : a.isEmpty = b.isEmpty
  · -- Two texts that are not equal are not both empty.
    have hboth : a ≠ [] ∧ b ≠ [] := by
      cases a <;> cases b <;> simp_all
    by_cases hwithin : a <:+: b ∨ b <:+: a
    · exact ⟨_, .within hboth.1 hboth.2 hne hwithin⟩
    · exact ⟨_, .apart hboth.1 hboth.2 hne (mt .inl hwithin) (mt .inr hwithin)⟩
  · exact ⟨_, .oneEmpty hempty⟩

namespace Standing

variable {score : ℚ}

theorem exactSimilarity_eq (h : Standing a b score) : exactSimilarity a b = score := by
  unfold exactSimilarity
  cases h with
  | equal h => subst h; simp
  | oneEmpty h => cases a <;> cases b <;> simp_all
  | within ha hb hne h => simp [ha, hb, hne, occursIn_iff_isInfix, h]
  | apart ha hb hne hab hba =>
      simp [ha, hb, hne, occursIn_iff_isInfix, hab, hba, shareLeft_nonneg]

/-- The score that is computed is the exact one, rounded. -/
theorem similarity_eq (h : Standing a b score) : similarity a b = Binary64.ofRat score := by
  have hzero : Binary64.zero = Binary64.ofRat 0 := by decide +kernel
  have hone : fullScore = Binary64.ofRat 1 := by decide +kernel
  have hwithin : containmentScore = Binary64.ofRat (9 / 10) := by decide +kernel
  unfold similarity
  cases h with
  | equal h => subst h; cases a <;> simp [hone]
  | oneEmpty h => cases a <;> cases b <;> simp_all
  | within ha hb hne h => simp [ha, hb, hne, occursIn_iff_isInfix, h, hwithin]
  | apart ha hb hne hab hba =>
      rw [shareLeft_eq, ← Binary64.ofRatio_eq_ofRat _ (longer_pos ha)]
      simp [ha, hb, hne, occursIn_iff_isInfix, hab, hba]

theorem symm (h : Standing a b score) : Standing b a score := by
  cases h with
  | equal h => exact .equal h.symm
  | oneEmpty h => exact .oneEmpty h.symm
  | within ha hb hne h => exact .within hb ha hne.symm h.symm
  | apart ha hb hne hab hba => exact shareLeft_comm a b ▸ .apart hb ha hne.symm hba hab

theorem nonneg (h : Standing a b score) : 0 ≤ score := by
  cases h with
  | equal h => exact zero_le_one
  | oneEmpty h => exact le_refl 0
  | within ha hb hne h => norm_num
  | apart ha hb hne hab hba => exact shareLeft_nonneg a b

theorem eq_one_or_lt (h : Standing a b score) : a = b ∧ score = 1 ∨ a ≠ b ∧ score < 1 := by
  cases h with
  | equal h => exact .inl ⟨h, rfl⟩
  | oneEmpty h => exact .inr ⟨fun heq => h (congrArg List.isEmpty heq), zero_lt_one⟩
  | within ha hb hne h => exact .inr ⟨hne, by norm_num⟩
  | apart ha hb hne hab hba => exact .inr ⟨hne, shareLeft_lt_one ha hne⟩

theorem eq_zero_of_oneEmpty (h : Standing a b score) (hempty : a.isEmpty ≠ b.isEmpty) :
    score = 0 := by
  cases h with
  | equal h => exact absurd (congrArg List.isEmpty h) hempty
  | oneEmpty h => rfl
  | within ha hb => exact absurd (isEmpty_eq_isEmpty ha hb) hempty
  | apart ha hb => exact absurd (isEmpty_eq_isEmpty ha hb) hempty

theorem eq_of_apart (h : Standing a b score) (ha : a ≠ []) (hb : b ≠ []) (hne : a ≠ b)
    (hab : ¬a <:+: b) (hba : ¬b <:+: a) : score = shareLeft a b := by
  cases h with
  | equal h => exact absurd h hne
  | oneEmpty h => exact absurd (isEmpty_eq_isEmpty ha hb) h
  | within _ _ _ h => exact (h.elim hab hba).elim
  | apart => rfl

end Standing

/-- **The similarity of two texts** is the exact score, rounded once. The exact score is between
zero and one and the same both ways; it is one for equal texts and for no others, and zero if
exactly one of the texts is empty. For texts of which neither is empty nor occurs in the other it
is one less the share that the edits have in the longer text; what is left of the longer text is
not negative, so nothing is cut off. -/
theorem similarity_is_proper (s t : String) :
    let score := exactSimilarity s.toList t.toList
    let longer := max s.length t.length
    let edits := editDistance s.toList t.toList
    similarityOf (.text s) (.text t) = .ok (Binary64.ofRat score) ∧
    (0 ≤ score ∧ score ≤ 1) ∧
    score = exactSimilarity t.toList s.toList ∧
    (score = 1 ↔ s = t) ∧
    (¬(s = "" ↔ t = "") → score = 0) ∧
    (s ≠ "" → t ≠ "" → s ≠ t → ¬s.toList <:+: t.toList → ¬t.toList <:+: s.toList →
      score = 1 - (edits : ℚ) / longer ∧
      max 0 (((longer : ℚ) - edits) / longer) = ((longer : ℚ) - edits) / longer) := by
  intro score longer edits
  obtain ⟨exact, hstanding⟩ := exists_standing s.toList t.toList
  obtain rfl : score = exact := hstanding.exactSimilarity_eq
  have hcases := hstanding.eq_one_or_lt
  refine ⟨?_, ⟨hstanding.nonneg, ?_⟩, ?_, ?_, fun hempty => ?_, fun hs ht hne hst hts => ⟨?_, ?_⟩⟩
  · exact congrArg Except.ok hstanding.similarity_eq
  · rcases hcases with ⟨-, h⟩ | ⟨-, h⟩
    · exact le_of_eq h
    · exact le_of_lt h
  · exact hstanding.symm.exactSimilarity_eq.symm
  · rcases hcases with ⟨heq, h⟩ | ⟨hne, h⟩
    · exact iff_of_true h (String.toList_inj.1 heq)
    · exact iff_of_false (ne_of_lt h) (mt String.toList_inj.2 hne)
  · refine hstanding.eq_zero_of_oneEmpty fun hsame => hempty ?_
    rw [← String.toList_eq_nil_iff, ← String.toList_eq_nil_iff, ← List.isEmpty_iff,
      ← List.isEmpty_iff, hsame]
  · have hs' := mt String.toList_eq_nil_iff.1 hs
    have ht' := mt String.toList_eq_nil_iff.1 ht
    rw [hstanding.eq_of_apart hs' ht' (mt String.toList_inj.1 hne) hst hts,
      shareLeft_eq_one_sub hs', String.length_toList, String.length_toList]
  · have hleft := shareLeft_nonneg s.toList t.toList
    rw [shareLeft, String.length_toList, String.length_toList] at hleft
    exact max_eq_right hleft

/-- One digit of six is replaced. -/
theorem similarity_is_proper_replaced :
    exactSimilarity "inv100".toList "inv101".toList = 5 / 6 ∧
      similarityOf (.text "inv100") (.text "inv101") = .ok (Binary64.ofRat (5 / 6)) := by
  obtain ⟨hrounded, -, -, -, -, hapart⟩ := similarity_is_proper "inv100" "inv101"
  obtain ⟨hscore, -⟩ := hapart (by decide) (by decide) (by decide)
    (by decide +kernel) (by decide +kernel)
  have hedits : editDistance "inv100".toList "inv101".toList = 1 := by decide +kernel
  have hlonger : max "inv100".length "inv101".length = 6 := by decide +kernel
  have hfive : (1 : ℚ) - (1 : Nat) / (6 : Nat) = 5 / 6 := by norm_num
  rw [hedits, hlonger, hfive] at hscore
  rw [hscore] at hrounded
  exact ⟨hscore, hrounded⟩

end Matching

end InvoiceReadiness
