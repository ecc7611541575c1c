import InvoiceReadiness.Numeric.NumberReading
import InvoiceReadiness.Proofs.Numeric.Nearness

/-!
# Decimals that are read

A decimal is rounded once, from its exact value, unless the number of its bits tells that it is
out of range. What is told is right: no decimal of a value below `10 ^ 300` is taken for too
large, and what is taken for too small is less than `10 ^ (-330)`. A decimal of a whole value is
read as a whole number or as an infinity, for rounding takes no parts of one away that would be
left over.

## Main results

* `Binary64.ofDecimal_of_lt` — how a decimal that is not too large is read.
* `Binary64.ofDecimal_whole` — how a decimal of a whole value is read.
-/

namespace InvoiceReadiness

/-! ## Bits and digits -/

theorem tenPow_le_of_log2 {n : Nat} (h : n ≠ 0) : tenPow (n.log2 / 4) ≤ n := by
  calc tenPow (n.log2 / 4) ≤ Nat.pow (2 ^ 4) (n.log2 / 4) := Nat.pow_le_pow_left (by decide) _
    _ = twoPow (4 * (n.log2 / 4)) := (Nat.pow_mul 2 4 _).symm
    _ ≤ twoPow n.log2 := Nat.pow_le_pow_right (by decide) (Nat.mul_div_le _ _)
    _ ≤ n := Nat.log2_self_le h

theorem lt_tenPow_of_log2 (n : Nat) : n < tenPow (n.log2 / 3 + 1) := by
  have hwidth : n.log2 + 1 ≤ 3 * (n.log2 / 3 + 1) := by omega
  calc n < twoPow (n.log2 + 1) := Nat.lt_log2_self
    _ ≤ twoPow (3 * (n.log2 / 3 + 1)) := Nat.pow_le_pow_right (by decide) hwidth
    _ = Nat.pow (2 ^ 3) (n.log2 / 3 + 1) := Nat.pow_mul 2 3 _
    _ ≤ tenPow (n.log2 / 3 + 1) := Nat.pow_le_pow_left (by decide) _

theorem tenPow_add (m n : Nat) : tenPow (m + n) = tenPow m * tenPow n := Nat.pow_add 10 m n

theorem tenPow_lt_tenPow_iff {m n : Nat} : tenPow m < tenPow n ↔ m < n :=
  Nat.pow_lt_pow_iff_right (by decide)

theorem tenPow_toNat_neg (n : Nat) : tenPow (-(n : Int)).toNat = 1 := by
  rw [Int.toNat_of_nonpos (by omega)]
  rfl

namespace Binary64

variable (negative : Bool)

/-- A decimal that is not too large is rounded from its exact value, or so small that it is read
as zero. -/
theorem ofDecimal_of_lt {c places : Nat} (h : c < tenPow (places + 300)) :
    ofDecimal negative c (-(places : Int)) = ofRatio negative c (tenPow places) ∨
      ofDecimal negative c (-(places : Int)) = ofRatio negative 0 1 ∧
        c * tenPow 330 < tenPow places := by
  unfold ofDecimal
  by_cases hzero : c = 0
  · rw [if_pos hzero, hzero, Nat.zero_mul]
    exact .inr ⟨rfl, tenPow_pos _⟩
  have hfits : c.log2 / 4 < places + 300 :=
    tenPow_lt_tenPow_iff.1 (Nat.lt_of_le_of_lt (tenPow_le_of_log2 hzero) h)
  rw [if_neg hzero, if_neg (by omega)]
  split
  · rename_i hsmall
    refine .inr ⟨rfl, ?_⟩
    calc c * tenPow 330 < tenPow (c.log2 / 3 + 1) * tenPow 330 :=
          Nat.mul_lt_mul_of_pos_right (lt_tenPow_of_log2 c) (tenPow_pos _)
      _ = tenPow (c.log2 / 3 + 1 + 330) := (tenPow_add _ _).symm
      _ ≤ tenPow places := tenPow_le_tenPow (by omega)
  · rw [tenPow_toNat_neg, Nat.mul_one, Int.neg_neg, Int.toNat_natCast]
    exact .inl rfl

/-! ## Whole values -/

/-- A whole number is rounded to a whole number. -/
theorem dvd_nearestUnits (n : Nat) : unitsPerOne ∣ nearestUnits (n * unitsPerOne) 1 := by
  by_cases hfew : (n * unitsPerOne).log2 - 52 ≤ 1074
  · have hexact := nearestUnits_mul Nat.one_pos
      (Nat.dvd_trans (twoPow_dvd_twoPow hfew) (Nat.dvd_mul_left unitsPerOne n))
    rw [Nat.mul_one] at hexact
    rw [hexact]
    exact Nat.dvd_mul_left _ _
  · unfold nearestUnits
    dsimp only
    rw [Nat.div_one]
    exact Nat.dvd_trans (twoPow_dvd_twoPow (by omega)) (Nat.dvd_mul_left _ _)

theorem ofRatio_whole (n : Nat) :
    ofRatio negative n 1 = infinite negative ∨ (ofRatio negative n 1).isWhole := by
  unfold ofRatio ofUnitRatio
  split
  · refine .inr ?_
    rw [isWhole, beq_iff_eq]
    exact Nat.mod_eq_zero_of_dvd (dvd_nearestUnits n)
  · exact .inl rfl

/-- A decimal of a whole value is read as a whole number, unless it is too large. -/
theorem ofDecimal_whole (n places : Nat) :
    ofDecimal negative (n * tenPow places) (-(places : Int)) = infinite negative ∨
      (ofDecimal negative (n * tenPow places) (-(places : Int))).isWhole := by
  unfold ofDecimal
  split_ifs
  · exact ofRatio_whole negative 0
  · exact .inl rfl
  · exact ofRatio_whole negative 0
  · have hvalue : n * tenPow places * 1 = n * tenPow places := Nat.mul_one _
    rw [tenPow_toNat_neg, Nat.mul_one, Int.neg_neg, Int.toNat_natCast,
      ofRatio_congr (tenPow_pos places) Nat.one_pos hvalue]
    exact ofRatio_whole negative n

end Binary64

end InvoiceReadiness
