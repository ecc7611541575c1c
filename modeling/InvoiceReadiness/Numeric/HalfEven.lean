/-!
# Rounding a quotient to the nearest whole number

Every rounded amount in the library — a sum brought back to 53 significant
bits, a percentage cut to two places, a score turned into a whole number — is
one exact quotient of natural numbers rounded once. This module holds that one
rounding: to the nearest whole number, a tie going to the even neighbour.

## Main results

* `le_roundHalfEven`, `roundHalfEven_le` — the result is one of the two whole
  numbers around the quotient.
* `roundHalfEven_mul` — a quotient that is whole is left alone.
-/

namespace InvoiceReadiness

/-- The whole number nearest to `num / den`; a tie goes to the even neighbour. -/
def roundHalfEven (num den : Nat) : Nat :=
  let below := num / den
  let rest := num % den
  if 2 * rest < den then below
  else if den < 2 * rest then below + 1
  else if below % 2 = 0 then below
  else below + 1

theorem le_roundHalfEven (num den : Nat) : num / den ≤ roundHalfEven num den := by
  unfold roundHalfEven
  dsimp only
  split
  · exact Nat.le_refl _
  · split
    · exact Nat.le_succ _
    · split
      · exact Nat.le_refl _
      · exact Nat.le_succ _

theorem roundHalfEven_le (num den : Nat) : roundHalfEven num den ≤ num / den + 1 := by
  unfold roundHalfEven
  dsimp only
  split
  · exact Nat.le_succ _
  · split
    · exact Nat.le_refl _
    · split
      · exact Nat.le_succ _
      · exact Nat.le_refl _

/-- A whole quotient is its own nearest whole number. -/
theorem roundHalfEven_mul (n : Nat) {den : Nat} (h : 0 < den) :
    roundHalfEven (n * den) den = n := by
  simp [roundHalfEven, Nat.mul_div_cancel n h, h]

end InvoiceReadiness
