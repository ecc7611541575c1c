import InvoiceReadiness.Proofs.Numeric.Bounded
import InvoiceReadiness.Proofs.Numeric.Ordering

/-!
# The order of shares

Shares are computed with a rounding after each operation. Rounding keeps the order, so a
share is at most another one after the last operation if it was before the first. `IsAtMost`
is what two such numbers keep along the way: both are finite and without a negative sign, and
the units of the one are at most those of the other.

## Main results

* `Binary64.IsAtMost.le` — the order as a comparison of numbers.
* `Binary64.isAtMost_ofRatio` — quotients of any wholes.
* `Binary64.IsAtMost.mul_right`, `Binary64.IsAtMost.roundPlaces` — what follows on them.
* `Binary64.percent_isAtMost` — a larger part is no smaller percentage.
-/

namespace InvoiceReadiness.Binary64

/-- Numbers from positive zero up, the first at most the second. -/
def IsAtMost (x y : Binary64) : Prop :=
  ∃ u v hu hv, x = finite false u hu ∧ y = finite false v hv ∧ u ≤ v

variable {x y z : Binary64}

theorem IsAtMost.le (h : x.IsAtMost y) : (Number.float x).le (.float y) := by
  obtain ⟨u, v, hu, hv, rfl, rfl, hle⟩ := h
  rw [Number.le_iff]
  exact Int.ofNat_le.2 hle

/-- Rounding keeps the order of quotients, compared crosswise. -/
theorem isAtMost_ofUnitRatio {num den num' den' : Nat} (hden : 0 < den) (hden' : 0 < den')
    (h : num * den' ≤ num' * den) (hfinite : (ofUnitRatio false num' den').isFinite) :
    (ofUnitRatio false num den).IsAtMost (ofUnitRatio false num' den') := by
  have hle := nearestUnits_le_nearestUnits hden hden' h
  obtain ⟨hunits', heq'⟩ := eq_finite_of_isFinite hfinite
  have hlt : nearestUnits num den < unitsBound := Nat.lt_of_le_of_lt hle hunits'.1
  have heq : ofUnitRatio false num den =
      finite false (nearestUnits num den) (representable_nearestUnits num den hlt) := by
    rw [ofUnitRatio, dif_pos hlt]
  exact ⟨_, _, _, hunits', heq, heq', hle⟩

theorem isAtMost_ofRatio {num den num' den' : Nat} (hden : 0 < den) (hden' : 0 < den')
    (h : num * den' ≤ num' * den) (hfinite : (ofRatio false num' den').isFinite) :
    (ofRatio false num den).IsAtMost (ofRatio false num' den') := by
  refine isAtMost_ofUnitRatio hden hden' ?_ hfinite
  rw [Nat.mul_right_comm, Nat.mul_right_comm num']
  exact Nat.mul_le_mul_right unitsPerOne h

namespace IsAtMost

/-- The order stays after both numbers are multiplied, unless the product is out of range. -/
theorem mul_right (h : x.IsAtMost y) {factor : Nat} (hfactor : Representable factor)
    (hfinite : (y.mul (finite false factor hfactor)).isFinite) :
    (x.mul (finite false factor hfactor)).IsAtMost (y.mul (finite false factor hfactor)) := by
  obtain ⟨u, v, hu, hv, rfl, rfl, hle⟩ := h
  have hproduct := Nat.mul_le_mul_right unitsPerOne (Nat.mul_le_mul_right factor hle)
  exact isAtMost_ofUnitRatio unitsPerOne_pos unitsPerOne_pos hproduct hfinite

/-- The order stays after both numbers are rounded to decimal places. -/
theorem roundPlaces (h : x.IsAtMost y) (places : Nat)
    (hfinite : (y.roundPlaces places).isFinite) :
    (x.roundPlaces places).IsAtMost (y.roundPlaces places) := by
  obtain ⟨u, v, hu, hv, rfl, rfl, hle⟩ := h
  have hnum : roundHalfEven (u * tenPow places) unitsPerOne ≤
      roundHalfEven (v * tenPow places) unitsPerOne :=
    roundHalfEven_mono (Nat.mul_le_mul_right (tenPow places) hle)
  have hpos := tenPow_pos places
  exact isAtMost_ofRatio hpos hpos (Nat.mul_le_mul_right (tenPow places) hnum) hfinite

end IsAtMost

/-- A larger part of a whole is no smaller percentage of it. -/
theorem percent_isAtMost {part part' whole : Nat} (h : part ≤ part') (hwhole : part' ≤ whole) :
    (percent part whole).IsAtMost (percent part' whole) := by
  have hfinite := (isUpTo_percent hwhole).isFinite
  unfold percent at hfinite ⊢
  split
  · exact ⟨_, _, _, _, hundred_eq, hundred_eq, Nat.le_refl _⟩
  · rename_i hsome
    have hpos : 0 < whole := Nat.pos_of_ne_zero (by simpa using hsome)
    have hshare := isAtMost_ofRatio hpos hpos (Nat.mul_le_mul_right whole h) <| by
      obtain ⟨_, _, heq, -⟩ := ofRatio_le_one hpos hwhole
      rw [heq]
      rfl
    rw [if_neg hsome, hundred_eq] at hfinite
    rw [hundred_eq]
    exact hshare.mul_right representable_hundred hfinite

end InvoiceReadiness.Binary64
