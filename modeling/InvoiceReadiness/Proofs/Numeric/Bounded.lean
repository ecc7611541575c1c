import InvoiceReadiness.Proofs.Numeric.Rounding

/-!
# Numbers between zero and a whole number

Percentages are at most one hundred, and similarities at most one. Each of them is the
result of a few operations, and each operation rounds. `IsUpTo` is what such a number keeps
along the way: it is finite, it has no negative sign, and its units are at most those of a
whole number. Rounding passes no whole number of 53 significant bits, so a bound holds after
an operation if it holds of the exact result.

## Main results

* `Binary64.IsUpTo.bounds` — the bounds as comparisons of numbers.
* `Binary64.IsUpTo.add`, `Binary64.IsUpTo.half`, `Binary64.IsUpTo.oneSub` — arithmetic.
* `Binary64.IsUpTo.roundPlaces` — rounding to decimal places.
-/

namespace InvoiceReadiness

namespace Number

theorem whole_le_float_iff {n : Int} {units : Nat} {h : Representable units} :
    (whole n).le (.float (.finite false units h)) ↔ wholeUnits n ≤ units := by
  have hcompare : (whole n).compare? (.float (.finite false units h)) =
      some (compare (wholeUnits n) (units : Int)) := rfl
  rw [Number.le, hcompare, Option.any_some, bne_iff_ne, ne_eq, Int.compare_eq_gt, Int.not_lt]

theorem float_le_whole_iff {n : Int} {units : Nat} {h : Representable units} :
    (float (.finite false units h)).le (.whole n) ↔ units ≤ wholeUnits n := by
  have hcompare : (float (.finite false units h)).compare? (.whole n) =
      some (compare (wholeUnits n) (units : Int)).swap := rfl
  rw [Number.le, hcompare, Option.any_some, bne_iff_ne, ne_eq, Int.compare_swap,
    Int.compare_eq_gt, Int.not_lt]

end Number

namespace Binary64

/-- A number from positive zero up to a whole number. -/
def IsUpTo (n : Nat) (x : Binary64) : Prop :=
  ∃ units h, x = finite false units h ∧ units ≤ n * unitsPerOne

variable {m n : Nat} {x y : Binary64}

theorem isUpTo_zero (n : Nat) : zero.IsUpTo n := ⟨0, representable_zero, rfl, Nat.zero_le _⟩

theorem representable_wholeUnits_one : Representable (1 * unitsPerOne) := by
  rw [Nat.one_mul]
  exact representable_one

theorem representable_wholeUnits_two : Representable (2 * unitsPerOne) := by
  have htwo : 2 < twoPow 2 := by decide
  exact representable_mul_unitsPerOne htwo (by omega)

/-- A quotient within the bound is within it after rounding. -/
theorem isUpTo_ofUnitRatio {num den : Nat} (hden : 0 < den) (h : num ≤ n * unitsPerOne * den)
    (hn : Representable (n * unitsPerOne)) : (ofUnitRatio false num den).IsUpTo n :=
  ofUnitRatio_le false hden h hn

theorem isUpTo_ofRatio {part whole : Nat} (hwhole : 0 < whole) (h : part ≤ n * whole)
    (hn : Representable (n * unitsPerOne)) : (ofRatio false part whole).IsUpTo n := by
  apply isUpTo_ofUnitRatio hwhole ?_ hn
  calc part * unitsPerOne ≤ n * whole * unitsPerOne := Nat.mul_le_mul_right _ h
    _ = n * unitsPerOne * whole := Nat.mul_right_comm _ _ _

/-- A share in percent. -/
theorem isUpTo_percent {part whole : Nat} (h : part ≤ whole) : (percent part whole).IsUpTo 100 :=
  percent_le_hundred h

namespace IsUpTo

theorem isFinite (h : x.IsUpTo n) : x.isFinite := by
  obtain ⟨units, hunits, rfl, -⟩ := h
  rfl

theorem bounds (h : x.IsUpTo n) :
    Number.zero.le (.float x) ∧ (Number.float x).le (.whole n) := by
  obtain ⟨units, hunits, rfl, hle⟩ := h
  constructor
  · rw [Number.zero, Number.whole_le_float_iff, Number.wholeUnits, Int.zero_mul]
    exact Int.natCast_nonneg units
  · rw [Number.float_le_whole_iff, Number.wholeUnits, ← Int.natCast_mul]
    exact Int.ofNat_le.2 hle

theorem add {k : Nat} (hx : x.IsUpTo m) (hy : y.IsUpTo n) (hk : m + n = k)
    (hsum : Representable (k * unitsPerOne)) : (x.add y).IsUpTo k := by
  obtain ⟨u, hu, rfl, hum⟩ := hx
  obtain ⟨v, hv, rfl, hvn⟩ := hy
  have hround : (finite false u hu).add (finite false v hv) = ofUnitRatio false (u + v) 1 := by
    have hunits : (finite false u hu).signedUnits + (finite false v hv).signedUnits =
        ((u + v : Nat) : Int) := rfl
    have hsign : (if ((u + v : Nat) : Int) = 0 then false
        else decide (((u + v : Nat) : Int) < 0)) = false := by
      split
      · rfl
      · exact decide_eq_false (by omega)
    rw [Binary64.add, hunits, ofSignedUnits, Bool.and_self, hsign, Int.natAbs_natCast]
  rw [hround]
  apply isUpTo_ofUnitRatio Nat.one_pos ?_ hsum
  rw [Nat.mul_one, ← hk, Nat.add_mul]
  omega

theorem half (hx : x.IsUpTo (2 * n)) (hn : Representable (n * unitsPerOne)) :
    (x.div (ofInt 2)).IsUpTo n := by
  obtain ⟨units, hunits, rfl, hle⟩ := hx
  have htwo : ofInt 2 = finite false (2 * unitsPerOne) representable_wholeUnits_two :=
    ofInt_natCast representable_wholeUnits_two
  have hpos : 0 < 2 * unitsPerOne := Nat.mul_pos (by decide) unitsPerOne_pos
  have hdiv : (finite false units hunits).div (ofInt 2) =
      ofUnitRatio false (units * unitsPerOne) (2 * unitsPerOne) := by
    rw [htwo, div, if_neg (Nat.ne_of_gt hpos), bne_self_eq_false]
  rw [hdiv]
  apply isUpTo_ofUnitRatio hpos ?_ hn
  calc units * unitsPerOne ≤ 2 * n * unitsPerOne * unitsPerOne := Nat.mul_le_mul_right _ hle
    _ = n * unitsPerOne * (2 * unitsPerOne) := by
        rw [Nat.mul_mul_mul_comm, Nat.mul_assoc (2 * n), Nat.mul_comm 2 n]

/-- What is left of one. -/
theorem oneSub (hx : x.IsUpTo 1) : ((ofInt 1).sub x).IsUpTo 1 := by
  obtain ⟨units, hunits, rfl, hle⟩ := hx
  rw [Nat.one_mul] at hle
  have hone : ofInt 1 = finite false unitsPerOne representable_one := by
    simpa only [Nat.one_mul, Int.natCast_one] using ofInt_natCast representable_wholeUnits_one
  have hround : (ofInt 1).sub (finite false units hunits) =
      ofUnitRatio false (unitsPerOne - units) 1 := by
    have hrest : (finite false unitsPerOne representable_one).signedUnits +
        (finite true units hunits).signedUnits = ((unitsPerOne - units : Nat) : Int) := by
      show (unitsPerOne : Int) + -(units : Int) = _
      omega
    have hsign : (if ((unitsPerOne - units : Nat) : Int) = 0 then false
        else decide (((unitsPerOne - units : Nat) : Int) < 0)) = false := by
      split
      · rfl
      · exact decide_eq_false (by omega)
    rw [hone, sub, neg, Bool.not_false, Binary64.add, hrest, ofSignedUnits, Bool.and_true, hsign,
      Int.natAbs_natCast]
  rw [hround]
  apply isUpTo_ofUnitRatio Nat.one_pos ?_ representable_wholeUnits_one
  omega

/-- Rounding to decimal places passes no whole number. -/
theorem roundPlaces (hx : x.IsUpTo n) (hn : Representable (n * unitsPerOne)) (places : Nat) :
    (x.roundPlaces places).IsUpTo n := by
  obtain ⟨units, hunits, rfl, hle⟩ := hx
  apply isUpTo_ofRatio (tenPow_pos places) ?_ hn
  apply roundHalfEven_le_of_le_mul unitsPerOne_pos
  calc units * tenPow places ≤ n * unitsPerOne * tenPow places := Nat.mul_le_mul_right _ hle
    _ = n * tenPow places * unitsPerOne := Nat.mul_right_comm _ _ _

end IsUpTo

end Binary64

end InvoiceReadiness
