import InvoiceReadiness.Proofs.Numeric.Bounded
import InvoiceReadiness.Proofs.Outcome
import InvoiceReadiness.Traceability.Matrix
import Mathlib.Algebra.Order.Field.Rat

/-!
# Pass rates

The pass rate of a requirement is the share of passes in passes and failures, in
percent. It is computed in binary64: the quotient is rounded, and so is its product
with one hundred. `exactRate` is the same share without rounding.

The exact rate is a hundred percent only if nothing failed. The rounded one says so for
up to `2 ^ 52` records; of more than that a single failure can be lost in rounding.

## Main results

* `Row.passRateOf_eq_ok`, `Row.exists_passRateOf_iff` — the rate of counts is the rounded
  share; of whole numbers of any sign there may be none.
* `isRateOf_percent` — rounded and exact rates, compared with zero and a hundred.
-/

namespace InvoiceReadiness.Traceability

/-! ## The rate of counts -/

theorem whole_lt_whole_iff {m n : Int} : (Number.whole m).lt (.whole n) ↔ m < n := by
  rw [Number.lt, Number.compare?, beq_iff_eq, Option.some.injEq, Int.compare_eq_lt]

theorem float_mul_hundred (x : Binary64) :
    (Number.float x).mul (.whole 100) = .ok (.float (x.mul .hundred)) := by
  have hhundred : Binary64.ofInt? 100 = .ok .hundred :=
    Binary64.ofInt?_eq_ok (by decide +kernel)
  exact Result.bind_eq_ok.2 ⟨x, rfl, Result.bind_eq_ok.2 ⟨.hundred, hhundred, rfl⟩⟩

/-- The quotient of a part and a whole that is not zero. -/
theorem whole_div_whole {part whole : Nat} (hwhole : 0 < whole) (h : part ≤ whole) :
    (Number.whole part).div (.whole whole) = .ok (.float (.ofRatio false part whole)) := by
  have hpart : decide ((part : Int) < 0) = false := decide_eq_false (by omega)
  have hsign : decide ((whole : Int) < 0) = false := decide_eq_false (by omega)
  obtain ⟨units, hunits, hshare, -⟩ := Binary64.ofRatio_le_one hwhole h
  rw [Number.div, hpart, hsign, Int.natAbs_natCast, Int.natAbs_natCast, bne_self_eq_false,
    hshare]
  rfl

/-- The passes in percent of passes and failures are rounded as any share is. -/
theorem Row.passRateOf_eq_ok (passes failures : Nat) :
    Row.passRateOf (.number (.whole passes)) (.ofNat failures) =
      .ok (.float (Binary64.percent passes (passes + failures))) := by
  have hrate : Row.passRateOf (.number (.whole passes)) (.ofNat failures) =
      if Number.zero.lt (.whole (passes + failures : Nat)) then do
        (← (Number.whole passes).div (.whole (passes + failures : Nat))).mul (.whole 100)
      else .ok (.float .hundred) := rfl
  have hlt : Number.zero.lt (.whole (passes + failures : Nat)) ↔ 0 < passes + failures :=
    whole_lt_whole_iff.trans Int.natCast_pos
  rw [hrate, Binary64.percent]
  by_cases hnone : passes + failures = 0
  · rw [if_neg (by rw [hlt]; omega), if_pos (by simpa using hnone)]
  · have hpos : 0 < passes + failures := Nat.pos_of_ne_zero hnone
    rw [if_pos (hlt.2 hpos), if_neg (by simpa using hnone),
      whole_div_whole hpos (Nat.le_add_right passes failures), Result.ok_bind,
      float_mul_hundred]

/-- Whole numbers have a rate unless their quotient is beyond the range of binary64. -/
theorem Row.exists_passRateOf_iff (passes failures : Int) :
    (∃ rate, Row.passRateOf (.ofInt passes) (.ofInt failures) = .ok rate) ↔
      (0 < passes + failures →
        (Binary64.ofRatio (passes < 0) passes.natAbs (passes + failures).natAbs).isFinite) := by
  have hrate : Row.passRateOf (.ofInt passes) (.ofInt failures) =
      if Number.zero.lt (.whole (passes + failures)) then do
        (← (Number.whole passes).div (.whole (passes + failures))).mul (.whole 100)
      else .ok (.float .hundred) := rfl
  have hlt : Number.zero.lt (.whole (passes + failures)) ↔ 0 < passes + failures :=
    whole_lt_whole_iff
  rw [hrate]
  by_cases hpos : 0 < passes + failures
  · have hsign : decide (passes + failures < 0) = false := decide_eq_false (by omega)
    rw [if_pos (hlt.2 hpos), Number.div, hsign, Bool.bne_false]
    by_cases hfinite : (Binary64.ofRatio (passes < 0) passes.natAbs
        (passes + failures).natAbs).isFinite
    · rw [if_pos hfinite, Result.ok_bind, float_mul_hundred]
      exact iff_of_true ⟨_, rfl⟩ fun _ => hfinite
    · rw [if_neg hfinite, Result.error_bind]
      refine iff_of_false ?_ fun h => hfinite (h hpos)
      rintro ⟨rate, ⟨⟩⟩
  · rw [if_neg (mt hlt.1 hpos)]
    exact iff_of_true ⟨_, rfl⟩ fun h => absurd h hpos

/-! ## Exact rates -/

/-- The passes in percent by exact division; all of nothing. -/
def exactRate (passes failures : Nat) : ℚ :=
  if passes + failures = 0 then 100 else (passes : ℚ) / (passes + failures : Nat) * 100

theorem exactRate_mul (passes failures : Nat) :
    exactRate passes failures * (passes + failures : Nat) = 100 * passes := by
  rw [exactRate]
  split
  · rename_i hnone
    obtain ⟨rfl, rfl⟩ := Nat.add_eq_zero_iff.1 hnone
    rfl
  · rename_i hsome
    have hne : ((passes + failures : Nat) : ℚ) ≠ 0 := Nat.cast_ne_zero.2 hsome
    rw [mul_right_comm, div_mul_cancel₀ _ hne, mul_comm]

theorem exactRate_nonneg (passes failures : Nat) : 0 ≤ exactRate passes failures := by
  rw [exactRate]
  split
  · decide
  · have hshare : (0 : ℚ) ≤ passes / (passes + failures : Nat) :=
      div_nonneg (Nat.cast_nonneg _) (Nat.cast_nonneg _)
    exact mul_nonneg hshare (by decide)

theorem exactRate_le_hundred (passes failures : Nat) : exactRate passes failures ≤ 100 := by
  rw [exactRate]
  split
  · exact le_refl _
  · have hle : (passes : ℚ) ≤ (passes + failures : Nat) :=
      Nat.cast_le.2 (Nat.le_add_right _ _)
    have hshare := div_le_one_of_le₀ hle (Nat.cast_nonneg _)
    grind

theorem exactRate_eq_hundred_iff (passes failures : Nat) :
    exactRate passes failures = 100 ↔ failures = 0 := by
  have hmul := exactRate_mul passes failures
  rw [Nat.cast_add] at hmul
  constructor
  · intro hrate
    rw [hrate] at hmul
    have hzero : (failures : ℚ) = 0 := by grind
    exact Nat.cast_eq_zero.1 hzero
  · rintro rfl
    rw [exactRate]
    split
    · rfl
    · rename_i hsome
      have hne : ((passes + 0 : Nat) : ℚ) ≠ 0 := Nat.cast_ne_zero.2 hsome
      rw [Nat.add_zero] at hne ⊢
      rw [div_self hne, one_mul]

/-- Of as many records in all, more passes are no smaller a rate. -/
theorem exactRate_le_exactRate {passes failures passes' failures' : Nat}
    (h : passes ≤ passes') (hsum : passes + failures = passes' + failures') :
    exactRate passes failures ≤ exactRate passes' failures' := by
  rw [exactRate, exactRate, hsum]
  split
  · exact le_refl _
  · have hpasses : (passes : ℚ) ≤ passes' := Nat.cast_le.2 h
    have hshare := div_le_div_of_nonneg_right hpasses
      (Nat.cast_nonneg (passes' + failures'))
    exact mul_le_mul_of_nonneg_right hshare (by decide)

/-! ## Rates and bounds -/

/-- A rate of passes and failures, rounded and exact. -/
structure IsRateOf (passes failures : Nat) (rate : Number) : Prop where
  rounded : rate = .float (Binary64.percent passes (passes + failures))
  nonneg : Number.zero.le rate
  le_hundred : rate.le (.whole 100)
  eq_hundred_iff : passes + failures ≤ twoPow 52 → (rate = .float .hundred ↔ failures = 0)
  exact_nonneg : 0 ≤ exactRate passes failures
  exact_le_hundred : exactRate passes failures ≤ 100
  exact_eq_hundred_iff : exactRate passes failures = 100 ↔ failures = 0

theorem isRateOf_percent (passes failures : Nat) :
    IsRateOf passes failures (.float (Binary64.percent passes (passes + failures))) := by
  have hle := Nat.le_add_right passes failures
  obtain ⟨hnonneg, hhundred⟩ := (Binary64.isUpTo_percent hle).bounds
  refine {
    rounded := rfl
    nonneg := hnonneg
    le_hundred := hhundred
    eq_hundred_iff := fun hsize => ?_
    exact_nonneg := exactRate_nonneg passes failures
    exact_le_hundred := exactRate_le_hundred passes failures
    exact_eq_hundred_iff := exactRate_eq_hundred_iff passes failures }
  rw [Number.float.injEq, Binary64.percent_eq_hundred_iff hle hsize]
  omega

end InvoiceReadiness.Traceability
