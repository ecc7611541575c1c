import InvoiceReadiness.Numeric.DecimalText
import InvoiceReadiness.Proofs.Numeric.Rounding
import Mathlib.Algebra.Order.Field.Basic
import Mathlib.Algebra.Order.Field.Power
import Mathlib.Algebra.Order.Field.Rat
import Mathlib.Tactic.FieldSimp
import Mathlib.Tactic.Linarith
import Mathlib.Tactic.NormNum
import Mathlib.Tactic.Ring

/-!
# How near a rounded number is

A value is rounded to 53 significant bits, so the number that it is rounded to is off by at most
a part in `2 ^ 53` of it, as long as there are so many bits to keep (`isNear_nearestUnits`).
Decimals of fifteen digits on one grid lie further apart than that, so at most one of them is
near to a given number (`IsNear.grid_unique`). This is why decimals of up to fifteen digits
survive being read as a number and written again.

## Main results

* `Binary64.isNear_nearestUnits` — the relative error of rounding.
* `IsNear.grid_unique` — which decimals a number can be near to.
* `Binary64.unitsOfDecimal_congr` — decimals of one value are read alike.
-/

namespace InvoiceReadiness

/-! ## The error of rounding -/

theorem eq_of_abs_cast_sub_lt_one {a b : Nat} (h : |(a : ℚ) - b| < 1) : a = b := by
  obtain ⟨hlow, hhigh⟩ := abs_lt.1 h
  have hlow : b < a + 1 := by exact_mod_cast (show (b : ℚ) < a + 1 by linarith)
  have hhigh : a < b + 1 := by exact_mod_cast (show (a : ℚ) < b + 1 by linarith)
  omega

/-- Rounding to a whole number is off by at most half. -/
theorem abs_roundHalfEven_sub_le (num : Nat) {den : Nat} (hden : 0 < den) :
    |(roundHalfEven num den : ℚ) * den - num| * 2 ≤ den := by
  have hsplit := Nat.div_add_mod num den
  have hrest := Nat.mod_lt num hden
  have hbelow : roundHalfEven num den = num / den ∧ 2 * (num % den) ≤ den ∨
      roundHalfEven num den = num / den + 1 ∧ den ≤ 2 * (num % den) := by
    unfold roundHalfEven
    dsimp only
    split_ifs <;> omega
  generalize num / den = quot at hsplit hbelow
  generalize num % den = rest at hsplit hrest hbelow
  have hnum : (num : ℚ) = den * quot + rest := by exact_mod_cast hsplit.symm
  have hlt : (rest : ℚ) < den := by exact_mod_cast hrest
  have hnonneg : (0 : ℚ) ≤ rest := Nat.cast_nonneg rest
  rw [hnum]
  rcases hbelow with ⟨hround, hhalf⟩ | ⟨hround, hhalf⟩
  · have hhalf : 2 * (rest : ℚ) ≤ den := by exact_mod_cast hhalf
    rw [hround, abs_of_nonpos (by linarith)]
    linarith
  · have hhalf : (den : ℚ) ≤ 2 * rest := by exact_mod_cast hhalf
    rw [hround, Nat.cast_add, Nat.cast_one, abs_of_nonneg (by linarith)]
    linarith

/-- A whole number that a quotient is less than half away from is the nearest one. -/
theorem roundHalfEven_eq_of_abs_lt {num den n : Nat} (hden : 0 < den)
    (h : |(n : ℚ) * den - num| * 2 < den) : roundHalfEven num den = n := by
  have hround := abs_roundHalfEven_sub_le num hden
  have hpos : (0 : ℚ) < den := Nat.cast_pos.2 hden
  have htriangle := abs_sub_le ((roundHalfEven num den : ℚ) * den) num (n * den)
  rw [abs_sub_comm (num : ℚ)] at htriangle
  have hgap : |((roundHalfEven num den : ℚ) - n)| * den < 1 * den := by
    rw [← abs_of_pos hpos, ← abs_mul, sub_mul, abs_of_pos hpos]
    linarith
  exact eq_of_abs_cast_sub_lt_one (lt_of_mul_lt_mul_right hgap hpos.le)

/-- Quotients that are nearer to each other than to a half are rounded alike. The second one is
no half itself, so it is away from halves by a part of its divisor. -/
theorem roundHalfEven_eq_of_near {num den num' den' : Nat} (hden : 0 < den) (hden' : 0 < den')
    (hhalf : 2 * (num' % den') ≠ den') (h : |(num : ℚ) * den' - num' * den| * 2 < den) :
    roundHalfEven num den = roundHalfEven num' den' := by
  have hsplit := Nat.div_add_mod num' den'
  have hround : roundHalfEven num' den' = num' / den' ∧ 2 * (num' % den') + 1 ≤ den' ∨
      roundHalfEven num' den' = num' / den' + 1 ∧ den' + 1 ≤ 2 * (num' % den') := by
    unfold roundHalfEven
    dsimp only
    split_ifs <;> omega
  have hrest := Nat.mod_lt num' hden'
  have hgap : |(roundHalfEven num' den' : ℚ) * den' - num'| * 2 ≤ den' - 1 := by
    generalize num' / den' = quot at hsplit hround
    generalize num' % den' = rest at hsplit hround hrest
    have hnum : (num' : ℚ) = den' * quot + rest := by exact_mod_cast hsplit.symm
    have hlt : (rest : ℚ) < den' := by exact_mod_cast hrest
    have hnonneg : (0 : ℚ) ≤ rest := Nat.cast_nonneg rest
    rw [hnum]
    rcases hround with ⟨heq, hbelow⟩ | ⟨heq, habove⟩
    · have hbelow : 2 * (rest : ℚ) + 1 ≤ den' := by exact_mod_cast hbelow
      rw [heq, abs_of_nonpos (by linarith)]
      linarith
    · have habove : (den' : ℚ) + 1 ≤ 2 * rest := by exact_mod_cast habove
      rw [heq, Nat.cast_add, Nat.cast_one, abs_of_nonneg (by linarith)]
      linarith
  have hpos : (0 : ℚ) < den := Nat.cast_pos.2 hden
  have hpos' : (0 : ℚ) < den' := Nat.cast_pos.2 hden'
  refine roundHalfEven_eq_of_abs_lt hden ?_
  generalize roundHalfEven num' den' = whole at hgap ⊢
  have htriangle := abs_sub_le ((whole : ℚ) * den * den') (num' * den) (num * den')
  rw [abs_sub_comm (num' * den : ℚ)] at htriangle
  have hfirst : |(whole : ℚ) * den * den' - num' * den| = |(whole : ℚ) * den' - num'| * den := by
    rw [mul_right_comm, ← sub_mul, abs_mul, abs_of_pos hpos]
  have hsecond : |(whole : ℚ) * den * den' - num * den'| = |(whole : ℚ) * den - num| * den' := by
    rw [← sub_mul, abs_mul, abs_of_pos hpos']
  rw [hfirst, hsecond] at htriangle
  have hscaled := mul_le_mul_of_nonneg_right hgap hpos.le
  refine lt_of_mul_lt_mul_right ?_ hpos'.le
  linarith

/-! ## Near numbers -/

/-- A number differs from a value by at most a part in `2 ^ 53` of the value. -/
def IsNear (x w : ℚ) : Prop := |x - w| * 2 ^ 53 ≤ w

variable {x w : ℚ}

/-- A decimal of a grid that is near to one of up to fifteen digits is that one. -/
theorem IsNear.eq_of_on_grid {unit : ℚ} {a b : Nat} (hunit : 0 < unit)
    (h : IsNear (a * unit) (b * unit)) (hb : (b : ℚ) < 2 ^ 53) : a = b := by
  rw [IsNear, ← sub_mul, abs_mul, abs_of_pos hunit, mul_right_comm] at h
  have hgap : |((a : ℚ) - b)| * 2 ^ 53 ≤ b := le_of_mul_le_mul_right h hunit
  exact eq_of_abs_cast_sub_lt_one (by linarith)

/-- Two decimals of up to fifteen digits on one grid that a number is near to are the same. -/
theorem IsNear.grid_unique {unit : ℚ} {a b : Nat} (hunit : 0 < unit) (ha : IsNear x (a * unit))
    (hb : IsNear x (b * unit)) (hsum : (a + b : ℚ) < 2 ^ 53) : a = b := by
  have hgap : |((a : ℚ) - b) * unit| * 2 ^ 53 ≤ (a + b) * unit := by
    have htriangle := abs_sub_le (a * unit) x (b * unit)
    rw [abs_sub_comm ((a : ℚ) * unit) x] at htriangle
    rw [sub_mul]
    unfold IsNear at ha hb
    linarith
  rw [abs_mul, abs_of_pos hunit, mul_right_comm] at hgap
  have hgap : |((a : ℚ) - b)| * 2 ^ 53 ≤ a + b := le_of_mul_le_mul_right hgap hunit
  exact eq_of_abs_cast_sub_lt_one (by linarith)

/-! ## Counts of units -/

theorem cast_tenPow (n : Nat) : (tenPow n : ℚ) = 10 ^ n := Nat.cast_pow 10 n

theorem cast_twoPow (n : Nat) : (twoPow n : ℚ) = 2 ^ n := Nat.cast_pow 2 n

theorem cast_unitsPerOne_pos : (0 : ℚ) < unitsPerOne := Nat.cast_pos.2 unitsPerOne_pos

/-- A power of ten as a quotient of powers with natural exponents. -/
theorem tenPow_toNat_div (e : Int) :
    (tenPow e.toNat : ℚ) / tenPow (-e).toNat = 10 ^ e := by
  rw [cast_tenPow, cast_tenPow, ← zpow_natCast, ← zpow_natCast, ← zpow_sub₀ (by norm_num)]
  congr 1
  omega

namespace Binary64

/-- The value of a count of units. -/
def unitsValue (units : Nat) : ℚ := units / unitsPerOne

theorem unitsValue_mul (units : Nat) : unitsValue units * unitsPerOne = units :=
  div_mul_cancel₀ _ cast_unitsPerOne_pos.ne'

/-- Below `2 ^ 52` units nothing is rounded away but parts of one unit. -/
theorem nearestUnits_of_lt {num den : Nat} (h : num / den < twoPow 53) :
    nearestUnits num den = roundHalfEven num den := by
  have hlog : (num / den).log2 - 52 = 0 := by
    by_cases hzero : num / den = 0
    · rw [hzero, Nat.log2_zero]
    · have hlt := (log2_lt_iff hzero).2 h
      omega
  have hone : twoPow 0 = 1 := rfl
  rw [nearestUnits, hlog, hone, Nat.mul_one, Nat.mul_one]

theorem lt_div_of_lt_nearestUnits {num den : Nat} (h : twoPow 52 < nearestUnits num den) :
    twoPow 52 ≤ num / den := by
  by_contra hlt
  rw [Nat.not_le] at hlt
  have hround := roundHalfEven_le num den
  rw [nearestUnits_of_lt (Nat.lt_trans hlt (twoPow_lt_twoPow (by decide)))] at h
  omega

/-- **The error of rounding.** A value of more than `2 ^ 52` units is near to the number that it is
rounded to. -/
theorem isNear_nearestUnits {num den : Nat} (hden : 0 < den)
    (h : twoPow 52 < nearestUnits num den) :
    IsNear (unitsValue (nearestUnits num den)) (num / den / unitsPerOne) := by
  have hquot := lt_div_of_lt_nearestUnits h
  have hzero : num / den ≠ 0 := by
    have hpos := twoPow_pos 52
    omega
  have hlog : 52 ≤ (num / den).log2 := (Nat.le_log2 hzero).2 hquot
  -- The last bit that is kept is worth at most a part in `2 ^ 52`.
  have hstep : (den : ℚ) * twoPow ((num / den).log2 - 52) * 2 ^ 52 ≤ num := by
    have hle : twoPow (num / den).log2 * den ≤ num :=
      Nat.le_trans (Nat.mul_le_mul_right den (Nat.log2_self_le hzero)) (Nat.div_mul_le_self _ _)
    have hsplit : twoPow (num / den).log2 = twoPow ((num / den).log2 - 52) * twoPow 52 := by
      rw [← twoPow_add, Nat.sub_add_cancel hlog]
    rw [hsplit] at hle
    have hle : (twoPow ((num / den).log2 - 52) : ℚ) * twoPow 52 * den ≤ num := by
      exact_mod_cast hle
    rw [cast_twoPow 52] at hle
    linarith
  have hpos : 0 < den * twoPow ((num / den).log2 - 52) := Nat.mul_pos hden (twoPow_pos _)
  have hround := abs_roundHalfEven_sub_le num hpos
  have hdenpos : (0 : ℚ) < den := Nat.cast_pos.2 hden
  rw [Nat.cast_mul] at hround
  have herror : |(nearestUnits num den : ℚ) * den - num| * 2 ^ 53 ≤ num := by
    unfold nearestUnits
    dsimp only
    rw [Nat.cast_mul, mul_right_comm, mul_assoc]
    linarith
  have hscale : (0 : ℚ) < den * unitsPerOne := mul_pos hdenpos cast_unitsPerOne_pos
  have hgap : unitsValue (nearestUnits num den) - num / den / unitsPerOne =
      ((nearestUnits num den : ℚ) * den - num) / (den * unitsPerOne) := by
    have hden' := hdenpos.ne'
    have hunit := cast_unitsPerOne_pos.ne'
    rw [unitsValue]
    field_simp
  rw [IsNear, hgap, abs_div, abs_of_pos hscale, div_mul_eq_mul_div, div_div,
    div_le_div_iff_of_pos_right hscale]
  exact herror

/-- Rounding a count of units is off by at most half the weight of its last bit. -/
theorem abs_nearestUnits_sub_le {num den bits : Nat} (hden : 0 < den)
    (h : num / den < twoPow (53 + bits)) :
    |(nearestUnits num den : ℚ) * den - num| * 2 ≤ den * twoPow bits := by
  have hlog : (num / den).log2 - 52 ≤ bits := by
    by_cases hzero : num / den = 0
    · rw [hzero, Nat.log2_zero]
      exact Nat.zero_le _
    · have hlt := (log2_lt_iff hzero).2 h
      omega
  have hstep : twoPow ((num / den).log2 - 52) ≤ twoPow bits :=
    Nat.le_of_dvd (twoPow_pos _) (twoPow_dvd_twoPow hlog)
  have hround := abs_roundHalfEven_sub_le num (Nat.mul_pos hden (twoPow_pos ((num / den).log2 - 52)))
  have hunits : (nearestUnits num den : ℚ) * den =
      roundHalfEven num (den * twoPow ((num / den).log2 - 52)) *
        (den * twoPow ((num / den).log2 - 52) : Nat) := by
    rw [nearestUnits, Nat.cast_mul, Nat.cast_mul]
    ring
  rw [hunits]
  refine hround.trans ?_
  rw [Nat.cast_mul]
  exact mul_le_mul_of_nonneg_left (Nat.cast_le.2 hstep) (Nat.cast_nonneg den)

/-- Equal quotients have one nearest count of units. -/
theorem nearestUnits_congr {num den num' den' : Nat} (hden : 0 < den) (hden' : 0 < den')
    (h : (num : ℚ) / den = num' / den') : nearestUnits num den = nearestUnits num' den' := by
  rw [div_eq_div_iff (Nat.cast_ne_zero.2 hden.ne') (Nat.cast_ne_zero.2 hden'.ne')] at h
  have h : num * den' = num' * den := by exact_mod_cast h
  rw [← nearestUnits_mul_left hden' num den, ← nearestUnits_mul_left hden num' den',
    Nat.mul_comm den' num, h, Nat.mul_comm num' den, Nat.mul_comm den' den]

/-! ## Decimals on grids -/

/-- The units of a decimal before they are rounded. -/
theorem unitsOfDecimal_ratio (c : Nat) (e : Int) :
    ((c * tenPow e.toNat * unitsPerOne : Nat) : ℚ) / tenPow (-e).toNat =
      c * 10 ^ e * unitsPerOne := by
  rw [Nat.cast_mul, Nat.cast_mul, ← tenPow_toNat_div]
  ring

/-- Decimals of one value are read alike. -/
theorem unitsOfDecimal_congr {c c' : Nat} {e e' : Int} (h : (c : ℚ) * 10 ^ e = c' * 10 ^ e') :
    unitsOfDecimal c e = unitsOfDecimal c' e' := by
  refine nearestUnits_congr (tenPow_pos _) (tenPow_pos _) ?_
  rw [unitsOfDecimal_ratio, unitsOfDecimal_ratio, h]

/-- A decimal that is read as a number of more than `2 ^ 52` units is near to it. -/
theorem isNear_unitsOfDecimal {c : Nat} {e : Int} (h : twoPow 52 < unitsOfDecimal c e) :
    IsNear (unitsValue (unitsOfDecimal c e)) (c * 10 ^ e) := by
  have hnear := isNear_nearestUnits (tenPow_pos _) h
  rwa [unitsOfDecimal_ratio, mul_div_cancel_right₀ _ cast_unitsPerOne_pos.ne'] at hnear

/-- A decimal that is less than half a unit away from a number of up to `2 ^ 52` units is read
as the number. -/
theorem unitsOfDecimal_eq_of_le {units c : Nat} {e : Int} (hunits : units ≤ twoPow 52)
    (hle : (c : ℚ) * 10 ^ e ≤ unitsValue units)
    (h : (unitsValue units - c * 10 ^ e) * unitsPerOne * 2 < 1) :
    unitsOfDecimal c e = units := by
  have hden : (0 : ℚ) < tenPow (-e).toNat := Nat.cast_pos.2 (tenPow_pos _)
  have hunit := cast_unitsPerOne_pos
  have hratio := unitsOfDecimal_ratio c e
  rw [div_eq_iff hden.ne'] at hratio
  have hle' : (c : ℚ) * 10 ^ e * unitsPerOne ≤ units := by
    rw [← unitsValue_mul units]
    exact mul_le_mul_of_nonneg_right hle hunit.le
  have hquot : c * tenPow e.toNat * unitsPerOne / tenPow (-e).toNat ≤ units := by
    refine Nat.div_le_of_le_mul ?_
    rw [Nat.mul_comm (tenPow _)]
    have hnum := mul_le_mul_of_nonneg_right hle' hden.le
    rw [← hratio, ← Nat.cast_mul] at hnum
    exact Nat.cast_le.1 hnum
  rw [unitsOfDecimal, nearestUnits_of_lt (Nat.lt_of_le_of_lt (Nat.le_trans hquot hunits)
    (twoPow_lt_twoPow (by decide)))]
  refine roundHalfEven_eq_of_abs_lt (tenPow_pos _) ?_
  have hgap : (units : ℚ) * tenPow (-e).toNat - (c * tenPow e.toNat * unitsPerOne : Nat) =
      (unitsValue units - c * 10 ^ e) * unitsPerOne * tenPow (-e).toNat := by
    rw [hratio, sub_mul, sub_mul, unitsValue_mul]
  have hnonneg : 0 ≤ (unitsValue units - c * 10 ^ e) * unitsPerOne :=
    mul_nonneg (sub_nonneg.2 hle) hunit.le
  rw [hgap, abs_of_nonneg (mul_nonneg hnonneg hden.le), mul_right_comm]
  exact (mul_lt_iff_lt_one_left hden).2 h

end Binary64

end InvoiceReadiness
