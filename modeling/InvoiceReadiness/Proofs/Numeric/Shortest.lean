import InvoiceReadiness.Proofs.Numeric.Nearness
import Mathlib.Algebra.Order.Floor.Semifield
import Mathlib.Data.Nat.Cast.Order.Field
import Mathlib.Data.Rat.Floor
import Mathlib.Tactic.Positivity

/-!
# The shortest text of a number

A number is written with the digits of the first grid, from the coarsest on, that has a decimal
which is read back as the number. A decimal of up to fifteen digits that is read as a number of
more than `2 ^ 52` units is the only one near to it that has so few digits, so it is found, on
its own grid or on a coarser one, and the digits are its own (`shortestDigits_of_reads`). Numbers
of fewer units are so small that many decimals are read as one of them; some decimal is found,
and its first digit stands far behind the point (`point_shortestDigits_le`).

## Main results

* `Binary64.shortestDigits_of_reads` — a decimal that is read is written again.
* `Binary64.digitsOfDecimal_eq` — its digits depend on its value only.
-/

namespace InvoiceReadiness

/-! ## The digits of a whole number -/

theorem length_decimalDigits_le {n width : Nat} (hwidth : 0 < width) :
    (decimalDigits n).length ≤ width ↔ n < tenPow width :=
  Nat.length_toDigits_le_iff (by decide) hwidth

theorem length_decimalDigits_pos (n : Nat) : 0 < (decimalDigits n).length :=
  List.length_pos_iff.2 Nat.toDigits_ne_nil

/-- A positive whole number lies between two powers of ten that its digits count. -/
theorem decimalDigits_bounds {n : Nat} (hn : 0 < n) :
    tenPow ((decimalDigits n).length - 1) ≤ n ∧ n < tenPow (decimalDigits n).length := by
  have hpos := length_decimalDigits_pos n
  refine ⟨?_, (length_decimalDigits_le hpos).1 (Nat.le_refl _)⟩
  by_cases hone : (decimalDigits n).length = 1
  · rw [hone]
    exact hn
  · have hnot := mt (length_decimalDigits_le (n := n) (Nat.sub_pos_of_lt
      (show 1 < (decimalDigits n).length by omega))).2 (by omega)
    exact Nat.le_of_not_lt hnot

theorem decimalDigits_mul_tenPow {n : Nat} (hn : 0 < n) (zeros : Nat) :
    decimalDigits (n * tenPow zeros) = decimalDigits n ++ List.replicate zeros '0' := by
  induction zeros with
  | zero => simp [tenPow]
  | succ zeros ih =>
      have hpow : n * tenPow (zeros + 1) = 10 * (n * tenPow zeros) + 0 := by
        rw [Nat.add_zero, Nat.mul_left_comm]
        exact congrArg (n * ·) (Nat.mul_comm _ _)
      have hpos : 0 < n * tenPow zeros := Nat.mul_pos hn (tenPow_pos zeros)
      rw [hpow, decimalDigits, ← Nat.toDigits_append_toDigits (by decide) hpos (by decide)]
      show decimalDigits (n * tenPow zeros) ++ ['0'] = _
      rw [ih, List.append_assoc, List.replicate_succ']

theorem digitChar_eq_zero {d : Nat} (h : d < 10) : Nat.digitChar d = '0' ↔ d = 0 := by
  have hall : ∀ d < 10, Nat.digitChar d = '0' ↔ d = 0 := by decide
  exact hall d h

/-- The last digit of a number that ten does not divide is not zero. -/
theorem dropWhile_reverse_decimalDigits {n : Nat} (hn : n % 10 ≠ 0) :
    (decimalDigits n).reverse.dropWhile (· == '0') = (decimalDigits n).reverse := by
  have hlast : ∃ init, decimalDigits n = init ++ [Nat.digitChar (n % 10)] := by
    by_cases hsmall : n < 10
    · refine ⟨[], ?_⟩
      rw [Nat.mod_eq_of_lt hsmall]
      exact Nat.toDigits_of_lt_base hsmall
    · exact ⟨_, Nat.toDigits_of_base_le (by decide) (Nat.le_of_not_lt hsmall)⟩
  obtain ⟨init, hinit⟩ := hlast
  have hne : ¬(Nat.digitChar (n % 10) == '0') = true := by
    rw [beq_iff_eq, digitChar_eq_zero (Nat.mod_lt n (by decide))]
    exact hn
  rw [hinit, List.reverse_append, List.reverse_singleton, List.singleton_append]
  exact List.dropWhile_cons_of_neg hne

namespace Binary64

variable {units c c' : Nat} {e e' : Int}

/-- The digits of a decimal depend on its value only. Its last digit that is not zero tells the
grid that it belongs to. -/
theorem digitsOfDecimal_eq (hc : c % 10 ≠ 0) (h : (c' : ℚ) * 10 ^ e' = c * 10 ^ e) :
    digitsOfDecimal c' e' = ⟨decimalDigits c, (decimalDigits c).length + e⟩ := by
  have hpos : 0 < c := Nat.pos_of_ne_zero fun hzero => hc (by rw [hzero])
  have hten : (10 : ℚ) ≠ 0 := by norm_num
  have hcoarse : e' ≤ e := by
    by_contra hlt
    obtain ⟨n, hn⟩ := Int.eq_succ_of_zero_lt (show 0 < e' - e by omega)
    have hsplit : e' = ((n + 1 : Nat) : Int) + e := by omega
    rw [hsplit, zpow_add₀ hten, zpow_natCast, ← mul_assoc,
      mul_left_inj' (zpow_ne_zero _ hten)] at h
    have h : c' * 10 ^ (n + 1) = c := by exact_mod_cast h
    rw [← h, Nat.pow_succ, ← Nat.mul_assoc, Nat.mul_mod_left] at hc
    exact hc rfl
  obtain ⟨zeros, hzeros⟩ := Int.eq_ofNat_of_zero_le (show 0 ≤ e - e' by omega)
  have hsplit : e = (zeros : Int) + e' := by omega
  rw [hsplit, zpow_add₀ hten, zpow_natCast, ← mul_assoc,
    mul_left_inj' (zpow_ne_zero _ hten)] at h
  have h : c' = c * tenPow zeros := by
    rw [← cast_tenPow] at h
    exact_mod_cast h
  have hdropped : (List.replicate zeros '0' ++ (decimalDigits c).reverse).dropWhile (· == '0') =
      (decimalDigits c).reverse := by
    rw [List.dropWhile_append_of_pos, dropWhile_reverse_decimalDigits hc]
    simp
  rw [digitsOfDecimal, h, decimalDigits_mul_tenPow hpos]
  simp only [List.reverse_append, List.reverse_replicate, hdropped, List.reverse_reverse,
    List.length_append, List.length_replicate, DecimalDigits.mk.injEq, true_and]
  omega

/-! ## The first digit -/

theorem twoPow_mul (m n : Nat) : twoPow (m * n) = twoPow m ^ n := Nat.pow_mul 2 m n

theorem tenPow_mul (m n : Nat) : tenPow (m * n) = tenPow m ^ n := Nat.pow_mul 10 m n

/-- Three hundred and thirty decimal places tell the smallest positive number from zero. -/
theorem unitsPerOne_le_tenPow : unitsPerOne ≤ tenPow 330 := by
  have hstep : twoPow 33 ≤ tenPow 10 := by decide
  calc unitsPerOne ≤ twoPow (33 * 33) :=
        Nat.le_of_dvd (twoPow_pos _) (twoPow_dvd_twoPow (by decide))
    _ = twoPow 33 ^ 33 := twoPow_mul 33 33
    _ ≤ tenPow 10 ^ 33 := Nat.pow_le_pow_left hstep 33
    _ = tenPow 330 := (tenPow_mul 10 33).symm

/-- A positive number lies between the power of ten of its first digit and the next one. -/
theorem leadingPower_bounds (h : 0 < units) :
    10 ^ leadingPower units ≤ unitsValue units ∧
      unitsValue units < 10 ^ (leadingPower units + 1) := by
  have hten : (10 : ℚ) ≠ 0 := by norm_num
  have hpos : 0 < units * tenPow 330 / unitsPerOne := by
    refine Nat.div_pos ?_ unitsPerOne_pos
    exact Nat.le_trans unitsPerOne_le_tenPow (Nat.le_mul_of_pos_left _ h)
  obtain ⟨hlow, hhigh⟩ := decimalDigits_bounds hpos
  have hlength := length_decimalDigits_pos (units * tenPow 330 / unitsPerOne)
  have hscaled : ((units * tenPow 330 : Nat) : ℚ) / unitsPerOne = unitsValue units * 10 ^ 330 := by
    rw [Nat.cast_mul, cast_tenPow, mul_div_right_comm]
    rfl
  have hscale : (0 : ℚ) < 10 ^ 330 := by positivity
  unfold leadingPower
  generalize (decimalDigits (units * tenPow 330 / unitsPerOne)).length = width at *
  constructor
  · have hexponent : (width : Int) - 331 = ((width - 1 : Nat) : Int) - (330 : Nat) := by omega
    rw [hexponent, zpow_sub₀ hten, zpow_natCast, zpow_natCast, div_le_iff₀ hscale, ← hscaled,
      ← cast_tenPow]
    exact le_trans (Nat.cast_le.2 hlow) Nat.cast_div_le
  · have hexponent : (width : Int) - 331 + 1 = (width : Int) - (330 : Nat) := by omega
    have hnonneg : (0 : ℚ) ≤ (units * tenPow 330 : Nat) / unitsPerOne :=
      div_nonneg (Nat.cast_nonneg _) (Nat.cast_nonneg _)
    rw [hexponent, zpow_sub₀ hten, zpow_natCast, zpow_natCast, lt_div_iff₀ hscale, ← hscaled,
      ← cast_tenPow, ← Nat.floor_lt hnonneg, Nat.floor_div_eq_div]
    exact hhigh

/-! ## Neighbours on a grid -/

/-- The coefficient of the last decimal on a grid that is not above a number. -/
def belowOnGrid (units : Nat) (e : Int) : Nat :=
  units * tenPow (-e).toNat / (unitsPerOne * tenPow e.toNat)

theorem belowOnGrid_bounds (units : Nat) (e : Int) :
    (belowOnGrid units e : ℚ) * 10 ^ e ≤ unitsValue units ∧
      unitsValue units < (belowOnGrid units e + 1) * 10 ^ e := by
  have hpow : (0 : ℚ) < 10 ^ e := by positivity
  have hratio : ((units * tenPow (-e).toNat : Nat) : ℚ) /
      (unitsPerOne * tenPow e.toNat : Nat) = unitsValue units / 10 ^ e := by
    rw [← tenPow_toNat_div, Nat.cast_mul, Nat.cast_mul, mul_div_mul_comm, div_div_eq_mul_div,
      mul_div_assoc]
    rfl
  rw [← le_div_iff₀ hpow, ← div_lt_iff₀ hpow, ← hratio]
  refine ⟨Nat.cast_div_le, ?_⟩
  rw [belowOnGrid, ← Nat.floor_div_eq_div (K := ℚ)]
  exact Nat.lt_floor_add_one _

/-- A decimal less than a step of the grid away from a number is one of its neighbours. -/
theorem belowOnGrid_neighbours (h : |unitsValue units - c * 10 ^ e| < 10 ^ e) :
    belowOnGrid units e = c ∨ belowOnGrid units e + 1 = c := by
  have hpow : (0 : ℚ) < 10 ^ e := by positivity
  obtain ⟨hle, hlt⟩ := belowOnGrid_bounds units e
  obtain ⟨hlow, hhigh⟩ := abs_lt.1 h
  have hupper : (c : ℚ) * 10 ^ e < (belowOnGrid units e + 2) * 10 ^ e := by linarith
  have hlower : (belowOnGrid units e : ℚ) * 10 ^ e < (c + 1) * 10 ^ e := by linarith
  have hupper : c < belowOnGrid units e + 2 := by
    exact_mod_cast lt_of_mul_lt_mul_right hupper hpow.le
  have hlower : belowOnGrid units e < c + 1 := by
    exact_mod_cast lt_of_mul_lt_mul_right hlower hpow.le
  omega

/-- What is found on a grid is a neighbour that is read back. -/
theorem reads_of_coefficientOnGrid? (h : coefficientOnGrid? units e = some c) :
    unitsOfDecimal c e = units ∧ c ≤ belowOnGrid units e + 1 := by
  have hround := roundHalfEven_le (units * tenPow (-e).toNat) (unitsPerOne * tenPow e.toNat)
  have hround' := le_roundHalfEven (units * tenPow (-e).toNat) (unitsPerOne * tenPow e.toNat)
  rw [← belowOnGrid] at hround hround'
  unfold coefficientOnGrid? at h
  dsimp only at h
  rw [← belowOnGrid] at h
  split_ifs at h with hboth hbelow habove
  · obtain rfl := Option.some.inj h
    rw [Bool.and_eq_true, beq_iff_eq, beq_iff_eq] at hboth
    refine ⟨?_, hround⟩
    rcases Nat.lt_or_ge (belowOnGrid units e) (roundHalfEven (units * tenPow (-e).toNat)
      (unitsPerOne * tenPow e.toNat)) with hlt | hge
    · rw [Nat.le_antisymm hround hlt]
      exact hboth.2
    · rw [Nat.le_antisymm hge hround']
      exact hboth.1
  · obtain rfl := Option.some.inj h
    exact ⟨eq_of_beq hbelow, Nat.le_succ _⟩
  · obtain rfl := Option.some.inj h
    exact ⟨eq_of_beq habove, Nat.le_refl _⟩

/-- A neighbour that is read back makes the search on its grid succeed. -/
theorem isSome_coefficientOnGrid? (h : |unitsValue units - c * 10 ^ e| < 10 ^ e)
    (hread : unitsOfDecimal c e = units) : (coefficientOnGrid? units e).isSome := by
  unfold coefficientOnGrid?
  dsimp only
  rcases belowOnGrid_neighbours h with hc | hc
  · have hbelow : (unitsOfDecimal (belowOnGrid units e) e == units) = true := by
      rw [hc, hread, beq_self_eq_true]
    rw [← belowOnGrid, hbelow]
    simp only [Bool.true_and, if_true]
    split
    · exact Option.isSome_some
    · exact Option.isSome_some
  · have habove : (unitsOfDecimal (belowOnGrid units e + 1) e == units) = true := by
      rw [hc, hread, beq_self_eq_true]
    rw [← belowOnGrid, habove]
    simp only [Bool.and_true, if_true]
    split
    · exact Option.isSome_some
    · exact Option.isSome_some

/-! ## The search -/

/-- A search that succeeds at an index succeeds there or before. -/
theorem findSome?_range {α : Type} {f : Nat → Option α} {n j : Nat} (hj : j < n)
    (h : (f j).isSome) : ∃ i ≤ j, ∃ a, f i = some a ∧ (List.range n).findSome? f = some a := by
  have hfirst : ((List.range (j + 1)).findSome? f).isSome :=
    List.findSome?_isSome_iff.2 ⟨j, List.mem_range.2 (Nat.lt_succ_self j), h⟩
  obtain ⟨a, ha⟩ := Option.isSome_iff_exists.1 hfirst
  obtain ⟨i, hi, hia⟩ := List.exists_of_findSome?_eq_some ha
  refine ⟨i, Nat.lt_succ_iff.1 (List.mem_range.1 hi), a, hia, ?_⟩
  obtain ⟨rest, rfl⟩ := Nat.exists_eq_add_of_le (show j + 1 ≤ n from hj)
  rw [List.range_add, List.findSome?_append, ha, Option.some_or]

/-- A neighbour on the grid of up to seventeen digits that is read back makes the search succeed
on its grid or on a coarser one. -/
theorem exists_shortestDigits {j : Nat} (hunits : 0 < units) (hj : j < 17)
    (h : |unitsValue units - c * 10 ^ (leadingPower units - j)| < 10 ^ (leadingPower units - j))
    (hread : unitsOfDecimal c (leadingPower units - j) = units) :
    ∃ i ≤ j, ∃ d : Nat, (d : ℚ) ≤ 10 ^ (i + 1) ∧
      unitsOfDecimal d (leadingPower units - i) = units ∧
      shortestDigits units = digitsOfDecimal d (leadingPower units - i) := by
  let search (k : Nat) : Option DecimalDigits :=
    (coefficientOnGrid? units (leadingPower units - k)).map fun c =>
      digitsOfDecimal c (leadingPower units - k)
  have hsome : (search j).isSome := by
    rw [Option.isSome_map]
    exact isSome_coefficientOnGrid? h hread
  obtain ⟨i, hi, digits, hdigits, hfound⟩ := findSome?_range hj hsome
  obtain ⟨d, hd, rfl⟩ := Option.map_eq_some_iff.1 hdigits
  obtain ⟨hreads, hle⟩ := reads_of_coefficientOnGrid? hd
  refine ⟨i, hi, d, ?_, hreads, ?_⟩
  · obtain ⟨hbelow, -⟩ := belowOnGrid_bounds units (leadingPower units - i)
    obtain ⟨-, htop⟩ := leadingPower_bounds hunits
    have hpow : (0 : ℚ) < 10 ^ (leadingPower units - i) := by positivity
    have hsplit : (10 : ℚ) ^ (leadingPower units + 1) =
        10 ^ (i + 1) * 10 ^ (leadingPower units - i) := by
      rw [← zpow_natCast, ← zpow_add₀ (by norm_num)]
      congr 1
      omega
    rw [hsplit] at htop
    have hlt := lt_of_mul_lt_mul_right (lt_of_le_of_lt hbelow htop) hpow.le
    have hlt : belowOnGrid units (leadingPower units - i) + 1 ≤ 10 ^ (i + 1) := by
      exact_mod_cast hlt
    exact_mod_cast Nat.le_trans hle hlt
  · show ((List.range 17).findSome? search).getD _ = _
    rw [hfound]
    rfl

/-! ## The digits of a decimal that is read -/

/-- A decimal of up to fifteen digits that is read as a number lies on the grid of fifteen digits
of the number. -/
theorem exists_eq_on_grid (hunits : 0 < units) (hc : c < tenPow 15)
    (hnear : IsNear (unitsValue units) (c * 10 ^ e)) :
    ∃ a : Nat, (a : ℚ) ≤ 10 ^ 15 ∧
      (a : ℚ) * 10 ^ (leadingPower units - (14 : Nat)) = c * 10 ^ e := by
  have hten : (10 : ℚ) ≠ 0 := by norm_num
  obtain ⟨hlow, hhigh⟩ := leadingPower_bounds hunits
  have hc : (c : ℚ) + 1 ≤ 10 ^ 15 := by
    rw [← cast_tenPow]
    exact_mod_cast hc
  have hgap := abs_le.1 ((le_div_iff₀ (by norm_num)).2 hnear)
  generalize hx : unitsValue units = x at *
  generalize leadingPower units = top at *
  have hfine : top - (14 : Nat) ≤ e := by
    -- On a finer grid so few digits would not reach up to the number.
    by_contra hlt
    have hpow : (0 : ℚ) < 10 ^ e := by positivity
    have hreach : (10 : ℚ) ^ 15 * 10 ^ e ≤ 10 ^ top := by
      rw [← zpow_natCast, ← zpow_add₀ hten]
      exact zpow_le_zpow_right₀ (by norm_num) (by omega)
    have hstep := mul_le_mul_of_nonneg_right hc hpow.le
    linarith
  obtain ⟨zeros, hzeros⟩ := Int.eq_ofNat_of_zero_le (show 0 ≤ e - (top - (14 : Nat)) by omega)
  have hsplit : e = (zeros : Int) + (top - (14 : Nat)) := by omega
  have hvalue : ((c * tenPow zeros : Nat) : ℚ) * 10 ^ (top - (14 : Nat)) = c * 10 ^ e := by
    rw [Nat.cast_mul, cast_tenPow, mul_assoc, hsplit, zpow_add₀ hten, zpow_natCast]
  refine ⟨c * tenPow zeros, ?_, hvalue⟩
  have hpow : (0 : ℚ) < 10 ^ (top - (14 : Nat)) := by positivity
  have htop : (10 : ℚ) ^ (top + 1) = 10 ^ 15 * 10 ^ (top - (14 : Nat)) := by
    rw [← zpow_natCast, ← zpow_add₀ hten]
    congr 1
    omega
  have hlt : ((c * tenPow zeros : Nat) : ℚ) * 10 ^ (top - (14 : Nat)) <
      (10 ^ 15 + 1) * 10 ^ (top - (14 : Nat)) := by
    rw [hvalue]
    rw [htop] at hhigh
    linarith
  have hlt : c * tenPow zeros < 10 ^ 15 + 1 := by
    exact_mod_cast lt_of_mul_lt_mul_right hlt hpow.le
  exact_mod_cast Nat.lt_succ_iff.1 hlt

/-- **A decimal that is read is written again.** If a decimal of up to fifteen digits is read as a
number of more than `2 ^ 52` units, the shortest digits of the number are those of a decimal of
the same value. -/
theorem shortestDigits_of_reads (hunits : twoPow 52 < units) (hc : c < tenPow 15)
    (hread : unitsOfDecimal c e = units) :
    ∃ d k, shortestDigits units = digitsOfDecimal d k ∧ (d : ℚ) * 10 ^ k = c * 10 ^ e := by
  have hten : (10 : ℚ) ≠ 0 := by norm_num
  have hpos : 0 < units := Nat.lt_trans (twoPow_pos 52) hunits
  have hnear {c : Nat} {e : Int} (hread : unitsOfDecimal c e = units) :
      IsNear (unitsValue units) (c * 10 ^ e) := by
    rw [← hread] at hunits ⊢
    exact isNear_unitsOfDecimal hunits
  obtain ⟨a, ha, hvalue⟩ := exists_eq_on_grid hpos hc (hnear hread)
  have hreada := (unitsOfDecimal_congr hvalue).trans hread
  have hpow : (0 : ℚ) < 10 ^ (leadingPower units - (14 : Nat)) := by positivity
  have hclose : |unitsValue units - a * 10 ^ (leadingPower units - (14 : Nat))| <
      10 ^ (leadingPower units - (14 : Nat)) := by
    have herror := hnear hreada
    have hle := mul_le_mul_of_nonneg_right ha hpow.le
    unfold IsNear at herror
    linarith
  obtain ⟨i, hi, d, hd, hreadd, hdigits⟩ := exists_shortestDigits hpos (by decide) hclose hreada
  refine ⟨d, _, hdigits, hvalue ▸ ?_⟩
  -- What is found on a coarser grid is on the grid of fifteen digits too, and near to the number.
  have hsplit : leadingPower units - (i : Int) =
      ((14 - i : Nat) : Int) + (leadingPower units - (14 : Nat)) := by omega
  have hvalued : ((d * tenPow (14 - i) : Nat) : ℚ) * 10 ^ (leadingPower units - (14 : Nat)) =
      d * 10 ^ (leadingPower units - (i : Int)) := by
    rw [Nat.cast_mul, cast_tenPow, mul_assoc, hsplit, zpow_add₀ hten, zpow_natCast]
  have hsum : ((d * tenPow (14 - i) : Nat) : ℚ) + a < 2 ^ 53 := by
    have hfew := mul_le_mul_of_nonneg_right hd (show (0 : ℚ) ≤ 10 ^ (14 - i) by positivity)
    have hplaces : i + 1 + (14 - i) = 15 := by omega
    rw [← pow_add, hplaces] at hfew
    rw [Nat.cast_mul, cast_tenPow]
    linarith
  have hneard := hnear hreadd
  rw [← hvalued] at hneard ⊢
  rw [hneard.grid_unique hpow (hnear hreada) hsum]

/-! ## Small numbers -/

/-- A number of up to `2 ^ 52` units is less than a millionth. -/
theorem unitsValue_lt_of_le (h : units ≤ twoPow 52) : unitsValue units * 10 ^ 6 < 1 := by
  have hbound : twoPow 52 * tenPow 6 < unitsPerOne := by
    have hsix : tenPow 6 < twoPow 20 := by decide
    rw [unitsPerOne_split]
    refine Nat.mul_lt_mul_of_pos_left ?_ (twoPow_pos 52)
    exact Nat.lt_trans hsix (twoPow_lt_twoPow (by decide))
  have hlt : units * tenPow 6 < unitsPerOne :=
    Nat.lt_of_le_of_lt (Nat.mul_le_mul_right _ h) hbound
  rw [unitsValue, ← cast_tenPow, div_mul_eq_mul_div, div_lt_one cast_unitsPerOne_pos,
    ← Nat.cast_mul]
  exact Nat.cast_lt.2 hlt

/-- The first digit of a small number that is not zero stands far behind the point. -/
theorem point_shortestDigits_le (hpos : 0 < units) (hunits : units ≤ twoPow 52) :
    (shortestDigits units).point ≤ -4 := by
  have hten : (10 : ℚ) ≠ 0 := by norm_num
  obtain ⟨hlow, -⟩ := leadingPower_bounds hpos
  have hpow : (0 : ℚ) < 10 ^ (leadingPower units - (16 : Nat)) := by positivity
  obtain ⟨hle, hlt⟩ := belowOnGrid_bounds units (leadingPower units - (16 : Nat))
  have hstep : unitsValue units - belowOnGrid units (leadingPower units - (16 : Nat)) *
      10 ^ (leadingPower units - (16 : Nat)) < 10 ^ (leadingPower units - (16 : Nat)) := by
    rw [add_mul, one_mul] at hlt
    linarith
  have hclose : |unitsValue units - belowOnGrid units (leadingPower units - (16 : Nat)) *
      10 ^ (leadingPower units - (16 : Nat))| < 10 ^ (leadingPower units - (16 : Nat)) := by
    rwa [abs_of_nonneg (sub_nonneg.2 hle)]
  -- A step of the grid of seventeen digits is less than half a unit.
  have hread : unitsOfDecimal (belowOnGrid units (leadingPower units - (16 : Nat)))
      (leadingPower units - (16 : Nat)) = units := by
    refine unitsOfDecimal_eq_of_le hunits hle ?_
    have hfine : 10 ^ (leadingPower units - (16 : Nat)) * 10 ^ 16 ≤ unitsValue units := by
      rwa [← zpow_natCast, ← zpow_add₀ hten, Int.sub_add_cancel]
    have hcount : unitsValue units * unitsPerOne ≤ 2 ^ 52 := by
      rw [unitsValue_mul, ← cast_twoPow]
      exact Nat.cast_le.2 hunits
    have hstep := mul_lt_mul_of_pos_right hstep cast_unitsPerOne_pos
    have hfine := mul_le_mul_of_nonneg_right hfine cast_unitsPerOne_pos.le
    linarith
  obtain ⟨i, hi, d, hd, -, hdigits⟩ := exists_shortestDigits hpos (by decide) hclose hread
  have hlength : (decimalDigits d).length ≤ i + 2 :=
    (length_decimalDigits_le (Nat.succ_pos _)).2
      (Nat.lt_of_le_of_lt (by exact_mod_cast hd) (Nat.pow_lt_pow_succ (by decide)))
  have htop : leadingPower units < -6 := by
    refine (zpow_lt_zpow_iff_right₀ (show (1 : ℚ) < 10 by norm_num)).1 ?_
    have hsmall := unitsValue_lt_of_le hunits
    have hsix : (10 : ℚ) ^ (-6 : Int) = 1 / 10 ^ 6 := by norm_num
    rw [hsix, lt_div_iff₀ (by norm_num)]
    linarith
  rw [hdigits, digitsOfDecimal]
  dsimp only
  omega

end Binary64

end InvoiceReadiness
