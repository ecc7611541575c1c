import InvoiceReadiness.Pint.Field
import InvoiceReadiness.Proofs.Checks.Presence
import InvoiceReadiness.Proofs.Numeric.DecimalReading
import InvoiceReadiness.Proofs.Numeric.Ordering
import InvoiceReadiness.Proofs.Numeric.Shortest

/-!
# Decimal places that are shown

The check pack counts the decimal places of a number in its text. The text has the digits of the
decimal that the number was read from, if these are not more than fifteen; but only where it
is written positionally do the places stand in it. From four zeros behind the point on it has an
exponent, and then none are counted.

## Main results

* `placesInText_text` — the places in the text of a decimal.
* `shownPlaces_ofDecimal` — the places counted of a decimal that is read.
-/

namespace InvoiceReadiness

namespace Pint

/-! ## Places in a text -/

theorem placesInText_of_mem {text : List Char} (h : 'e' ∈ text) : placesInText text = 0 := by
  rw [placesInText, if_pos (List.contains_iff_mem.2 h)]

theorem placesInText_append {whole places : List Char} (hwhole : ∀ c ∈ whole, c.isDigit)
    (hplaces : ∀ c ∈ places, c.isDigit) :
    placesInText (whole ++ '.' :: places) = places.length := by
  have hnot {c : Char} (hc : c.isDigit = false) {cs : List Char} (h : ∀ d ∈ cs, d.isDigit) :
      c ∉ cs := by
    intro hmem
    rw [h c hmem] at hc
    cases hc
  have hexponent : ¬((whole ++ '.' :: places).contains 'e') = true := by
    have hwhole := hnot (c := 'e') rfl hwhole
    have hplaces := hnot (c := 'e') rfl hplaces
    simp [hwhole, hplaces]
  rw [placesInText, if_neg hexponent, splitAtChar_append_cons,
    splitAtChar_of_not_mem (hnot rfl hwhole), splitAtChar_of_not_mem (hnot rfl hplaces)]
  rfl

/-- A minus in front has no part in the count. -/
theorem placesInText_signed (negative : Bool) (cs : List Char) :
    placesInText (if negative then '-' :: cs else cs) = placesInText cs := by
  cases negative with
  | false => rfl
  | true =>
      have hexponent : ('-' :: cs).contains 'e' = cs.contains 'e' := rfl
      have hminus : ('-' == '.') = false := rfl
      rw [if_pos rfl, placesInText, placesInText, hexponent, splitAtChar, hminus]
      -- The minus joins the part before the first point, which is not counted.
      rcases splitAtChar '.' cs with _ | ⟨first, _ | ⟨second, rest⟩⟩ <;> rfl

/-! ## The text of a decimal -/

/-- A decimal whose first digit stands far behind the point is written with an exponent. -/
theorem placesInText_of_point_le {d : DecimalDigits} (h : d.point ≤ -4) :
    placesInText d.text = 0 := by
  refine placesInText_of_mem ?_
  rw [DecimalDigits.text, if_neg (by omega)]
  simp

theorem length_decimalDigits_add_le {c k : Nat} (hc : 0 < c) :
    (decimalDigits c).length + 4 ≤ k ↔ c * tenPow 4 < tenPow k := by
  have hlength := length_decimalDigits_pos c
  by_cases hk : k ≤ 4
  · have hle : tenPow k ≤ c * tenPow 4 :=
      Nat.le_trans (tenPow_le_tenPow hk) (Nat.le_mul_of_pos_left _ hc)
    constructor
    · intro h
      omega
    · intro h
      exact absurd hle (Nat.not_le_of_lt h)
  · obtain ⟨w, rfl⟩ := Nat.exists_eq_add_of_le' (Nat.le_of_not_le hk)
    rw [tenPow_add, Nat.mul_lt_mul_right (tenPow_pos 4), ← length_decimalDigits_le (by omega)]
    omega

/-- The places in the text of a decimal are its own, unless it is less than a ten-thousandth. -/
theorem placesInText_text {c k : Nat} (hc : 0 < c) (hfew : c < tenPow 15) (hk : 0 < k) :
    placesInText (DecimalDigits.text ⟨decimalDigits c, (decimalDigits c).length - (k : Int)⟩) =
      if c * tenPow 4 < tenPow k then 0 else k := by
  have hlength : (decimalDigits c).length ≤ 15 := (length_decimalDigits_le (by decide)).2 hfew
  have hdigits : ∀ d ∈ decimalDigits c, d.isDigit := fun d =>
    Lexer.isDigit_of_mem_decimalDigits
  have hzeros (n : Nat) : ∀ d ∈ List.replicate n '0', d.isDigit := by
    intro d hd
    rw [List.eq_of_mem_replicate hd]
    rfl
  by_cases hsmall : c * tenPow 4 < tenPow k
  · have hpoint := (length_decimalDigits_add_le hc).2 hsmall
    rw [if_pos hsmall]
    exact placesInText_of_point_le (by dsimp only; omega)
  · have hpoint := mt (length_decimalDigits_add_le hc).1 hsmall
    rw [if_neg hsmall, DecimalDigits.text]
    dsimp only
    generalize decimalDigits c = digits at *
    rw [if_pos (by omega)]
    by_cases hbehind : (digits.length : Int) - k ≤ 0
    · -- Zeros stand between the point and the first digit.
      rw [if_pos hbehind]
      show placesInText (['0'] ++ '.' :: (List.replicate _ '0' ++ digits)) = k
      rw [placesInText_append, List.length_append, List.length_replicate]
      · omega
      · exact hzeros 1
      · intro d hd
        rcases List.mem_append.1 hd with hd | hd
        · exact hzeros _ d hd
        · exact hdigits d hd
    · rw [if_neg hbehind]
      have hsome : (digits.drop (digits.length - (k : Int)).toNat).isEmpty = false := by
        rw [List.isEmpty_eq_false_iff, ← List.length_pos_iff, List.length_drop]
        omega
      rw [hsome, placesInText_append, if_neg Bool.false_ne_true, List.length_drop]
      · omega
      · intro d hd
        rcases List.mem_append.1 hd with hd | hd
        · exact hdigits d (List.mem_of_mem_take hd)
        · exact hzeros _ d hd
      · intro d hd
        exact hdigits d (List.mem_of_mem_drop hd)

/-! ## Places counted of a number -/

/-- The decimal places that are counted of a binary64 number. -/
def shownPlaces (x : Binary64) : Nat :=
  if x.isFinite && !x.isWhole then placesInText x.text.toList else 0

theorem countDecimals_of_toNumber? {v : Value} {x : Binary64} (h : v.toNumber? = some (.float x)) :
    countDecimals v = .ok (shownPlaces x) := by
  rw [countDecimals, h, shownPlaces]
  dsimp only [Number.isFinite]
  cases x.isFinite <;> cases x.isWhole <;> rfl

theorem shownPlaces_infinite (negative : Bool) : shownPlaces (.infinite negative) = 0 := rfl

theorem shownPlaces_of_isWhole {x : Binary64} (h : x.isWhole) : shownPlaces x = 0 := by
  rw [shownPlaces, h, Bool.not_true, Bool.and_false]
  rfl

/-- The text of a number that is not whole. -/
theorem shownPlaces_finite {negative : Bool} {units : Nat} (hunits : Representable units)
    (h : units % unitsPerOne ≠ 0) :
    shownPlaces (.finite negative units hunits) =
      placesInText (Binary64.shortestDigits units).text := by
  have hwhole : (Binary64.finite negative units hunits).isWhole = false := by
    rw [Binary64.isWhole]
    exact beq_eq_false_iff_ne.2 h
  have hpos : units ≠ 0 := by
    rintro rfl
    exact h (Nat.zero_mod _)
  have htext : (Binary64.finite negative units hunits).text.toList =
      if negative then '-' :: (Binary64.shortestDigits units).text
      else (Binary64.shortestDigits units).text := by
    have hshort : (if units = 0 then ['0', '.', '0'] else (Binary64.shortestDigits units).text) =
        (Binary64.shortestDigits units).text := if_neg hpos
    rw [← hshort]
    exact String.toList_ofList
  have hfinite : (Binary64.finite negative units hunits).isFinite = true := rfl
  rw [shownPlaces, hwhole, hfinite, htext, placesInText_signed, Bool.not_false, Bool.and_true,
    if_pos rfl]

/-- A number of up to `2 ^ 52` units is whole, which is to say zero, or has an exponent. -/
theorem shownPlaces_of_le {negative : Bool} {units : Nat} (hunits : Representable units)
    (h : units ≤ twoPow 52) : shownPlaces (.finite negative units hunits) = 0 := by
  by_cases hwhole : units % unitsPerOne = 0
  · exact shownPlaces_of_isWhole (beq_iff_eq.2 hwhole)
  · have hpos : 0 < units := by
      refine Nat.pos_of_ne_zero ?_
      rintro rfl
      exact hwhole (Nat.zero_mod _)
    rw [shownPlaces_finite hunits hwhole]
    exact placesInText_of_point_le (Binary64.point_shortestDigits_le hpos h)

end Pint

/-! ## Decimals that are read -/

namespace Binary64

variable {c places : Nat}

/-- A decimal with places is not read as a whole number. -/
theorem not_whole_of_reads {units : Nat} (hfew : c < tenPow 15) (hlast : c % 10 ≠ 0)
    (hplaces : 0 < places) (hunits : twoPow 52 < units)
    (hread : unitsOfDecimal c (-(places : Int)) = units) : units % unitsPerOne ≠ 0 := by
  intro hwhole
  have hten : (10 : ℚ) ≠ 0 := by norm_num
  obtain ⟨n, hn⟩ := Nat.dvd_of_mod_eq_zero hwhole
  have hpow : (0 : ℚ) < 10 ^ (-(places : Int)) := by positivity
  have hvalue : unitsValue units = ((n * 10 ^ places : Nat) : ℚ) * 10 ^ (-(places : Int)) := by
    rw [unitsValue, hn, Nat.cast_mul, mul_div_cancel_left₀ _ cast_unitsPerOne_pos.ne', Nat.cast_mul,
      Nat.cast_pow, Nat.cast_ofNat, mul_assoc, zpow_neg, zpow_natCast,
      mul_inv_cancel₀ (pow_ne_zero _ hten), mul_one]
  have hnear : IsNear (unitsValue units) (c * 10 ^ (-(places : Int))) := by
    rw [← hread] at hunits ⊢
    exact isNear_unitsOfDecimal hunits
  have hbound : (c : ℚ) < 2 ^ 53 := by
    have hlt : c < 2 ^ 53 := Nat.lt_trans hfew (by decide +kernel)
    exact_mod_cast hlt
  rw [hvalue] at hnear
  obtain ⟨k, rfl⟩ := Nat.exists_eq_add_of_lt hplaces
  rw [← hnear.eq_of_on_grid hpow hbound, Nat.pow_succ, ← Nat.mul_assoc, Nat.mul_mod_left] at hlast
  exact hlast rfl

/-- A decimal of up to fifteen digits has a nearest finite number. -/
theorem ofRatio_eq_finite (negative : Bool) (places : Nat) (hfew : c < tenPow 15) :
    ∃ h, ofRatio negative c (tenPow places) =
      finite negative (unitsOfDecimal c (-(places : Int))) h := by
  have hunits : unitsOfDecimal c (-(places : Int)) =
      nearestUnits (c * unitsPerOne) (tenPow places) := by
    rw [unitsOfDecimal, tenPow_toNat_neg, Nat.mul_one, Int.neg_neg, Int.toNat_natCast]
  have hbound : c * unitsPerOne ≤ twoPow 1124 * tenPow places := by
    have hdigits : tenPow 15 ≤ twoPow 50 := by decide +kernel
    have hsplit : twoPow 1124 = twoPow 50 * unitsPerOne := by rw [unitsPerOne, ← twoPow_add]
    rw [hsplit]
    calc c * unitsPerOne ≤ twoPow 50 * unitsPerOne :=
          Nat.mul_le_mul_right _ (Nat.le_trans (Nat.le_of_lt hfew) hdigits)
      _ ≤ twoPow 50 * unitsPerOne * tenPow places := Nat.le_mul_of_pos_right _ (tenPow_pos _)
  obtain ⟨units, h, heq, -⟩ := ofUnitRatio_le negative (tenPow_pos places) hbound
    (representable_twoPow (by decide))
  have hfinite : (ofUnitRatio negative (c * unitsPerOne) (tenPow places)).isFinite := by
    rw [heq]
    rfl
  rw [hunits]
  exact Binary64.eq_finite_of_isFinite hfinite

/-- A decimal of at least a ten-thousandth is read as a number of more than `2 ^ 52` units. -/
theorem lt_unitsOfDecimal (h : tenPow places ≤ c * tenPow 4) :
    twoPow 52 < unitsOfDecimal c (-(places : Int)) := by
  have hquot : unitsPerOne / tenPow 4 ≤ c * unitsPerOne / tenPow places := by
    rw [Nat.le_div_iff_mul_le (tenPow_pos places)]
    calc unitsPerOne / tenPow 4 * tenPow places ≤ unitsPerOne / tenPow 4 * (c * tenPow 4) :=
          Nat.mul_le_mul_left _ h
      _ = c * (unitsPerOne / tenPow 4 * tenPow 4) := by rw [Nat.mul_left_comm]
      _ ≤ c * unitsPerOne := Nat.mul_le_mul_left _ (Nat.div_mul_le_self _ _)
  have hmany : 2 * twoPow 52 < unitsPerOne / tenPow 4 := by decide +kernel
  have hround := div_le_two_mul_nearestUnits (c * unitsPerOne) (tenPow places)
  rw [unitsOfDecimal, tenPow_toNat_neg, Nat.mul_one, Int.neg_neg, Int.toNat_natCast]
  omega

end Binary64

namespace Pint

open Binary64

/-- **Places that are counted.** Of a decimal of up to fifteen digits, the last of them behind the
point and not zero, all places are counted if it is at least a ten-thousandth, and else none,
whatever zeros are written after it. -/
theorem shownPlaces_ofDecimal {c places : Nat} (negative : Bool) (zeros : Nat)
    (hfew : c < tenPow 15) (hlast : c % 10 ≠ 0) (hplaces : 0 < places) :
    shownPlaces (ofDecimal negative (c * tenPow zeros) (-((places + zeros : Nat) : Int))) =
      if c * tenPow 4 < tenPow places then 0 else places := by
  have hpos : 0 < c := Nat.pos_of_ne_zero fun hzero => hlast (by rw [hzero])
  have hlimit : c * tenPow zeros < tenPow (places + zeros + 300) := by
    calc c * tenPow zeros < tenPow 15 * tenPow zeros :=
          Nat.mul_lt_mul_of_pos_right hfew (tenPow_pos _)
      _ = tenPow (15 + zeros) := (tenPow_add _ _).symm
      _ ≤ tenPow (places + zeros + 300) := tenPow_le_tenPow (by omega)
  have hwritten : ofRatio negative (c * tenPow zeros) (tenPow (places + zeros)) =
      ofRatio negative c (tenPow places) := by
    refine ofRatio_congr (tenPow_pos _) (tenPow_pos _) ?_ negative
    rw [tenPow_add, Nat.mul_assoc, Nat.mul_comm (tenPow zeros)]
  rcases ofDecimal_of_lt negative hlimit with hread | ⟨hread, hsmall⟩
  · obtain ⟨hunits, hfinite⟩ := ofRatio_eq_finite negative places hfew
    rw [hread, hwritten, hfinite]
    by_cases hmany : twoPow 52 < unitsOfDecimal c (-(places : Int))
    · obtain ⟨d, k, hdigits, hvalue⟩ := shortestDigits_of_reads hmany hfew rfl
      rw [shownPlaces_finite hunits (not_whole_of_reads hfew hlast hplaces hmany rfl), hdigits,
        digitsOfDecimal_eq hlast hvalue]
      exact placesInText_text hpos hfew hplaces
    · rw [shownPlaces_of_le hunits (Nat.le_of_not_lt hmany),
        if_pos (Nat.lt_of_not_le fun h => hmany (lt_unitsOfDecimal h))]
  · have hsmall : c * tenPow 4 < tenPow places := by
      rw [tenPow_add, Nat.mul_right_comm, Nat.mul_lt_mul_right (tenPow_pos zeros)] at hsmall
      exact Nat.lt_of_le_of_lt (Nat.mul_le_mul_left c (tenPow_le_tenPow (by decide))) hsmall
    rw [hread, if_pos hsmall]
    rcases ofRatio_whole negative 0 with h | h
    · rw [h]
      exact shownPlaces_infinite negative
    · exact shownPlaces_of_isWhole h

end Pint

end InvoiceReadiness
