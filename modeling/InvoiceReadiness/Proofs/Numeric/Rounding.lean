import InvoiceReadiness.Numeric.Percent
import InvoiceReadiness.Numeric.Number

/-!
# Bounds of rounded numbers

Rounding to the nearest number of 53 significant bits passes no number that has so
few bits itself: what lies below such a bound is rounded to something below it. This
is why an operation on amounts of a reasonable size is finite, and why a share is
never more than a hundred percent.

## Main results

* `Binary64.nearestUnits_le` — rounding stays below a representable bound.
* `Binary64.ofInt_isFinite` — whole numbers of a reasonable size have a nearest
  finite number.
* `Binary64.natAbs_lt_of_isFinite` — whole numbers beyond the range have none.
* `Binary64.percent_le_hundred` — a share is at most a hundred percent.
* `Binary64.percent_eq_hundred_iff` — of up to `2 ^ 52` only the whole is that much.
* `Binary64.ofRatio_congr` — equal quotients are rounded alike.
-/

namespace InvoiceReadiness

/-- Rounding a quotient to a whole number passes no whole number. -/
theorem roundHalfEven_le_of_le_mul {num den n : Nat} (hden : 0 < den)
    (h : num ≤ n * den) : roundHalfEven num den ≤ n := by
  rcases Nat.lt_or_eq_of_le h with hlt | rfl
  · have hquot : num / den < n := (Nat.div_lt_iff_lt_mul hden).2 hlt
    have hround := roundHalfEven_le num den
    omega
  · exact Nat.le_of_eq (roundHalfEven_mul n hden)

theorem roundHalfEven_mul_left {factor : Nat} (hfactor : 0 < factor) (num den : Nat) :
    roundHalfEven (factor * num) (factor * den) = roundHalfEven num den := by
  have hbelow : 2 * (factor * (num % den)) < factor * den ↔ 2 * (num % den) < den := by
    rw [Nat.mul_left_comm]
    exact Nat.mul_lt_mul_left hfactor
  have habove : factor * den < 2 * (factor * (num % den)) ↔ den < 2 * (num % den) := by
    rw [Nat.mul_left_comm]
    exact Nat.mul_lt_mul_left hfactor
  simp only [roundHalfEven, Nat.mul_div_mul_left _ _ hfactor, Nat.mul_mod_mul_left, hbelow, habove]

theorem log2_le_log2 {m n : Nat} (h : m ≤ n) : m.log2 ≤ n.log2 := by
  by_cases hm : m = 0
  · subst hm
    exact Nat.zero_le _
  · exact (Nat.le_log2 (by omega)).2 (Nat.le_trans (Nat.log2_self_le hm) h)

namespace Binary64

/-- Rounding passes no count of units that 53 significant bits can hold. -/
theorem nearestUnits_le {num den bound : Nat} (hden : 0 < den) (h : num ≤ bound * den)
    (hbound : twoPow (bound.log2 - 52) ∣ bound) : nearestUnits num den ≤ bound := by
  have hquot : num / den ≤ bound := Nat.div_le_of_le_mul (by rwa [Nat.mul_comm])
  have hlog := log2_le_log2 hquot
  -- The weight of the last bit kept divides that of the bound.
  obtain ⟨count, hcount⟩ := Nat.dvd_trans (twoPow_dvd_twoPow (Nat.sub_le_sub_right hlog 52)) hbound
  unfold nearestUnits
  dsimp only
  generalize hstep : twoPow ((num / den).log2 - 52) = step at hcount ⊢
  have hpos : 0 < step := hstep ▸ twoPow_pos _
  have hround : roundHalfEven num (den * step) ≤ count := by
    refine roundHalfEven_le_of_le_mul (Nat.mul_pos hden hpos) ?_
    calc num ≤ bound * den := h
      _ = count * (den * step) := by rw [hcount, Nat.mul_comm step, Nat.mul_assoc,
            Nat.mul_comm step]
  calc roundHalfEven num (den * step) * step ≤ count * step :=
        Nat.mul_le_mul_right step hround
    _ = bound := by rw [hcount, Nat.mul_comm]

/-- Rounding leaves a count of units that 53 significant bits can hold as it is. -/
theorem nearestUnits_mul {den units : Nat} (hden : 0 < den)
    (hunits : twoPow (units.log2 - 52) ∣ units) : nearestUnits (units * den) den = units := by
  obtain ⟨count, hcount⟩ := hunits
  unfold nearestUnits
  dsimp only
  rw [Nat.mul_div_cancel _ hden]
  generalize hstep : twoPow (units.log2 - 52) = step at hcount ⊢
  have hpos : 0 < step := hstep ▸ twoPow_pos _
  have hsplit : units * den = count * (den * step) := by
    rw [hcount, Nat.mul_comm step, Nat.mul_assoc, Nat.mul_comm step]
  rw [hsplit, roundHalfEven_mul _ (Nat.mul_pos hden hpos), hcount, Nat.mul_comm]

/-- A quotient below a representable bound has a nearest finite number below it. -/
theorem ofUnitRatio_le (negative : Bool) {num den bound : Nat} (hden : 0 < den)
    (h : num ≤ bound * den) (hbound : Representable bound) :
    ∃ units hunits, ofUnitRatio negative num den = finite negative units hunits ∧
      units ≤ bound := by
  have hle := nearestUnits_le hden h hbound.2
  have hlt : nearestUnits num den < unitsBound := Nat.lt_of_le_of_lt hle hbound.1
  refine ⟨_, representable_nearestUnits num den hlt, ?_, hle⟩
  rw [ofUnitRatio, dif_pos hlt]

/-- A representable quotient is not rounded. -/
theorem ofUnitRatio_mul (negative : Bool) {den units : Nat} (hden : 0 < den)
    (h : Representable units) : ofUnitRatio negative (units * den) den = finite negative units h := by
  have hunits : nearestUnits (units * den) den = units := nearestUnits_mul hden h.2
  have hlt : nearestUnits (units * den) den < unitsBound := by
    rw [hunits]
    exact h.1
  rw [ofUnitRatio, dif_pos hlt]
  exact (finite.injEq ..).mpr ⟨rfl, hunits⟩

/-- A representable whole number is its own nearest number. -/
theorem ofInt_natCast {n : Nat} (h : Representable (n * unitsPerOne)) :
    ofInt n = finite false (n * unitsPerOne) h := by
  have hsign : decide ((n : Int) < 0) = false := decide_eq_false (by omega)
  have hexact := ofUnitRatio_mul false Nat.one_pos h
  rw [Nat.mul_one] at hexact
  rw [ofInt, hsign, Int.natAbs_natCast, ofRatio, hexact]

/-- Up to 53 bits of any weight in the range of the format are representable. -/
theorem representable_mul_twoPow {m bits s : Nat} (hm : m < twoPow bits) (hbits : bits ≤ 53)
    (hs : bits + s ≤ 2098) : Representable (m * twoPow s) := by
  have hle : ∀ {i j : Nat}, i ≤ j → twoPow i ≤ twoPow j := fun hij =>
    Nat.le_of_dvd (twoPow_pos _) (twoPow_dvd_twoPow hij)
  refine ⟨?_, twoPow_dvd_mul_twoPow (Nat.lt_of_lt_of_le hm (hle hbits))⟩
  calc m * twoPow s < twoPow bits * twoPow s := Nat.mul_lt_mul_of_pos_right hm (twoPow_pos s)
    _ = twoPow (bits + s) := (twoPow_add bits s).symm
    _ ≤ unitsBound := hle hs

/-- Whole numbers of up to 53 bits are representable. -/
theorem representable_mul_unitsPerOne {m bits : Nat} (hm : m < twoPow bits) (hbits : bits ≤ 53) :
    Representable (m * unitsPerOne) := by
  rw [unitsPerOne]
  exact representable_mul_twoPow hm hbits (by omega)

/-- A power of two in the range of the format is representable. -/
theorem representable_twoPow {n : Nat} (h : n < 2098) : Representable (twoPow n) := by
  have hone : 1 < twoPow 1 := by decide
  rw [← Nat.one_mul (twoPow n)]
  exact representable_mul_twoPow hone (by omega) (by omega)

/-- Whole numbers up to `2 ^ 1023` have a nearest finite number. -/
theorem ofInt_isFinite {n : Int} (h : n.natAbs ≤ twoPow 1023) : (ofInt n).isFinite := by
  have hunits : n.natAbs * unitsPerOne ≤ twoPow 2097 * 1 := by
    have hsplit : twoPow 2097 = twoPow 1023 * unitsPerOne := by
      rw [unitsPerOne, ← twoPow_add]
    rw [Nat.mul_one, hsplit]
    exact Nat.mul_le_mul_right unitsPerOne h
  obtain ⟨units, hunits, heq, -⟩ :=
    ofUnitRatio_le (n < 0) Nat.one_pos hunits (representable_twoPow (by decide))
  rw [ofInt, ofRatio, heq]
  rfl

theorem ofInt?_eq_ok {n : Int} (h : n.natAbs ≤ twoPow 1023) :
    ofInt? n = .ok (ofInt n) := by
  rw [ofInt?, if_pos (ofInt_isFinite h)]

/-! ## Whole numbers out of range -/

/-- Rounding takes less than half of a quotient away. -/
theorem div_le_two_mul_nearestUnits (num den : Nat) : num / den ≤ 2 * nearestUnits num den := by
  by_cases hzero : num / den = 0
  · rw [hzero]
    exact Nat.zero_le _
  unfold nearestUnits
  dsimp only
  generalize hstep : twoPow ((num / den).log2 - 52) = step
  have hpos : 0 < step := hstep ▸ twoPow_pos _
  have hle : step ≤ num / den := by
    have hself : twoPow (num / den).log2 ≤ num / den := Nat.log2_self_le hzero
    rw [← hstep]
    exact Nat.le_trans (Nat.le_of_dvd (twoPow_pos _) (twoPow_dvd_twoPow (Nat.sub_le _ _))) hself
  have hround : num / den / step ≤ roundHalfEven num (den * step) := by
    rw [Nat.div_div_eq_div_mul]
    exact le_roundHalfEven _ _
  have hone : 1 ≤ num / den / step := (Nat.one_le_div_iff hpos).2 hle
  have hsplit := Nat.div_add_mod (num / den) step
  have hrest := Nat.mod_lt (num / den) hpos
  have hkept : step * (num / den / step) ≤ roundHalfEven num (den * step) * step := by
    rw [Nat.mul_comm]
    exact Nat.mul_le_mul_right step hround
  have hfirst : step * 1 ≤ step * (num / den / step) := Nat.mul_le_mul_left step hone
  omega

/-- A whole number with a nearest finite number is in the range of the format. -/
theorem natAbs_lt_of_isFinite {n : Int} (h : (ofInt n).isFinite) :
    n.natAbs < 2 * unitsBound := by
  have hunits : nearestUnits (n.natAbs * unitsPerOne) 1 < unitsBound := by
    unfold ofInt ofRatio ofUnitRatio at h
    split at h
    · assumption
    · cases h
  have hround := div_le_two_mul_nearestUnits (n.natAbs * unitsPerOne) 1
  have hwhole : n.natAbs * 1 ≤ n.natAbs * unitsPerOne :=
    Nat.mul_le_mul_left _ (twoPow_pos 1074)
  rw [Nat.div_one] at hround
  omega

/-! ## Shares -/

theorem representable_one : Representable unitsPerOne := representable_twoPow (by decide)

/-- A part is at most the whole. -/
theorem ofRatio_le_one {part whole : Nat} (hwhole : 0 < whole) (h : part ≤ whole) :
    ∃ units hunits, ofRatio false part whole = finite false units hunits ∧
      units ≤ unitsPerOne := by
  refine ofUnitRatio_le false hwhole ?_ representable_one
  rw [Nat.mul_comm]
  exact Nat.mul_le_mul_left unitsPerOne h

theorem representable_hundred : Representable (100 * unitsPerOne) := by
  have hseven : 100 < twoPow 7 := by decide
  exact representable_mul_unitsPerOne hseven (by omega)

theorem hundred_eq : hundred = finite false (100 * unitsPerOne) representable_hundred :=
  ofInt_natCast representable_hundred

/-- A part of a whole is between zero and a hundred percent. -/
theorem percent_le_hundred {part whole : Nat} (h : part ≤ whole) :
    ∃ units hunits, percent part whole = finite false units hunits ∧
      units ≤ 100 * unitsPerOne := by
  unfold percent
  split
  · exact ⟨_, representable_hundred, hundred_eq, Nat.le_refl _⟩
  · rename_i hwhole
    have hpos : 0 < whole := Nat.pos_of_ne_zero (by simpa using hwhole)
    obtain ⟨units, hunits, heq, hle⟩ := ofRatio_le_one hpos h
    rw [heq, hundred_eq]
    refine ofUnitRatio_le false unitsPerOne_pos ?_ representable_hundred
    rw [Nat.mul_comm]
    exact Nat.mul_le_mul_left (100 * unitsPerOne) hle

/-- The whole is one part of itself. -/
theorem ofRatio_self {whole : Nat} (hwhole : 0 < whole) :
    ofRatio false whole whole = finite false unitsPerOne representable_one := by
  rw [ofRatio, Nat.mul_comm]
  exact ofUnitRatio_mul false hwhole representable_one

/-- The largest number below one whose distance is a part in `2 ^ 52`. -/
def belowOne : Nat := unitsPerOne - twoPow 1022

theorem unitsPerOne_split : unitsPerOne = twoPow 52 * twoPow 1022 := twoPow_add 52 1022

theorem representable_belowOne : Representable belowOne := by
  have hfits : twoPow 52 - 1 < twoPow 52 := by decide
  rw [belowOne, unitsPerOne_split, ← Nat.sub_one_mul]
  exact representable_mul_twoPow hfits (by omega) (by omega)

/-- The largest number of 53 significant bits below one hundred. -/
def belowHundred : Nat := 100 * unitsPerOne - twoPow 1028

theorem representable_belowHundred : Representable belowHundred := by
  have hsplit : unitsPerOne = twoPow 46 * twoPow 1028 := twoPow_add 46 1028
  have hfits : 100 * twoPow 46 - 1 < twoPow 53 := by decide
  rw [belowHundred, hsplit, ← Nat.mul_assoc, ← Nat.sub_one_mul]
  exact representable_mul_twoPow hfits (by omega) (by omega)

/-- Below one hundred there is room for all that is below one, a hundred times. -/
theorem belowOne_mul_hundred_le : belowOne * 100 ≤ belowHundred := by
  have hsplit : twoPow 1028 = twoPow 6 * twoPow 1022 := twoPow_add 6 1022
  have hsix : twoPow 6 = 64 := rfl
  rw [belowOne, belowHundred, hsplit, hsix]
  omega

/-- A part that is not the whole of up to `2 ^ 52` is less than a hundred percent. -/
theorem percent_lt_hundred {part whole : Nat} (h : part < whole) (hwhole : whole ≤ twoPow 52) :
    ∃ units hunits, percent part whole = finite false units hunits ∧
      units ≤ belowHundred := by
  have hpos : 0 < whole := Nat.zero_lt_of_lt h
  have hshare : part * unitsPerOne ≤ belowOne * whole := by
    have hunit : whole * twoPow 1022 ≤ unitsPerOne := by
      rw [unitsPerOne_split]
      exact Nat.mul_le_mul_right (twoPow 1022) hwhole
    have hpart : (part + 1) * unitsPerOne ≤ whole * unitsPerOne :=
      Nat.mul_le_mul_right unitsPerOne h
    rw [belowOne, Nat.sub_mul, Nat.mul_comm unitsPerOne whole, Nat.mul_comm (twoPow 1022) whole]
    rw [Nat.add_mul, Nat.one_mul] at hpart
    omega
  obtain ⟨units, hunits, heq, hle⟩ := ofUnitRatio_le false hpos hshare representable_belowOne
  have hprod : units * (100 * unitsPerOne) ≤ belowHundred * unitsPerOne := by
    calc units * (100 * unitsPerOne) = units * 100 * unitsPerOne := (Nat.mul_assoc _ _ _).symm
      _ ≤ belowOne * 100 * unitsPerOne :=
          Nat.mul_le_mul_right unitsPerOne (Nat.mul_le_mul_right 100 hle)
      _ ≤ belowHundred * unitsPerOne := Nat.mul_le_mul_right unitsPerOne belowOne_mul_hundred_le
  have hne : ¬(whole == 0) = true := by
    rw [beq_iff_eq]
    omega
  rw [percent, if_neg hne, ofRatio, heq, hundred_eq]
  exact ofUnitRatio_le false unitsPerOne_pos hprod representable_belowHundred

/-- Of up to `2 ^ 52` the whole and nothing else is a hundred percent. -/
theorem percent_eq_hundred_iff {part whole : Nat} (h : part ≤ whole)
    (hwhole : whole ≤ twoPow 52) : percent part whole = hundred ↔ part = whole := by
  constructor
  · intro hrate
    by_cases hlt : part < whole
    · obtain ⟨units, hunits, heq, hle⟩ := percent_lt_hundred hlt hwhole
      rw [heq, hundred_eq, finite.injEq] at hrate
      have hgap : 0 < twoPow 1028 := twoPow_pos 1028
      have hone : 0 < unitsPerOne := unitsPerOne_pos
      rw [belowHundred] at hle
      omega
    · omega
  · rintro rfl
    rw [percent]
    split
    · rfl
    · rename_i hne
      rw [ofRatio_self (Nat.pos_of_ne_zero (by simpa using hne)), hundred_eq, mul, Nat.mul_comm]
      exact ofUnitRatio_mul false unitsPerOne_pos representable_hundred

/-! ## Equal quotients -/

theorem nearestUnits_mul_left {factor : Nat} (hfactor : 0 < factor) (num den : Nat) :
    nearestUnits (factor * num) (factor * den) = nearestUnits num den := by
  unfold nearestUnits
  dsimp only
  rw [Nat.mul_div_mul_left _ _ hfactor, Nat.mul_assoc, roundHalfEven_mul_left hfactor]

theorem ofRatio_mul_left {factor : Nat} (hfactor : 0 < factor) (negative : Bool)
    (num den : Nat) : ofRatio negative (factor * num) (factor * den) = ofRatio negative num den := by
  have hunits := nearestUnits_mul_left hfactor (num * unitsPerOne) den
  rw [← Nat.mul_assoc] at hunits
  simp only [ofRatio, ofUnitRatio, hunits]

/-- Equal quotients are rounded alike. -/
theorem ofRatio_congr {num den num' den' : Nat} (hden : 0 < den) (hden' : 0 < den')
    (h : num * den' = num' * den) (negative : Bool) :
    ofRatio negative num den = ofRatio negative num' den' := by
  rw [← ofRatio_mul_left hden' negative num den, ← ofRatio_mul_left hden negative num' den',
    Nat.mul_comm den', Nat.mul_comm den, h, Nat.mul_comm den']

end Binary64

end InvoiceReadiness
