import InvoiceReadiness.Proofs.Numeric.Bounded
import InvoiceReadiness.Proofs.Numeric.Nearness
import InvoiceReadiness.Proofs.Numeric.Ordering
import InvoiceReadiness.Proofs.Scoring.Severities

/-!
# Health

The health of a risk among invoices is one hundred less twice the risk per invoice, brought to
a whole number between zero and a hundred. It is computed in binary64, where the quotient is
rounded, doubled without rounding, and taken from one hundred with another rounding, before
the result is rounded to a whole number. The double of the quotient has to be in range
(`InRange`), or there is no health.

By exact division only the last of these steps rounds. Its result is another one at most where
the exact difference is next to a half. Where it is a half, all steps before are exact, since
the quotient is a number of quarters then. Where it is not, it is away from one by a part of the
invoices at least. So among up to `2 ^ 44` invoices both are the same.

## Main results

* `Binary64.round?_sub` — the whole number next to a computed difference.
* `healthOf_eq` — the health that is computed.
* `abs_nearestUnits_kept_sub_lt` — how far its roundings are off at most.
* `roundedHealth_eq_exactHealth` — it is the exact one among up to `2 ^ 44` invoices.
-/

namespace InvoiceReadiness

/-! ## Rounding with a sign -/

/-- A rounding of magnitudes, for numbers of either sign. -/
def withSign (f : Nat → Nat) (n : Int) : Int :=
  if n < 0 then -(f n.natAbs : Int) else f n.natAbs

theorem withSign_mono {f : Nat → Nat} (hf : ∀ {m n}, m ≤ n → f m ≤ f n) {m n : Int}
    (h : m ≤ n) : withSign f m ≤ withSign f n := by
  unfold withSign
  split <;> split
  · have habs := hf (show n.natAbs ≤ m.natAbs by omega)
    omega
  · omega
  · omega
  · have habs := hf (show m.natAbs ≤ n.natAbs by omega)
    omega

theorem withSign_natCast (f : Nat → Nat) (n : Nat) : withSign f n = f n := by
  rw [withSign, if_neg (by omega), Int.natAbs_natCast]

theorem roundHalfEven_zero {den : Nat} (hden : 0 < den) : roundHalfEven 0 den = 0 := by
  simpa using roundHalfEven_mul 0 hden

/-- Equal quotients are rounded alike. -/
theorem roundHalfEven_congr {num den num' den' : Nat} (hden : 0 < den) (hden' : 0 < den')
    (h : num * den' = num' * den) : roundHalfEven num den = roundHalfEven num' den' :=
  Nat.le_antisymm (roundHalfEven_le_roundHalfEven hden hden' (Nat.le_of_eq h))
    (roundHalfEven_le_roundHalfEven hden' hden (Nat.le_of_eq h.symm))

namespace Binary64

/-- The whole number next to a sum of units, which is rounded twice. -/
def wholeOfUnits (units : Nat) : Nat := roundHalfEven (nearestUnits units 1) unitsPerOne

theorem wholeOfUnits_mono {m n : Nat} (h : m ≤ n) : wholeOfUnits m ≤ wholeOfUnits n :=
  roundHalfEven_mono (nearestUnits_mono Nat.one_pos h)

theorem wholeOfUnits_zero : wholeOfUnits 0 = 0 := by
  have hnone : nearestUnits (0 * 1) 1 = 0 := nearestUnits_mul Nat.one_pos (Nat.dvd_zero _)
  rw [Nat.zero_mul] at hnone
  rw [wholeOfUnits, hnone, roundHalfEven_zero unitsPerOne_pos]

/-- Both roundings go by magnitude. -/
theorem round?_ofSignedUnits (zeroNegative : Bool) {units : Int}
    (h : nearestUnits units.natAbs 1 < unitsBound) :
    (ofSignedUnits zeroNegative units).round? = some (withSign wholeOfUnits units) := by
  rw [ofSignedUnits, ofUnitRatio, dif_pos h, round?, Option.some.injEq, withSign, wholeOfUnits]
  by_cases hzero : units = 0
  · subst hzero
    have hround : roundHalfEven (nearestUnits (0 : Int).natAbs 1) unitsPerOne = 0 :=
      wholeOfUnits_zero
    simp only [hround]
    cases zeroNegative <;> rfl
  · rw [if_neg hzero]
    simp only [decide_eq_true_eq]

/-- Twice a count of units has no more significant bits. -/
theorem dvd_two_mul {units : Nat} (h : twoPow (units.log2 - 52) ∣ units) :
    twoPow ((2 * units).log2 - 52) ∣ 2 * units := by
  by_cases hzero : units = 0
  · rw [hzero]
    exact Nat.dvd_zero _
  rw [Nat.log2_two_mul hzero]
  by_cases hbits : 52 ≤ units.log2
  · have hone : twoPow 1 = 2 := rfl
    rw [Nat.sub_add_comm hbits, twoPow_add, hone, Nat.mul_comm]
    exact Nat.mul_dvd_mul_left 2 h
  · rw [Nat.sub_eq_zero_of_le (by omega)]
    exact Nat.one_dvd _

theorem representable_two_mul {units : Nat} (h : Representable units)
    (hlt : 2 * units < unitsBound) : Representable (2 * units) :=
  ⟨hlt, dvd_two_mul h.2⟩

theorem mul_two_eq {units : Nat} (h : Representable units) :
    (finite false units h).mul (ofInt 2) =
      ofUnitRatio false (2 * units * unitsPerOne) unitsPerOne := by
  have htwo : ofInt 2 = finite false (2 * unitsPerOne) representable_wholeUnits_two :=
    ofInt_natCast representable_wholeUnits_two
  rw [htwo, mul, bne_self_eq_false, ← Nat.mul_assoc, Nat.mul_comm units]

/-- A number is doubled without rounding. -/
theorem mul_two_of_lt {units : Nat} (h : Representable units) (hlt : 2 * units < unitsBound) :
    (finite false units h).mul (ofInt 2) =
      finite false (2 * units) (representable_two_mul h hlt) :=
  (mul_two_eq h).trans (ofUnitRatio_mul false unitsPerOne_pos _)

/-- The double of a number may be out of range. -/
theorem mul_two_of_not_lt {units : Nat} (h : Representable units)
    (hlt : ¬2 * units < unitsBound) : (finite false units h).mul (ofInt 2) = infinite false := by
  rw [mul_two_eq, ofUnitRatio, dif_neg]
  rwa [nearestUnits_mul unitsPerOne_pos (dvd_two_mul h.2)]

/-- The whole number next to a difference of two numbers without a sign. -/
theorem round?_sub {u v : Nat} (hu : Representable u) (hv : Representable v) :
    ((finite false u hu).sub (finite false v hv)).round? =
      some (withSign wholeOfUnits (u - v : Int)) := by
  have hsub : (finite false u hu).sub (finite false v hv) = ofSignedUnits false (u - v : Int) :=
    rfl
  rw [hsub]
  refine round?_ofSignedUnits false ?_
  rcases Nat.le_total u v with hle | hle
  · have hgap : (u - v : Int).natAbs ≤ v * 1 := by omega
    exact Nat.lt_of_le_of_lt (nearestUnits_le Nat.one_pos hgap hv.2) hv.1
  · have hgap : (u - v : Int).natAbs ≤ u * 1 := by omega
    exact Nat.lt_of_le_of_lt (nearestUnits_le Nat.one_pos hgap hu.2) hu.1

end Binary64

namespace Number

theorem whole_div_whole_eq (part whole : Nat) : (Number.whole part).div (.whole whole) =
    if (Binary64.ofRatio false part whole).isFinite then
      .ok (.float (.ofRatio false part whole)) else .error .numberTooLarge := by
  have hpart : decide ((part : Int) < 0) = false := decide_eq_false (by omega)
  have hwhole : decide ((whole : Int) < 0) = false := decide_eq_false (by omega)
  rw [div, hpart, hwhole, Int.natAbs_natCast, Int.natAbs_natCast, bne_self_eq_false]

theorem float_mul_two (x : Binary64) :
    (float x).mul (.whole 2) = .ok (float (x.mul (.ofInt 2))) := by
  have htwo : Binary64.ofInt? 2 = .ok (.ofInt 2) := Binary64.ofInt?_eq_ok (by decide +kernel)
  exact Result.bind_eq_ok.2 ⟨x, rfl, Result.bind_eq_ok.2 ⟨.ofInt 2, htwo, rfl⟩⟩

theorem hundred_sub_float (x : Binary64) :
    (whole 100).sub (float x) = .ok (float (Binary64.hundred.sub x)) := by
  have hhundred : Binary64.ofInt? 100 = .ok .hundred :=
    Binary64.ofInt?_eq_ok (by decide +kernel)
  exact Result.bind_eq_ok.2 ⟨.hundred, hhundred, Result.bind_eq_ok.2 ⟨x, rfl, rfl⟩⟩

end Number

namespace Scoring

/-! ## Health that is computed -/

/-- The units of twice the risk per invoice. -/
def lostUnits (risk invoices : Nat) : Nat :=
  2 * Binary64.nearestUnits (risk * unitsPerOne) invoices

/-- Twice the risk per invoice is a number in the range of binary64. -/
def InRange (risk invoices : Nat) : Prop := lostUnits risk invoices < unitsBound

instance (risk invoices : Nat) : Decidable (InRange risk invoices) :=
  inferInstanceAs (Decidable (_ < _))

/-- The health of a risk among invoices as it is computed, with a rounding after each
operation. -/
def roundedHealth (risk invoices : Nat) : Int :=
  clampPercent (withSign Binary64.wholeOfUnits
    ((100 * unitsPerOne : Nat) - lostUnits risk invoices : Int))

theorem healthOf_eq (severities : List Severity) {invoices : Nat} (hinvoices : 0 < invoices) :
    healthOf severities (.whole invoices) =
      if InRange (risk severities) invoices then .ok (roundedHealth (risk severities) invoices)
      else .error .numberTooLarge := by
  have hnonzero : (!(Number.whole invoices).isNonzero) = false := by
    simp [Number.isNonzero]
    omega
  have hrun : healthOf severities (.whole invoices) = (do
      let perInvoice ← (Number.whole (risk severities)).div (.whole invoices)
      let lost ← perInvoice.mul (.whole 2)
      return clampPercent (← nearestWhole (← (Number.whole 100).sub lost))) := by
    rw [healthOf, hnonzero]
    rfl
  rw [hrun, Number.whole_div_whole_eq]
  split
  · rename_i hfinite
    obtain ⟨hunits, heq⟩ := Binary64.eq_finite_of_isFinite hfinite
    rw [Binary64.ofRatio, heq, Result.ok_bind, Number.float_mul_two, Result.ok_bind,
      Number.hundred_sub_float, Result.ok_bind, Binary64.hundred_eq]
    by_cases hrange : InRange (risk severities) invoices
    · rw [if_pos hrange, Binary64.mul_two_of_lt hunits hrange, nearestWhole, Binary64.round?_sub]
      rfl
    · rw [if_neg hrange, Binary64.mul_two_of_not_lt hunits hrange]
      rfl
  · rename_i hinfinite
    have hrange : ¬InRange (risk severities) invoices := by
      intro hrange
      have hlt : Binary64.nearestUnits (risk severities * unitsPerOne) invoices < unitsBound :=
        Nat.lt_of_le_of_lt (Nat.le_mul_of_pos_left _ (by decide)) hrange
      rw [Binary64.ofRatio, Binary64.ofUnitRatio, dif_pos hlt] at hinfinite
      exact hinfinite rfl
    rw [if_neg hrange]
    rfl

/-! ## Health by exact division -/

/-- The health of a risk among invoices by exact division: only the last step rounds. -/
def exactHealth (risk invoices : Nat) : Int :=
  clampPercent (withSign (fun n => roundHalfEven n invoices)
    ((100 * invoices : Nat) - (2 * risk : Nat) : Int))

theorem clampPercent_mono {m n : Int} (h : m ≤ n) : clampPercent m ≤ clampPercent n := by
  unfold clampPercent
  omega

theorem clampPercent_of_nonpos {n : Int} (h : n ≤ 0) : clampPercent n = 0 := by
  unfold clampPercent
  omega

/-- Nothing is left of a hundred if as much is lost. -/
theorem clampPercent_withSign_of_le {f : Nat → Nat} (hf : ∀ {m n}, m ≤ n → f m ≤ f n)
    (hzero : f 0 = 0) {m n : Nat} (h : m ≤ n) : clampPercent (withSign f (m - n : Int)) = 0 := by
  apply clampPercent_of_nonpos
  calc withSign f (m - n : Int) ≤ withSign f (0 : Nat) := withSign_mono hf (by omega)
    _ = 0 := by rw [withSign_natCast, hzero]; rfl

variable {risk invoices : Nat}

/-- As long as less than a hundred is lost, the computed share is at most fifty. -/
theorem nearestUnits_le_fifty (hinvoices : 0 < invoices) (h : risk ≤ 50 * invoices) :
    Binary64.nearestUnits (risk * unitsPerOne) invoices ≤ 50 * unitsPerOne := by
  have hfifty : 50 < twoPow 6 := by decide
  refine Binary64.nearestUnits_le hinvoices ?_
    (Binary64.representable_mul_unitsPerOne hfifty (by omega)).2
  rw [Nat.mul_right_comm]
  exact Nat.mul_le_mul_right unitsPerOne h

theorem fifty_le_nearestUnits (hinvoices : 0 < invoices) (h : 50 * invoices ≤ risk) :
    50 * unitsPerOne ≤ Binary64.nearestUnits (risk * unitsPerOne) invoices := by
  have hfifty : 50 < twoPow 6 := by decide
  have hunits := (Binary64.representable_mul_unitsPerOne hfifty (by omega)).2
  rw [← Binary64.nearestUnits_mul hinvoices hunits]
  refine Binary64.nearestUnits_mono hinvoices ?_
  rw [Nat.mul_right_comm]
  exact Nat.mul_le_mul_right unitsPerOne h

/-- The units of a quarter. -/
def quarterUnits : Nat := twoPow 1072

theorem unitsPerOne_eq_quarters : unitsPerOne = 4 * quarterUnits := by
  have hfour : twoPow 2 = 4 := rfl
  have hsplit : unitsPerOne = twoPow 2 * twoPow 1072 := twoPow_add 2 1072
  rwa [hfour, ← quarterUnits] at hsplit

/-- Numbers of quarters are not rounded. -/
theorem nearestUnits_quarters {count den : Nat} (hden : 0 < den) (h : count < 512) :
    Binary64.nearestUnits (count * quarterUnits * den) den = count * quarterUnits := by
  have hbits : count < twoPow 9 := h
  exact Binary64.nearestUnits_mul hden
    (Binary64.representable_mul_twoPow hbits (by omega) (by omega)).2

/-- A half is computed without any rounding but the last: there the share is a number of
quarters. -/
theorem wholeOfUnits_of_half (hinvoices : 0 < invoices) (hrisk : risk < 50 * invoices)
    (hhalf : 2 * ((100 * invoices - 2 * risk) % invoices) = invoices) :
    Binary64.wholeOfUnits (100 * unitsPerOne - lostUnits risk invoices) =
      roundHalfEven (100 * invoices - 2 * risk) invoices := by
  -- The quotient is half of an odd number, so four times the risk is a multiple of the invoices.
  obtain ⟨quarters, hquarters, hlt⟩ : ∃ t, 4 * risk = t * invoices ∧ t < 200 := by
    have hsplit := Nat.div_add_mod (100 * invoices - 2 * risk) invoices
    generalize (100 * invoices - 2 * risk) / invoices = below at hsplit
    have hbelow : below < 100 := by
      by_contra hge
      have hmul := Nat.mul_le_mul_left invoices (Nat.le_of_not_lt hge)
      omega
    have hrest : (199 - 2 * below) * invoices = 199 * invoices - 2 * (invoices * below) := by
      rw [Nat.sub_mul, Nat.mul_assoc, Nat.mul_comm below]
    exact ⟨199 - 2 * below, by omega, by omega⟩
  have hshare : Binary64.nearestUnits (risk * unitsPerOne) invoices = quarters * quarterUnits := by
    have hnum : risk * unitsPerOne = quarters * quarterUnits * invoices := by
      rw [unitsPerOne_eq_quarters, ← Nat.mul_assoc, Nat.mul_comm risk, hquarters,
        Nat.mul_right_comm]
    rw [hnum, nearestUnits_quarters hinvoices (by omega)]
  have hkept : 100 * unitsPerOne - lostUnits risk invoices =
      (400 - 2 * quarters) * quarterUnits * 1 := by
    rw [lostUnits, hshare, unitsPerOne_eq_quarters, Nat.mul_one, Nat.sub_mul, Nat.mul_assoc 2,
      ← Nat.mul_assoc 100]
  have hfour : (400 - 2 * quarters) * invoices = (100 * invoices - 2 * risk) * 4 := by
    rw [Nat.sub_mul, Nat.sub_mul, Nat.mul_assoc 2 quarters, ← hquarters]
    omega
  rw [Binary64.wholeOfUnits, hkept, nearestUnits_quarters Nat.one_pos (by omega)]
  refine roundHalfEven_congr unitsPerOne_pos hinvoices ?_
  rw [Nat.mul_right_comm, hfour, unitsPerOne_eq_quarters, Nat.mul_assoc]

theorem lostUnits_le_hundred (hinvoices : 0 < invoices) (h : risk ≤ 50 * invoices) :
    lostUnits risk invoices ≤ 100 * unitsPerOne := by
  have hshare := nearestUnits_le_fifty hinvoices h
  rw [lostUnits]
  omega

theorem mul_unitsPerOne_lt {count bits : Nat} (h : count < twoPow bits) :
    count * unitsPerOne < twoPow (bits + 1074) := by
  rw [twoPow_add]
  exact Nat.mul_lt_mul_of_pos_right h unitsPerOne_pos

/-- The rounded quotient is off by half a bit at most, where the share is below sixty-four. -/
theorem abs_lostUnits_sub_le (hinvoices : 0 < invoices) (hrisk : risk < 50 * invoices) :
    |(lostUnits risk invoices : ℚ) * invoices - 2 * risk * unitsPerOne| ≤
      invoices * twoPow 1027 := by
  have hsixty : 50 * unitsPerOne < twoPow (6 + 1074) := mul_unitsPerOne_lt (by decide)
  have hshare : risk * unitsPerOne / invoices ≤ 50 * unitsPerOne := by
    refine Nat.div_le_of_le_mul ?_
    rw [← Nat.mul_assoc, Nat.mul_comm invoices]
    exact Nat.mul_le_mul_right unitsPerOne (Nat.le_of_lt hrisk)
  have hnear : |(Binary64.nearestUnits (risk * unitsPerOne) invoices : ℚ) * invoices -
      (risk * unitsPerOne : Nat)| * 2 ≤ invoices * twoPow 1027 :=
    Binary64.abs_nearestUnits_sub_le hinvoices (Nat.lt_of_le_of_lt hshare hsixty)
  have hdouble : (lostUnits risk invoices : ℚ) * invoices - 2 * risk * unitsPerOne =
      (Binary64.nearestUnits (risk * unitsPerOne) invoices * invoices -
        (risk * unitsPerOne : Nat)) * 2 := by
    rw [lostUnits]
    push_cast
    ring
  rw [hdouble, abs_mul, abs_two]
  exact hnear

/-- So is what is left of a hundred, which is below one hundred and twenty-eight. -/
theorem abs_nearestUnits_sub_le_of_le_hundred {kept : Nat} (h : kept ≤ 100 * unitsPerOne) :
    |(Binary64.nearestUnits kept 1 : ℚ) - kept| ≤ twoPow 1027 := by
  have hhundred : 100 * unitsPerOne < twoPow (7 + 1074) := mul_unitsPerOne_lt (by decide)
  have hlt : kept / 1 < twoPow (7 + 1074) := by
    rw [Nat.div_one]
    exact Nat.lt_of_le_of_lt h hhundred
  have hnear : |(Binary64.nearestUnits kept 1 : ℚ) * (1 : Nat) - kept| * 2 ≤
      (1 : Nat) * twoPow 1028 := Binary64.abs_nearestUnits_sub_le Nat.one_pos hlt
  have hdouble : (twoPow 1028 : ℚ) = 2 * twoPow 1027 := by
    have hsplit : twoPow 1028 = twoPow 1 * twoPow 1027 := twoPow_add 1 1027
    rw [hsplit, Nat.cast_mul, cast_twoPow 1, pow_one]
  rw [hdouble, Nat.cast_one, mul_one, one_mul] at hnear
  linarith

/-- Two errors of half a bit: that of a quotient counts once for each of the `n` invoices. -/
theorem abs_sub_mul_lt {rounded lost r n one bit : ℚ} (hfirst : |lost * n - 2 * r * one| ≤ n * bit)
    (hsecond : |rounded - (100 * one - lost)| ≤ bit) (hbit : 0 < bit)
    (hone : one = 2 ^ 47 * bit) (hnonneg : 0 ≤ n) (hsize : n ≤ 2 ^ 44) :
    |rounded * n - (100 * n - 2 * r) * one| * 2 < one := by
  have hsum : rounded * n - (100 * n - 2 * r) * one =
      (rounded - (100 * one - lost)) * n - (lost * n - 2 * r * one) := by ring
  have hrounded : |(rounded - (100 * one - lost)) * n| ≤ bit * n := by
    rw [abs_mul, abs_of_nonneg hnonneg]
    exact mul_le_mul_of_nonneg_right hsecond hnonneg
  have htriangle := abs_sub ((rounded - (100 * one - lost)) * n) (lost * n - 2 * r * one)
  have hscaled := mul_le_mul_of_nonneg_right hsize hbit.le
  rw [hsum]
  calc |(rounded - (100 * one - lost)) * n - (lost * n - 2 * r * one)| * 2
      ≤ 4 * (n * bit) := by linarith
    _ ≤ 4 * (2 ^ 44 * bit) := by linarith
    _ < one := by rw [hone]; linarith

/-- Both roundings together are off by less than the distance from a half. -/
theorem abs_nearestUnits_kept_sub_lt (hinvoices : 0 < invoices) (hsize : invoices ≤ twoPow 44)
    (hrisk : risk < 50 * invoices) :
    |(Binary64.nearestUnits (100 * unitsPerOne - lostUnits risk invoices) 1 : ℚ) * invoices -
      (100 * invoices - 2 * risk : Nat) * unitsPerOne| * 2 < unitsPerOne := by
  have hlost := lostUnits_le_hundred hinvoices (Nat.le_of_lt hrisk)
  have hkept : ((100 * invoices - 2 * risk : Nat) : ℚ) = 100 * invoices - 2 * risk := by
    rw [Nat.cast_sub (by omega)]
    push_cast
    rfl
  have hsecond := abs_nearestUnits_sub_le_of_le_hundred
    (Nat.sub_le (100 * unitsPerOne) (lostUnits risk invoices))
  rw [Nat.cast_sub hlost, Nat.cast_mul] at hsecond
  have hone : (unitsPerOne : ℚ) = 2 ^ 47 * twoPow 1027 := by
    have hsplit : unitsPerOne = twoPow 47 * twoPow 1027 := twoPow_add 47 1027
    rw [hsplit, Nat.cast_mul, cast_twoPow 47]
  have hcount : (invoices : ℚ) ≤ 2 ^ 44 := by
    rw [← cast_twoPow]
    exact Nat.cast_le.2 hsize
  rw [hkept]
  exact abs_sub_mul_lt (abs_lostUnits_sub_le hinvoices hrisk) hsecond
    (Nat.cast_pos.2 (twoPow_pos 1027)) hone (Nat.cast_nonneg invoices) hcount

/-- Anything else is further from a half than the roundings are off. -/
theorem wholeOfUnits_of_not_half (hinvoices : 0 < invoices) (hsize : invoices ≤ twoPow 44)
    (hrisk : risk < 50 * invoices)
    (hhalf : 2 * ((100 * invoices - 2 * risk) % invoices) ≠ invoices) :
    Binary64.wholeOfUnits (100 * unitsPerOne - lostUnits risk invoices) =
      roundHalfEven (100 * invoices - 2 * risk) invoices :=
  roundHalfEven_eq_of_near unitsPerOne_pos hinvoices hhalf
    (abs_nearestUnits_kept_sub_lt hinvoices hsize hrisk)

/-- Among up to `2 ^ 44` invoices the computed health is that by exact division. -/
theorem roundedHealth_eq_exactHealth (hinvoices : 0 < invoices) (hsize : invoices ≤ twoPow 44) :
    roundedHealth risk invoices = exactHealth risk invoices := by
  rw [roundedHealth, exactHealth]
  by_cases hrisk : risk < 50 * invoices
  · have hlost := lostUnits_le_hundred hinvoices (Nat.le_of_lt hrisk)
    rw [← Int.ofNat_sub hlost, ← Int.ofNat_sub (by omega), withSign_natCast, withSign_natCast]
    by_cases hhalf : 2 * ((100 * invoices - 2 * risk) % invoices) = invoices
    · rw [wholeOfUnits_of_half hinvoices hrisk hhalf]
    · rw [wholeOfUnits_of_not_half hinvoices hsize hrisk hhalf]
  · have hshare := fifty_le_nearestUnits hinvoices (Nat.le_of_not_lt hrisk)
    rw [clampPercent_withSign_of_le Binary64.wholeOfUnits_mono Binary64.wholeOfUnits_zero,
      clampPercent_withSign_of_le roundHalfEven_mono (roundHalfEven_zero hinvoices)]
    · omega
    · rw [lostUnits]
      omega

end Scoring

end InvoiceReadiness
