import InvoiceReadiness.Proofs.Numeric.Agreement
import InvoiceReadiness.Proofs.Numeric.Rounding
import InvoiceReadiness.Proofs.Value.Identity

/-!
# Order and rounding

Numbers are compared by exact value, whole numbers and binary64 numbers with each other. So
they stand on one line, with an infinity at each end (`ExactValue.AtMost`). Rounding to
binary64 keeps their order: it may make two numbers equal, but it never turns them around.

For the agreement of amounts this means that a larger tolerance never parts amounts that agree
within a smaller one, whichever kinds of numbers the tolerances are.

## Main results

* `Binary64.nearestUnits_mono` — rounding keeps the order.
* `Number.lt_of_lt_of_le` — order of numbers of both kinds.
* `Number.toBinary64_le` — order of numbers after rounding.
* `Number.agree_of_exact` — equal amounts agree.
* `Number.disagree_of_le` — amounts that do not agree within a larger tolerance.
-/

namespace InvoiceReadiness

/-! ## Rounding keeps the order -/

theorem roundHalfEven_mono {num num' den : Nat} (h : num ≤ num') :
    roundHalfEven num den ≤ roundHalfEven num' den := by
  rcases Nat.lt_or_eq_of_le (Nat.div_le_div_right (c := den) h) with hlt | heq
  · calc roundHalfEven num den ≤ num / den + 1 := roundHalfEven_le num den
      _ ≤ num' / den := hlt
      _ ≤ roundHalfEven num' den := le_roundHalfEven num' den
  · have hrest : num % den ≤ num' % den := by
      have hnum := Nat.div_add_mod num den
      have hnum' := Nat.div_add_mod num' den
      rw [heq] at hnum
      omega
    unfold roundHalfEven
    dsimp only
    rw [heq]
    split_ifs <;> omega

/-- Quotients are compared crosswise. -/
theorem roundHalfEven_le_roundHalfEven {num den num' den' : Nat} (hden : 0 < den)
    (hden' : 0 < den') (h : num * den' ≤ num' * den) :
    roundHalfEven num den ≤ roundHalfEven num' den' := by
  rw [← roundHalfEven_mul_left hden' num den, ← roundHalfEven_mul_left hden num' den',
    Nat.mul_comm den' den, Nat.mul_comm den' num, Nat.mul_comm den num']
  exact roundHalfEven_mono h

namespace Binary64

/-- Rounding does not pass a bound from above whose last bits are zero as those of the
quotient are after rounding. -/
theorem le_nearestUnits {num den bound : Nat} (hden : 0 < den) (h : bound * den ≤ num)
    (hbound : twoPow ((num / den).log2 - 52) ∣ bound) : bound ≤ nearestUnits num den := by
  obtain ⟨count, hcount⟩ := hbound
  unfold nearestUnits
  dsimp only
  generalize twoPow ((num / den).log2 - 52) = step at hcount ⊢
  by_cases hstep : step = 0
  · rw [hcount, hstep, Nat.zero_mul]
    exact Nat.zero_le _
  have hpos : 0 < den * step := Nat.mul_pos hden (Nat.pos_of_ne_zero hstep)
  have hcounted : count ≤ num / (den * step) := by
    rw [Nat.le_div_iff_mul_le hpos]
    calc count * (den * step) = bound * den := by
          rw [hcount, Nat.mul_comm step, Nat.mul_assoc, Nat.mul_comm step]
      _ ≤ num := h
  calc bound = count * step := by rw [hcount, Nat.mul_comm]
    _ ≤ roundHalfEven num (den * step) * step :=
        Nat.mul_le_mul_right step (Nat.le_trans hcounted (le_roundHalfEven _ _))

/-- Rounding to 53 significant bits keeps the order. -/
theorem nearestUnits_mono {num num' den : Nat} (hden : 0 < den) (h : num ≤ num') :
    nearestUnits num den ≤ nearestUnits num' den := by
  have hquot : num / den ≤ num' / den := Nat.div_le_div_right h
  have hlog := log2_le_log2 hquot
  by_cases hsame : (num / den).log2 - 52 = (num' / den).log2 - 52
  · unfold nearestUnits
    dsimp only
    rw [hsame]
    exact Nat.mul_le_mul_right _ (roundHalfEven_mono h)
  · -- There is a power of two between the quotients, and rounding passes it in neither case.
    let bound := twoPow (num' / den).log2
    have hbound : bound.log2 = (num' / den).log2 := Nat.log2_two_pow
    have hzero : num' / den ≠ 0 := by
      intro hzero
      rw [hzero, Nat.log2_zero] at hlog hsame
      omega
    have hbelow : num ≤ bound * den := by
      have hlt : num / den < bound :=
        Nat.lt_of_lt_of_le Nat.lt_log2_self (Nat.pow_le_pow_right (by decide) (by omega))
      exact Nat.le_of_lt ((Nat.div_lt_iff_lt_mul hden).1 hlt)
    have habove : bound * den ≤ num' :=
      (Nat.le_div_iff_mul_le hden).1 (Nat.log2_self_le hzero)
    have hdvd : twoPow ((num' / den).log2 - 52) ∣ bound := twoPow_dvd_twoPow (Nat.sub_le _ _)
    calc nearestUnits num den ≤ bound := nearestUnits_le hden hbelow (by rwa [hbound])
      _ ≤ nearestUnits num' den := le_nearestUnits hden habove hdvd

theorem nearestUnits_le_nearestUnits {num den num' den' : Nat} (hden : 0 < den)
    (hden' : 0 < den') (h : num * den' ≤ num' * den) :
    nearestUnits num den ≤ nearestUnits num' den' := by
  rw [← nearestUnits_mul_left hden' num den, ← nearestUnits_mul_left hden num' den',
    Nat.mul_comm den' den, Nat.mul_comm den' num, Nat.mul_comm den num']
  exact nearestUnits_mono (Nat.mul_pos hden hden') h

/-- A rounded quotient that is finite has the nearest count of units. -/
theorem eq_finite_of_isFinite {negative : Bool} {num den : Nat}
    (h : (ofUnitRatio negative num den).isFinite) :
    ∃ hunits, ofUnitRatio negative num den = finite negative (nearestUnits num den) hunits := by
  unfold ofUnitRatio at h ⊢
  split at h
  · rename_i hlt
    rw [dif_pos hlt]
    exact ⟨_, rfl⟩
  · cases h

end Binary64

/-! ## The line of numbers -/

namespace ExactValue

/-- An exact value is at most another one. What is no number is not compared. -/
def AtMost : ExactValue → ExactValue → Prop
  | nan, _ => False
  | _, nan => False
  | infinite true, _ => True
  | _, infinite false => True
  | units m, units n => m ≤ n
  | _, _ => False

theorem AtMost.trans {a b c : ExactValue} (hab : a.AtMost b) (hbc : b.AtMost c) :
    a.AtMost c := by
  rcases a with _ | ⟨_ | _⟩ | l <;> rcases b with _ | ⟨_ | _⟩ | m <;>
    rcases c with _ | ⟨_ | _⟩ | n <;> simp only [AtMost] at hab hbc ⊢
  exact Int.le_trans hab hbc

/-- Of two values that are numbers one is at most the other. -/
theorem atMost_or_atMost {a b : ExactValue} (ha : a ≠ nan) (hb : b ≠ nan) :
    a.AtMost b ∨ b.AtMost a := by
  rcases a with _ | ⟨_ | _⟩ | m <;> rcases b with _ | ⟨_ | _⟩ | n <;> simp [AtMost] at ha hb ⊢
  exact Int.le_total m n

end ExactValue

namespace Number

variable {l m n : Number}

theorem wholeUnits_le {m n : Int} : wholeUnits m ≤ wholeUnits n ↔ m ≤ n :=
  Int.mul_le_mul_right (Int.natCast_pos.2 unitsPerOne_pos)

/-- A number is at most another one if its exact value is. -/
theorem le_iff : m.le n ↔ m.exact.AtMost n.exact := by
  rcases m with m | _ | ⟨_ | _⟩ | ⟨a, x, hx⟩ <;> rcases n with n | _ | ⟨_ | _⟩ | ⟨b, y, hy⟩ <;>
    simp [le, compare?, compareWhole, Binary64.compare?, exact, ExactValue.AtMost,
      wholeUnits_le, Int.compare_eq_lt, Int.compare_eq_gt]

/-- A number is less than another one if it is at most that one, and not the other way. -/
theorem lt_iff : m.lt n ↔ m.exact.AtMost n.exact ∧ ¬n.exact.AtMost m.exact := by
  rcases m with m | _ | ⟨_ | _⟩ | ⟨a, x, hx⟩ <;> rcases n with n | _ | ⟨_ | _⟩ | ⟨b, y, hy⟩ <;>
    simp [lt, compare?, compareWhole, Binary64.compare?, exact, ExactValue.AtMost,
      wholeUnits_le, Int.compare_eq_lt, Int.compare_eq_gt, Ordering.swap_eq_lt]
  all_goals exact Int.le_of_lt

theorem lt_of_lt_of_le (h : l.lt m) (h' : m.le n) : l.lt n := by
  obtain ⟨hlm, hml⟩ := lt_iff.1 h
  have hmn := le_iff.1 h'
  exact lt_iff.2 ⟨hlm.trans hmn, fun hnl => hml (hmn.trans hnl)⟩

theorem le_trans (h : l.le m) (h' : m.le n) : l.le n :=
  le_iff.2 ((le_iff.1 h).trans (le_iff.1 h'))

theorem exact_zero : zero.exact = .units 0 := congrArg ExactValue.units (Int.zero_mul _)

/-- A number is zero if it is as large as zero. -/
theorem isNonzero_eq_false_iff : n.isNonzero = false ↔ n.le zero ∧ zero.le n := by
  rw [le_iff, le_iff, exact_zero]
  rcases n with k | _ | ⟨_ | _⟩ | ⟨negative, count, h⟩
  · have hunits : k = 0 ↔ wholeUnits k = 0 := by
      rw [← wholeUnits_inj, wholeUnits, wholeUnits, Int.zero_mul]
    simp [isNonzero, exact, ExactValue.AtMost, hunits]
    omega
  · simp [isNonzero, exact, ExactValue.AtMost, Binary64.isZero]
  · simp [isNonzero, exact, ExactValue.AtMost, Binary64.isZero]
  · simp [isNonzero, exact, ExactValue.AtMost, Binary64.isZero]
  · have hunits : (Binary64.finite negative count h).signedUnits = 0 ↔ count = 0 := by
      cases negative <;> simp [Binary64.signedUnits]
    simp [isNonzero, exact, ExactValue.AtMost, Binary64.isZero]
    omega

/-! ## Rounding to binary64 -/

/-- What is not negative is an infinity, or a count of units. -/
theorem zero_le_iff : zero.le n ↔
    n.exact = .infinite false ∨ ∃ units : Nat, n.exact = .units units := by
  rw [le_iff, exact_zero]
  rcases n.exact with _ | ⟨_ | _⟩ | units
  · simp [ExactValue.AtMost]
  · simp [ExactValue.AtMost]
  · simp [ExactValue.AtMost]
  · have hunits : 0 ≤ units ↔ ∃ count : Nat, units = count :=
      ⟨fun h => Int.eq_ofNat_of_zero_le h, fun ⟨count, h⟩ => h ▸ Int.natCast_nonneg count⟩
    simpa [ExactValue.AtMost] using hunits

/-- The units of a number that is not negative are rounded where the number is turned into a
binary64 number. -/
theorem exact_toBinary64 {x : Binary64} {units : Nat} (h : n.exact = .units units)
    (hx : n.toBinary64 = .ok x) :
    (float x).exact = .units (Binary64.nearestUnits units 1 : Nat) := by
  cases n with
  | whole n =>
      have hunits : wholeUnits n = units := ExactValue.units.inj h
      have hpos : 0 ≤ n := by
        refine wholeUnits_le.1 ?_
        rw [hunits, wholeUnits, Int.zero_mul]
        exact Int.natCast_nonneg units
      have hcount : n.natAbs * unitsPerOne = units := by
        rw [wholeUnits, ← Int.natAbs_of_nonneg hpos] at hunits
        exact_mod_cast hunits
      have hround : Binary64.ofInt n = Binary64.ofUnitRatio false units 1 := by
        rw [Binary64.ofInt, Binary64.ofRatio, hcount, decide_eq_false (Int.not_lt.2 hpos)]
      rw [toBinary64, Binary64.ofInt?, hround] at hx
      split at hx
      · rename_i hfinite
        obtain ⟨hrepresentable, heq⟩ := Binary64.eq_finite_of_isFinite hfinite
        rw [← Except.ok.inj hx, heq]
        rfl
      · cases hx
  | float y =>
      obtain rfl : y = x := Except.ok.inj hx
      rcases y with _ | ⟨_ | _⟩ | ⟨negative, count, hcount⟩
      · cases h
      · cases h
      · cases h
      · have hsigned : (Binary64.finite negative count hcount).signedUnits = units :=
          ExactValue.units.inj h
        have habs := congrArg Int.natAbs hsigned
        rw [Binary64.natAbs_signedUnits, Int.natAbs_natCast] at habs
        have hround := Binary64.nearestUnits_mul Nat.one_pos hcount.2
        rw [Nat.mul_one, habs] at hround
        rw [hround]
        exact h

theorem exact_toBinary64_infinite {x : Binary64} (h : n.exact = .infinite false)
    (hx : n.toBinary64 = .ok x) : (float x).exact = .infinite false := by
  cases n with
  | whole n => cases h
  | float y =>
      obtain rfl : y = x := Except.ok.inj hx
      exact h

/-- Rounding to binary64 keeps the order of numbers. -/
theorem toBinary64_le {x y : Binary64} (hzero : zero.le m) (hle : m.le n)
    (hx : m.toBinary64 = .ok x) (hy : n.toBinary64 = .ok y) : (float x).le (float y) := by
  have hatMost := le_iff.1 hle
  rw [le_iff]
  rcases zero_le_iff.1 hzero with hm | ⟨u, hm⟩ <;>
    rcases zero_le_iff.1 (le_trans hzero hle) with hn | ⟨v, hn⟩
  · rw [exact_toBinary64_infinite hm hx, exact_toBinary64_infinite hn hy]
    trivial
  · rw [hm, hn] at hatMost
    exact hatMost.elim
  · rw [exact_toBinary64 hm hx, exact_toBinary64_infinite hn hy]
    trivial
  · rw [hm, hn] at hatMost
    have hunits : u ≤ v := Int.ofNat_le.1 hatMost
    rw [exact_toBinary64 hm hx, exact_toBinary64 hn hy]
    exact Int.ofNat_le.2 (Binary64.nearestUnits_mono Nat.one_pos hunits)

/-! ## Agreement -/

/-- A whole number with the exact value of a finite binary64 number is rounded to it. -/
theorem ofInt?_of_signedUnits {n : Int} {y : Binary64} (hy : y.isFinite)
    (h : wholeUnits n = y.signedUnits) :
    ∃ x, Binary64.ofInt? n = .ok x ∧ x.isFinite ∧ x.signedUnits = y.signedUnits := by
  cases y with
  | finite negative units hunits =>
      have hcount : n.natAbs * unitsPerOne = units := by
        have habs := congrArg Int.natAbs h
        rwa [Binary64.natAbs_signedUnits, wholeUnits, Int.natAbs_mul, Int.natAbs_natCast] at habs
      have hnearest : Binary64.nearestUnits units 1 = units := by
        have hround := Binary64.nearestUnits_mul Nat.one_pos hunits.2
        rwa [Nat.mul_one] at hround
      have hround : Binary64.ofInt n = .finite (n < 0) units hunits := by
        have hlt : Binary64.nearestUnits units 1 < unitsBound := by
          rw [hnearest]
          exact hunits.1
        rw [Binary64.ofInt, Binary64.ofRatio, hcount, Binary64.ofUnitRatio, dif_pos hlt]
        simp only [hnearest]
      have hsigned : (Binary64.finite (n < 0) units hunits).signedUnits = wholeUnits n := by
        have hwhole : wholeUnits n = n * unitsPerOne := rfl
        have hpos := unitsPerOne_pos
        rw [Binary64.signedUnits, hwhole, ← hcount]
        by_cases hneg : n < 0
        · rw [if_pos (decide_eq_true hneg), Int.natCast_mul, Int.ofNat_natAbs_of_nonpos (by omega),
            Int.neg_mul, Int.neg_neg]
        · rw [if_neg (by simpa using hneg), Int.natCast_mul, Int.natAbs_of_nonneg (by omega)]
      refine ⟨_, ?_, rfl, hsigned.trans h⟩
      rw [Binary64.ofInt?, hround]
      rfl
  | _ => cases hy

/-- The difference of equal numbers is zero. -/
theorem isZero_abs_sub {x y : Binary64} (hx : x.isFinite) (hy : y.isFinite)
    (h : x.signedUnits = y.signedUnits) : ((x.sub y).abs.roundPlaces 6).isZero := by
  have hzero : ((Binary64.ofUnitRatio false 0 1).roundPlaces 6).isZero := by decide +kernel
  cases x with
  | finite a u hu =>
      cases y with
      | finite b v hv =>
          have hsum : (Binary64.finite a u hu).signedUnits +
              (Binary64.finite b v hv).neg.signedUnits = 0 := by
            rw [Binary64.signedUnits_neg, h]
            omega
          rw [Binary64.neg] at hsum
          rw [Binary64.sub, Binary64.neg, Binary64.add, hsum, Binary64.abs_ofSignedUnits,
            Int.natAbs_zero]
          exact hzero
      | _ => cases hy
  | _ => cases hx

/-- Amounts whose difference is that of equal binary64 numbers agree. -/
theorem agree_of_sub {x y : Binary64} (hx : x.isFinite) (hy : y.isFinite)
    (h : x.signedUnits = y.signedUnits) (hsub : m.sub n = .ok (float (x.sub y)))
    (tolerance : Number) : m.agree n tolerance = .ok true := by
  have hzero : (((float (x.sub y)).abs).roundPlaces 6).isNonzero = false := by
    rw [abs, roundPlaces, isNonzero, isZero_abs_sub hx hy h]
    rfl
  rw [agree, hsub, Result.ok_bind]
  dsimp only
  rw [hzero]
  rfl

theorem isFinite_of_exact {x : Binary64} {units : Int} (hx : (float x).exact = .units units) :
    x.isFinite ∧ x.signedUnits = units := by
  cases x with
  | finite negative count h => exact ⟨rfl, ExactValue.units.inj hx⟩
  | _ => cases hx

theorem agree_whole_float {k units : Int} {y : Binary64} (hk : (whole k).exact = .units units)
    (hy : (float y).exact = .units units) (tolerance : Number) :
    (whole k).agree (float y) tolerance = .ok true := by
  obtain ⟨hfinite, hunits⟩ := isFinite_of_exact hy
  obtain ⟨x, hx, hxfinite, hxunits⟩ :=
    ofInt?_of_signedUnits hfinite ((ExactValue.units.inj hk).trans hunits.symm)
  apply agree_of_sub hxfinite hfinite hxunits
  rw [sub_whole_float, toBinary64, hx]
  rfl

/-- Amounts of one exact value agree, whatever the tolerance. -/
theorem agree_of_exact {units : Int} (hm : m.exact = .units units) (hn : n.exact = .units units)
    (tolerance : Number) : m.agree n tolerance = .ok true := by
  cases m with
  | whole k =>
      cases n with
      | whole l =>
          obtain rfl : k = l :=
            wholeUnits_inj.1 ((ExactValue.units.inj hm).trans (ExactValue.units.inj hn).symm)
          have hgap : (whole k).sub (whole k) = .ok (whole 0) := by
            show Except.ok (whole (k - k)) = _
            rw [Int.sub_self]
          rw [agree, hgap]
          rfl
      | float y => exact agree_whole_float hm hn tolerance
  | float x =>
      cases n with
      | whole l =>
          rw [agree_comm]
          exact agree_whole_float hn hm tolerance
      | float y =>
          obtain ⟨hx, hxunits⟩ := isFinite_of_exact hm
          obtain ⟨hy, hyunits⟩ := isFinite_of_exact hn
          exact agree_of_sub hx hy (hxunits.trans hyunits.symm) rfl tolerance

/-- Amounts that do not agree within a tolerance do not within a smaller one. -/
theorem disagree_of_le {x y : Number} (hle : m.le n) (h : x.agree y n = .ok false) :
    x.agree y m = .ok false := by
  obtain ⟨gap, hgap, h⟩ := Result.bind_eq_ok.1 h
  obtain ⟨hsome, hgreat⟩ := Bool.or_eq_false_iff.1 (Except.ok.inj h)
  have hgreater : (gap.abs.roundPlaces 6).lt m = false := by
    by_contra hlt
    rw [lt_of_lt_of_le ((Bool.not_eq_false _).mp hlt) hle] at hgreat
    cases hgreat
  rw [agree, hgap, Result.ok_bind]
  dsimp only
  rw [hsome, hgreater]
  rfl

end Number

end InvoiceReadiness
