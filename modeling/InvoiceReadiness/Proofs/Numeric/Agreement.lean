import InvoiceReadiness.Numeric.Tolerance
import InvoiceReadiness.Proofs.Outcome

/-!
# Agreement of amounts

Amounts agree by the size of their difference. There is one if both are in the range of
binary64, and it does not depend on which of them is taken from the other. The order of
amounts is turned around when they change places.

## Main results

* `Number.exists_agree` — amounts that can be compared.
* `Binary64.abs_sub_comm` — the size of a difference.
* `Number.agree_comm` — agreement of amounts.
* `Number.compare?_swap`, `Number.exists_compare?` — order of amounts.
-/

namespace InvoiceReadiness

namespace Binary64

theorem signedUnits_neg (x : Binary64) : x.neg.signedUnits = -x.signedUnits := by
  cases x with
  | nan => rfl
  | infinite negative => rfl
  | finite negative units h => cases negative <;> simp [neg, signedUnits]

theorem abs_ofUnitRatio (negative : Bool) (num den : Nat) :
    (ofUnitRatio negative num den).abs = ofUnitRatio false num den := by
  unfold ofUnitRatio
  split <;> rfl

theorem abs_ofSignedUnits (zeroNegative : Bool) (units : Int) :
    (ofSignedUnits zeroNegative units).abs = ofUnitRatio false units.natAbs 1 :=
  abs_ofUnitRatio _ _ _

theorem abs_sub_comm (x y : Binary64) : (x.sub y).abs = (y.sub x).abs := by
  cases x with
  | nan => cases y <;> rfl
  | infinite a =>
      cases y with
      | nan => rfl
      | infinite b => cases a <;> cases b <;> rfl
      | finite b n hn => rfl
  | finite a m hm =>
      cases y with
      | nan => rfl
      | infinite b => rfl
      | finite b n hn =>
          have hunits : ((finite b n hn).signedUnits + (finite a m hm).neg.signedUnits).natAbs =
              ((finite a m hm).signedUnits + (finite b n hn).neg.signedUnits).natAbs := by
            rw [signedUnits_neg, signedUnits_neg]
            omega
          simp only [neg] at hunits
          simp only [sub, neg, add, abs_ofSignedUnits, hunits]

theorem compare?_swap (x y : Binary64) : y.compare? x = (x.compare? y).map Ordering.swap := by
  rcases x with _ | ⟨_ | _⟩ | ⟨a, m, hm⟩ <;> rcases y with _ | ⟨_ | _⟩ | ⟨b, n, hn⟩ <;>
    first | rfl | simp only [compare?, Option.map_some, Int.compare_swap]

end Binary64

namespace Number

theorem compare?_swap (m n : Number) : n.compare? m = (m.compare? n).map Ordering.swap := by
  cases m with
  | whole m =>
      cases n with
      | whole n => simp only [compare?, Option.map_some, Int.compare_swap]
      | float y => rfl
  | float x =>
      cases n with
      | whole n => cases h : compareWhole n x <;> simp [compare?, h]
      | float y => exact x.compare?_swap y

theorem lt_eq_any (m n : Number) : m.lt n = (m.compare? n).any (· == .lt) := by
  rw [lt]
  rcases m.compare? n with _ | order
  · rfl
  · cases order <;> rfl

theorem le_eq_any (m n : Number) : m.le n = (m.compare? n).any (· != .gt) := rfl

theorem gt_eq_any (m n : Number) : n.lt m = (m.compare? n).any (· == .gt) := by
  rw [lt_eq_any, compare?_swap m n]
  rcases m.compare? n with _ | order
  · rfl
  · cases order <;> rfl

theorem ge_eq_any (m n : Number) : n.le m = (m.compare? n).any (· != .lt) := by
  rw [le_eq_any, compare?_swap m n]
  rcases m.compare? n with _ | order
  · rfl
  · cases order <;> rfl

/-- Finite numbers have an order. -/
theorem exists_compare? {m n : Number} (hm : m.isFinite = .ok true)
    (hn : n.isFinite = .ok true) : ∃ order, m.compare? n = some order := by
  have hfloat {x : Binary64} (hx : (float x).isFinite = .ok true) :
      ∃ negative units h, x = .finite negative units h := by
    cases x with
    | finite negative units h => exact ⟨negative, units, h, rfl⟩
    | _ => cases hx
  cases m with
  | whole m =>
      cases n with
      | whole n => exact ⟨_, rfl⟩
      | float y =>
          obtain ⟨negative, units, h, rfl⟩ := hfloat hn
          exact ⟨_, rfl⟩
  | float x =>
      obtain ⟨negative, units, h, rfl⟩ := hfloat hm
      cases n with
      | whole n => exact ⟨_, rfl⟩
      | float y =>
          obtain ⟨negative', units', h', rfl⟩ := hfloat hn
          exact ⟨_, rfl⟩

/-! ## Amounts that can be compared -/

theorem exists_toBinary64_of_isFinite {n : Number} {finite : Bool}
    (h : n.isFinite = .ok finite) : ∃ x, n.toBinary64 = .ok x := by
  cases n with
  | float x => exact ⟨x, rfl⟩
  | whole n =>
      rw [isFinite] at h
      rw [toBinary64]
      cases hn : Binary64.ofInt? n with
      | ok x => exact ⟨x, rfl⟩
      | error fault =>
          rw [hn] at h
          cases h

/-- Amounts that are both in the range of binary64 have a difference. -/
theorem exists_sub {m n : Number} (hm : ∃ x, m.toBinary64 = .ok x)
    (hn : ∃ y, n.toBinary64 = .ok y) : ∃ gap, m.sub n = .ok gap := by
  obtain ⟨x, hx⟩ := hm
  obtain ⟨y, hy⟩ := hn
  rw [sub]
  cases m <;> cases n
  case whole.whole => exact ⟨_, rfl⟩
  all_goals
    rw [lift, hx, Result.ok_bind, hy]
    · exact ⟨_, rfl⟩
    all_goals simp

/-- Amounts that have a difference agree or do not. -/
theorem exists_agree {m n : Number} (tolerance : Number) (h : ∃ gap, m.sub n = .ok gap) :
    ∃ agrees, m.agree n tolerance = .ok agrees := by
  obtain ⟨gap, hgap⟩ := h
  rw [agree, hgap]
  exact ⟨_, rfl⟩

/-! ## The other way round -/

theorem sub_whole_float (m : Int) (b : Binary64) :
    (whole m).sub (float b) = (whole m).toBinary64.map fun a => float (a.sub b) := by
  have hsub : (whole m).sub (float b) = (do
      let a ← (whole m).toBinary64
      let b ← (float b).toBinary64
      return float (Binary64.sub a b) : Result Number) := rfl
  rw [hsub]
  cases (whole m).toBinary64 <;> rfl

theorem sub_float_whole (a : Binary64) (n : Int) :
    (float a).sub (whole n) = (whole n).toBinary64.map fun b => float (a.sub b) := by
  have hsub : (float a).sub (whole n) = (do
      let a ← (float a).toBinary64
      let b ← (whole n).toBinary64
      return float (Binary64.sub a b) : Result Number) := rfl
  rw [hsub]
  cases (whole n).toBinary64 <;> rfl

/-- The size of a difference; it exists both ways or neither, as only a whole number can be
too large for a difference with a binary64 number. -/
theorem map_abs_sub_comm (x y : Number) : (x.sub y).map abs = (y.sub x).map abs := by
  have hfloat (a b : Binary64) : abs (float (a.sub b)) = abs (float (b.sub a)) := by
    rw [abs, abs, Binary64.abs_sub_comm]
  have hmixed (n : Int) (b : Binary64) :
      ((whole n).sub (float b)).map abs = ((float b).sub (whole n)).map abs := by
    rw [sub_whole_float, sub_float_whole]
    cases (whole n).toBinary64 with
    | error fault => rfl
    | ok a => exact congrArg Except.ok (hfloat a b)
  cases x with
  | whole m =>
      cases y with
      | whole n =>
          have hsize : (m - n).natAbs = (n - m).natAbs := by omega
          simp only [sub, lift, Except.map, abs, hsize]
      | float b => exact hmixed m b
  | float a =>
      cases y with
      | whole n => exact (hmixed n a).symm
      | float b => exact congrArg Except.ok (hfloat a b)

/-- Two amounts agree in either order, or are too large in either. -/
theorem agree_comm (left right tolerance : Number) :
    left.agree right tolerance = right.agree left tolerance := by
  have hagree (left right : Number) :
      left.agree right tolerance = ((left.sub right).map abs).map fun size =>
        !(size.roundPlaces 6).isNonzero || (size.roundPlaces 6).lt tolerance := by
    unfold agree
    cases left.sub right <;> rfl
  rw [hagree, hagree, map_abs_sub_comm]

end Number

end InvoiceReadiness
