import InvoiceReadiness.Numeric.HalfEven
import InvoiceReadiness.Numeric.Power

/-!
# Binary floating-point numbers of 64 bits

Amounts arrive as decimal text and are computed with in binary64: 53
significant bits, exponents down to `2⁻¹⁰⁷⁴`, signed zeros, two infinities and
a not-a-number. The type here is an ordinary inductive type over `Nat`, so
every operation can be opened by a proof and evaluated by the kernel.

A finite number is a sign and a count of **units**, one unit being `2⁻¹⁰⁷⁴`,
the smallest positive number of the format. Every finite binary64 number is a
whole number of units, so addition, comparison, remainder and truncation are
the operations of `Nat` and `Int` with no exponent to align; and each number
has exactly one count of units, so equality of values is equality of the
representation (apart from the two zeros).

Every operation takes the exact result as a quotient of natural numbers and
rounds it once, with `ofUnitRatio`. This is the definition of a correctly
rounded operation, and nothing else is assumed about any of them.

## Main results

* `Representable` — the counts of units that 53 significant bits can hold.
* `representable_nearestUnits` — rounding lands on such a count, so the type
  carries its own invariant.
-/

namespace InvoiceReadiness

/-- The number of units, of `2⁻¹⁰⁷⁴` each, in the number one. -/
def unitsPerOne : Nat := twoPow 1074

theorem unitsPerOne_pos : 0 < unitsPerOne := twoPow_pos 1074

/-- The first count of units that lies beyond every finite number: `2¹⁰²⁴`. -/
def unitsBound : Nat := twoPow 2098

/--
A count of units that 53 significant bits can hold: all bits below the top 53
are zero, and the count stays below `unitsBound`.
-/
def Representable (units : Nat) : Prop :=
  units < unitsBound ∧ twoPow (units.log2 - 52) ∣ units

theorem representable_zero : Representable 0 :=
  ⟨twoPow_pos 2098, Nat.dvd_zero _⟩

/-- A binary64 number: not a number, an infinity, or a signed count of units. -/
inductive Binary64 where
  | nan
  | infinite (negative : Bool)
  | finite (negative : Bool) (units : Nat) (representable : Representable units)
  deriving DecidableEq

namespace Binary64

/-! ## Rounding to 53 significant bits -/

/--
The count of units with at most 53 significant bits nearest to `num / den`
units; a tie goes to the count whose last kept bit is zero. The weight of that
last bit is read off the number of bits before the point.
-/
def nearestUnits (num den : Nat) : Nat :=
  let step := twoPow ((num / den).log2 - 52)
  roundHalfEven num (den * step) * step

/-- A count of fewer than 54 bits has no bit below its top 53, whatever its weight. -/
theorem twoPow_dvd_mul_twoPow {m s : Nat} (hm : m < twoPow 53) :
    twoPow ((m * twoPow s).log2 - 52) ∣ m * twoPow s := by
  refine Nat.dvd_trans (twoPow_dvd_twoPow ?_) (Nat.dvd_mul_left _ _)
  by_cases h0 : m = 0
  · simp [h0]
  · have hpos : m * twoPow s ≠ 0 :=
      Nat.mul_ne_zero h0 (Nat.ne_of_gt (twoPow_pos s))
    have hlt : (m * twoPow s).log2 < 53 + s := by
      rw [log2_lt_iff hpos, twoPow_add]
      exact Nat.mul_lt_mul_of_pos_right hm (twoPow_pos s)
    omega

/-- Rounding keeps no bit below the top 53. -/
theorem representable_nearestUnits (num den : Nat)
    (h : nearestUnits num den < unitsBound) : Representable (nearestUnits num den) := by
  refine ⟨h, ?_⟩
  unfold nearestUnits
  dsimp only
  generalize hs : (num / den).log2 - 52 = s
  have hquot : num / (den * twoPow s) < twoPow 53 := by
    rw [← Nat.div_div_eq_div_mul]
    by_cases h0 : num / den = 0
    · rw [h0, Nat.zero_div]
      exact twoPow_pos 53
    · rw [Nat.div_lt_iff_lt_mul (twoPow_pos s), ← twoPow_add, ← log2_lt_iff h0]
      omega
  have hle := roundHalfEven_le num (den * twoPow s)
  by_cases htop : roundHalfEven num (den * twoPow s) < twoPow 53
  · exact twoPow_dvd_mul_twoPow htop
  · have heq : roundHalfEven num (den * twoPow s) = twoPow 53 := by omega
    have hsplit : twoPow 53 * twoPow s = twoPow 52 * twoPow (s + 1) := by
      rw [← twoPow_add, ← twoPow_add]
      congr 1
      omega
    rw [heq, hsplit]
    exact twoPow_dvd_mul_twoPow (by decide)

/--
The binary64 number nearest to `num / den` units, with the given sign; beyond
the largest finite number it is an infinity.
-/
def ofUnitRatio (negative : Bool) (num den : Nat) : Binary64 :=
  if h : nearestUnits num den < unitsBound then
    finite negative (nearestUnits num den) (representable_nearestUnits num den h)
  else infinite negative

/-- The binary64 number nearest to `num / den`, with the given sign. -/
def ofRatio (negative : Bool) (num den : Nat) : Binary64 :=
  ofUnitRatio negative (num * unitsPerOne) den

/-- The binary64 number nearest to a whole number. -/
def ofInt (n : Int) : Binary64 :=
  ofRatio (n < 0) n.natAbs 1

/-- Positive zero. -/
def zero : Binary64 := finite false 0 representable_zero

instance : Inhabited Binary64 := ⟨zero⟩

/-- The number written `num / 10 ^ places`, such as `decimal 1 2` for 0.01. -/
def decimal (num places : Nat) : Binary64 :=
  ofRatio false num (tenPow places)

/-! ## Reading a number -/

/-- The exact value in units, with its sign; zero for what is not finite. -/
def signedUnits : Binary64 → Int
  | finite negative units _ => if negative then -(units : Int) else units
  | _ => 0

def isNan : Binary64 → Bool
  | nan => true
  | _ => false

def isFinite : Binary64 → Bool
  | finite .. => true
  | _ => false

/-- Both zeros are zero. -/
def isZero : Binary64 → Bool
  | finite _ units _ => units == 0
  | _ => false

/-- A finite number without a fractional part. -/
def isWhole : Binary64 → Bool
  | finite _ units _ => units % unitsPerOne == 0
  | _ => false

/-- The whole number left when the fractional part is dropped. -/
def truncate? : Binary64 → Option Int
  | finite negative units _ =>
    let n : Int := (units / unitsPerOne : Nat)
    some (if negative then -n else n)
  | _ => none

/-- The nearest whole number; a tie goes to the even neighbour. -/
def round? : Binary64 → Option Int
  | finite negative units _ =>
    let n : Int := (roundHalfEven units unitsPerOne : Nat)
    some (if negative then -n else n)
  | _ => none

/-- The nearest number with the given count of decimal places. -/
def roundPlaces (places : Nat) : Binary64 → Binary64
  | finite negative units _ =>
    ofRatio negative (roundHalfEven (units * tenPow places) unitsPerOne) (tenPow places)
  | x => x

/-! ## Order -/

/--
The order of two numbers by exact value; a not-a-number has no order with any
number, itself included.
-/
def compare? : Binary64 → Binary64 → Option Ordering
  | nan, _ => none
  | _, nan => none
  | infinite true, infinite true => some .eq
  | infinite true, _ => some .lt
  | _, infinite true => some .gt
  | infinite false, infinite false => some .eq
  | infinite false, _ => some .gt
  | _, infinite false => some .lt
  | x, y => some (Ord.compare x.signedUnits y.signedUnits)

/-! ## Arithmetic -/

def neg : Binary64 → Binary64
  | nan => nan
  | infinite negative => infinite !negative
  | finite negative units h => finite (!negative) units h

def abs : Binary64 → Binary64
  | nan => nan
  | infinite _ => infinite false
  | finite _ units h => finite false units h

/-- The nearest number to a whole number of units; a zero takes the given sign. -/
def ofSignedUnits (zeroNegative : Bool) (units : Int) : Binary64 :=
  ofUnitRatio (if units = 0 then zeroNegative else units < 0) units.natAbs 1

/-- The sum; a sum of zero is negative only if both terms are negative zeros. -/
def add : Binary64 → Binary64 → Binary64
  | nan, _ => nan
  | _, nan => nan
  | infinite a, infinite b => if a == b then infinite a else nan
  | infinite a, _ => infinite a
  | _, infinite b => infinite b
  | x@(finite a _ _), y@(finite b _ _) =>
    ofSignedUnits (a && b) (x.signedUnits + y.signedUnits)

def sub (x y : Binary64) : Binary64 := add x (neg y)

def mul : Binary64 → Binary64 → Binary64
  | nan, _ => nan
  | _, nan => nan
  | infinite a, infinite b => infinite (a != b)
  | infinite a, finite b units _ => if units = 0 then nan else infinite (a != b)
  | finite a units _, infinite b => if units = 0 then nan else infinite (a != b)
  | finite a x _, finite b y _ => ofUnitRatio (a != b) (x * y) unitsPerOne

/-- The quotient; callers refuse a zero divisor before they divide. -/
def div : Binary64 → Binary64 → Binary64
  | nan, _ => nan
  | _, nan => nan
  | infinite _, infinite _ => nan
  | infinite a, finite b _ _ => infinite (a != b)
  | finite a _ _, infinite b => finite (a != b) 0 representable_zero
  | finite a x _, finite b y _ =>
    if y = 0 then (if x = 0 then nan else infinite (a != b))
    else ofUnitRatio (a != b) (x * unitsPerOne) y

/--
The remainder left by the quotient truncated toward zero, which has the sign of
the dividend. An infinite dividend or a zero divisor has none.
-/
def remainder? : Binary64 → Binary64 → Option Binary64
  | nan, _ => some nan
  | _, nan => some nan
  | infinite _, _ => none
  | x, infinite _ => some x
  | finite a x _, finite _ y _ =>
    if y = 0 then none else some (ofUnitRatio a (x % y) 1)

end Binary64

end InvoiceReadiness
