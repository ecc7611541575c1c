/-!
# Powers of two and of ten

The weights of binary and of decimal places. Binary64 numbers count units of a
power of two, and their texts are read and written on grids of powers of ten,
with exponents in the thousands. The powers are functions of their own, so that a
proof meets `twoPow 2098` as a name and does not begin to compute it.

## Main results

* `twoPow_add`, `twoPow_dvd_twoPow` — powers multiply and divide by their exponents.
* `log2_lt_iff` — the number of bits of a count, said with a power of two.
-/

namespace InvoiceReadiness

/-- Two to the power `n`. -/
def twoPow (n : Nat) : Nat := Nat.pow 2 n

/-- Ten to the power `n`. -/
def tenPow (n : Nat) : Nat := Nat.pow 10 n

theorem twoPow_pos (n : Nat) : 0 < twoPow n := Nat.two_pow_pos n

theorem tenPow_pos (n : Nat) : 0 < tenPow n := Nat.pow_pos (by decide)

theorem tenPow_le_tenPow {m n : Nat} (h : m ≤ n) : tenPow m ≤ tenPow n :=
  Nat.pow_le_pow_right (by decide) h

theorem twoPow_add (m n : Nat) : twoPow (m + n) = twoPow m * twoPow n := Nat.pow_add 2 m n

theorem twoPow_lt_twoPow {m n : Nat} (h : m < n) : twoPow m < twoPow n :=
  Nat.pow_lt_pow_right (by decide) h

theorem twoPow_dvd_twoPow {m n : Nat} (h : m ≤ n) : twoPow m ∣ twoPow n := Nat.pow_dvd_pow 2 h

/-- A positive count has at most `n` bits if it lies below `twoPow n`. -/
theorem log2_lt_iff {m n : Nat} (h : m ≠ 0) : m.log2 < n ↔ m < twoPow n := Nat.log2_lt h

end InvoiceReadiness
