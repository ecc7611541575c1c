/-!
# Sets of characters given by ranges of code points

The classes that the library needs beyond ASCII (blanks, digits, letters of
words, characters that can be shown) are data of the Unicode standard, version
14. Each is kept as a list of ranges, ends included, in ascending order.
-/

namespace InvoiceReadiness

/-- Ranges of code points, first and last included, in ascending order. -/
abbrev CharRanges := List (Nat × Nat)

/-- Whether some range holds the code point of `c`. -/
def CharRanges.contains (ranges : CharRanges) (c : Char) : Bool :=
  ranges.any fun range => range.1 ≤ c.toNat && c.toNat ≤ range.2

end InvoiceReadiness
