import InvoiceReadiness.Text.CharRanges

/-!
# Blank characters

A cell counts as empty when nothing but blanks is left in it. Blank are the 25
characters that the Unicode standard calls white space, and beside them the
four information separators U+001C to U+001F.

Text that is read as a number may be padded with blanks too, but there the
separators are ordinary characters and make the text unreadable
(`isNumberMargin`).
-/

namespace InvoiceReadiness

/-- The code points of the blank characters. -/
def blankRanges : CharRanges :=
  [
    (0x9, 0xD), (0x1C, 0x20), (0x85, 0x85), (0xA0, 0xA0), (0x1680, 0x1680),
    (0x2000, 0x200A), (0x2028, 0x2029), (0x202F, 0x202F), (0x205F, 0x205F),
    (0x3000, 0x3000)]

/-- White space, or an information separator. -/
def isBlankChar (c : Char) : Bool :=
  if c.toNat < 0x80 then
    (9 ≤ c.toNat && c.toNat ≤ 13) || (28 ≤ c.toNat && c.toNat ≤ 32)
  else blankRanges.contains c

/-- The padding allowed around a number: white space only. -/
def isNumberMargin (c : Char) : Bool :=
  isBlankChar c && !(28 ≤ c.toNat && c.toNat ≤ 31)

/-- The characters left when those in a class are dropped at both ends. -/
def trimChars (drop : Char → Bool) (cs : List Char) : List Char :=
  ((cs.dropWhile drop).reverse.dropWhile drop).reverse

/-- Nothing is dropped where no character is in the class. -/
theorem dropWhile_of_forall {drop : Char → Bool} {cs : List Char}
    (h : ∀ c ∈ cs, drop c = false) : cs.dropWhile drop = cs := by
  cases cs with
  | nil => rfl
  | cons c rest => exact List.dropWhile_cons_of_neg (by simp [h c List.mem_cons_self])

theorem trimChars_of_forall {drop : Char → Bool} {cs : List Char}
    (h : ∀ c ∈ cs, drop c = false) : trimChars drop cs = cs := by
  have hback : ∀ c ∈ cs.reverse, drop c = false := fun c hc => h c (List.mem_reverse.1 hc)
  rw [trimChars, dropWhile_of_forall h, dropWhile_of_forall hback, List.reverse_reverse]

/-- The characters left when the blanks at both ends are dropped. -/
def trimBlanks (cs : List Char) : List Char :=
  trimChars isBlankChar cs

/-- The text left when the blanks at both ends are dropped. -/
def trim (s : String) : String :=
  String.ofList (trimBlanks s.toList)

end InvoiceReadiness
