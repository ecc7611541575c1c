import InvoiceReadiness.Text.Visible

/-!
# Quoted text

A message that quotes a text puts it between single quotes, or between double
quotes if the text holds a single quote and no double quote. The backslash and
the enclosing quote are preceded by a backslash; line feed, carriage return and
tab have short escapes; every other character without a visible form is written
by its code in two, four or eight hexadecimal digits.
-/

namespace InvoiceReadiness

/-- The last `width` hexadecimal digits of `n`, lower case. -/
def hexDigits (width n : Nat) : List Char :=
  (List.range width).reverse.map fun place => Nat.digitChar (n / Nat.pow 16 place % 16)

/-- The form of one character between quotes of the given kind. -/
def quotedChar (quote c : Char) : List Char :=
  if c == quote || c == '\\' then ['\\', c]
  else if c == '\n' then ['\\', 'n']
  else if c == '\r' then ['\\', 'r']
  else if c == '\t' then ['\\', 't']
  else if isVisible c then [c]
  else if c.toNat < 0x100 then '\\' :: 'x' :: hexDigits 2 c.toNat
  else if c.toNat < 0x10000 then '\\' :: 'u' :: hexDigits 4 c.toNat
  else '\\' :: 'U' :: hexDigits 8 c.toNat

/-- The quote that encloses a text: single, unless that alone would need escapes. -/
def enclosingQuote (cs : List Char) : Char :=
  if cs.contains '\'' && !cs.contains '"' then '"' else '\''

/-- A text between quotes, with escapes for what cannot stand there. -/
def quoted (s : String) : String :=
  let quote := enclosingQuote s.toList
  String.ofList (quote :: s.toList.flatMap (quotedChar quote) ++ [quote])

end InvoiceReadiness
