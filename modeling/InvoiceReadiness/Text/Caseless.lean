import InvoiceReadiness.Text.Case

/-!
# Characters that differ in case only

Two characters are equal without regard to case if the upper case of their
lower case is the same. The class of a character under this relation is small;
`caselessForms` lists it by going through the case tables backwards.
-/

namespace InvoiceReadiness

/-- What all characters that differ in case only have in common. -/
def caseFold (c : Char) : List Char :=
  upperForm (lowerChar c)

/-- The code points that a table sends to `code`. -/
def CaseTable.sources (table : CaseTable) (code : Nat) : List Nat :=
  table.filterMap fun (first, last, step, image) =>
    if image ≤ code && first + (code - image) ≤ last && (code - image) % step == 0 then
      some (first + (code - image))
    else none

/-- The characters whose one-character or long upper case is the given one. -/
def upperSources (form : List Char) : List Char :=
  let long := longUpperForms.filterMap fun (code, codes) =>
    if codes.map Char.ofNat == form then some (Char.ofNat code) else none
  let short := match form with
    | [c] => c.toLower :: (upperTable.sources c.toNat).map Char.ofNat
    | _ => []
  form ++ long ++ short

/-- The characters whose lower case is the given one, itself included. -/
def lowerSources (c : Char) : List Char :=
  let special := if c == 'i' then [Char.ofNat 0x130] else []
  c :: c.toUpper :: special ++ (lowerTable.sources c.toNat).map Char.ofNat

/-- The characters that differ from `c` in case only, itself included. -/
def caselessForms (c : Char) : List Char :=
  let lowers := lowerChar c :: upperSources (caseFold c)
  (c :: lowers ++ lowers.flatMap lowerSources).filter fun d => caseFold d == caseFold c

end InvoiceReadiness
