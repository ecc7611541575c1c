import InvoiceReadiness.Text.Blank
import InvoiceReadiness.Text.Digit

/-!
# Calendar dates

Dates of the Gregorian calendar, years 1 to 9999, and the ways in which invoices
write them. Duplicate searches read a date in one of four formats, by day, month
and year or the other way round (`Date.ofAnyFormat?`); days and months may have
one digit there, and digits of any script count, except where a day or month has
a fixed first digit.
-/

namespace InvoiceReadiness

/-- A year, a month and a day, not necessarily of the calendar. -/
structure Date where
  year : Nat
  month : Nat
  day : Nat
  deriving DecidableEq

def isLeapYear (year : Nat) : Bool :=
  year % 4 == 0 && (year % 100 != 0 || year % 400 == 0)

def daysInMonth (year month : Nat) : Nat :=
  if month = 2 then (if isLeapYear year then 29 else 28)
  else if month = 4 ∨ month = 6 ∨ month = 9 ∨ month = 11 then 30
  else 31

/-- The number of days in the years before a year. -/
def daysBeforeYear (year : Nat) : Nat :=
  let y := year - 1
  365 * y + y / 4 - y / 100 + y / 400

/-- The number of days in the months of a year before a month. -/
def daysBeforeMonth (year month : Nat) : Nat :=
  (List.range (month - 1)).foldl (fun days k => days + daysInMonth year (k + 1)) 0

namespace Date

/-- Whether the calendar has the date. -/
def isValid (d : Date) : Bool :=
  1 ≤ d.year && d.year ≤ 9999 && 1 ≤ d.month && d.month ≤ 12 && 1 ≤ d.day &&
    d.day ≤ daysInMonth d.year d.month

/-- The date, if the calendar has it. -/
def check? (d : Date) : Option Date :=
  if d.isValid then some d else none

/-- The number of the day, from the first day of the year 1 on. -/
def ordinal (d : Date) : Nat :=
  daysBeforeYear d.year + daysBeforeMonth d.year d.month + d.day

/-- The number of days between two dates. -/
def gap (d e : Date) : Nat :=
  ((d.ordinal : Int) - e.ordinal).natAbs

end Date

/-! ## The formats of duplicate searches -/

/-- The order of the parts of a date. -/
inductive DateOrder where
  | yearFirst | dayFirst
  deriving DecidableEq

/-- A way to write a date in three parts. -/
structure DateFormat where
  order : DateOrder
  separator : Char

/-- The formats that duplicate searches try, in order. -/
def dateFormats : List DateFormat :=
  [⟨.yearFirst, '-'⟩, ⟨.dayFirst, '-'⟩, ⟨.dayFirst, '/'⟩, ⟨.yearFirst, '/'⟩]

/-- The year that four digits write. -/
def yearPart? (cs : List Char) : Option Nat :=
  if cs.length = 4 then (cs.mapM decimalDigit?).map numberOfDigits else none

/-- The value of one of the digits 1 to 9. -/
private def positiveDigit? (c : Char) : Option Nat :=
  if '1' ≤ c ∧ c ≤ '9' then some (c.toNat - 48) else none

/-- The month that one or two digits write. -/
def monthPart? : List Char → Option Nat
  | [c] => positiveDigit? c
  | ['0', c] => positiveDigit? c
  | ['1', c] => if '0' ≤ c ∧ c ≤ '2' then some (c.toNat - 38) else none
  | _ => none

/-- The day that one or two digits write; a blank may stand for the first of two. -/
def dayPart? : List Char → Option Nat
  | [c] => positiveDigit? c
  | ['0', c] => positiveDigit? c
  | [' ', c] => positiveDigit? c
  | ['1', c] => (decimalDigit? c).map (10 + ·)
  | ['2', c] => (decimalDigit? c).map (20 + ·)
  | ['3', c] => if c == '0' then some 30 else if c == '1' then some 31 else none
  | _ => none

/-- The part of a text before a separator and the one after it. -/
def cutAt? (separator : Char) (cs : List Char) : Option (List Char × List Char) :=
  let first := cs.takeWhile (· != separator)
  match cs.drop first.length with
  | [] => none
  | _ :: rest => some (first, rest)

/-- The date that a text writes in a format. -/
def DateFormat.read? (format : DateFormat) (cs : List Char) : Option Date := do
  let (first, rest) ← cutAt? format.separator cs
  let (middle, last) ← cutAt? format.separator rest
  let month ← monthPart? middle
  match format.order with
  | .yearFirst => (Date.mk (← yearPart? first) month (← dayPart? last)).check?
  | .dayFirst => (Date.mk (← yearPart? last) month (← dayPart? first)).check?

/-- The date that the first ten characters of a trimmed text write in the first format that fits. -/
def Date.ofAnyFormat? (s : String) : Option Date :=
  let cs := (trimBlanks s.toList).take 10
  dateFormats.findSome? fun format => format.read? cs

end InvoiceReadiness
