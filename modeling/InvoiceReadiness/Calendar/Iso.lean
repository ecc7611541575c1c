import InvoiceReadiness.Calendar

/-!
# Dates in the international format

A date may be written as year, month and day or as year, week and day of the
week, in each case with a hyphen between the parts or without. The text has
seven, eight or ten bytes: a week without a day stands for its Monday, and what
follows a date without hyphens up to the tenth byte is not looked at.

What comes of a text is the number of the day, which is all that two dates are
compared by.
-/

namespace InvoiceReadiness

/-- The number that the next `count` ASCII digits write, and the text after them. -/
def takeNumeral? (count : Nat) (cs : List Char) : Option (Nat × List Char) :=
  let digits := cs.take count
  if digits.length = count ∧ digits.all isAsciiDigit then
    some (numberOfDigits (digits.map fun c => c.toNat - 48), cs.drop count)
  else none

/-- The number that ASCII digits write. -/
def asciiNumeral (digits : List Char) : Nat :=
  numberOfDigits (digits.map fun c => c.toNat - 48)

theorem takeNumeral?_append {count : Nat} {digits : List Char} (h : digits.length = count)
    (rest : List Char) : takeNumeral? count (digits ++ rest) =
      if digits.all isAsciiDigit then some (asciiNumeral digits, rest) else none := by
  subst h
  simp only [takeNumeral?, List.take_left, List.drop_left, true_and]
  rfl

/-- The day of the week of a day by its number, Monday being zero. -/
def weekday (ordinal : Nat) : Nat := (ordinal + 6) % 7

/-- The number of the first day of a year. -/
def firstOfYear (year : Nat) : Nat := daysBeforeYear year + 1

/--
The number of the Monday of the first week of a year, the week that holds the
year's first Thursday. It may lie in the year before.
-/
def firstMonday (year : Nat) : Int :=
  let first := firstOfYear year
  let monday : Int := (first : Int) - weekday first
  if 3 < weekday first then monday + 7 else monday

/-- Whether a year has a week of the given number. -/
def hasWeek (year week : Nat) : Bool :=
  if week = 53 then
    let first := weekday (firstOfYear year)
    first == 3 || (first == 2 && isLeapYear year)
  else 1 ≤ week && week < 53

/-- The number of the last day of the calendar. -/
def lastOrdinal : Nat := (Date.mk 9999 12 31).ordinal

/-- The number of a day by year, week and day of the week, Monday being one. -/
def weekOrdinal? (year week day : Nat) : Option Nat :=
  let n := firstMonday year + ((week : Int) - 1) * 7 + ((day : Int) - 1)
  if 1 ≤ year ∧ hasWeek year week ∧ 1 ≤ day ∧ day ≤ 7 ∧ 1 ≤ n ∧ n ≤ lastOrdinal then
    some n.toNat
  else none

/-- A hyphen where one has to be, passed over. -/
private def skipHyphen? (required : Bool) (cs : List Char) : Option (List Char) :=
  if required then
    match cs with
    | '-' :: rest => some rest
    | _ => none
  else some cs

/-- The number of the day after the year and the letter of a week date. -/
private def weekPart? (year : Nat) (hyphens : Bool) (cs : List Char) : Option Nat := do
  let (week, rest) ← takeNumeral? 2 cs
  if rest.isEmpty then weekOrdinal? year week 1
  else
    let rest ← skipHyphen? hyphens rest
    let (day, _) ← takeNumeral? 1 rest
    weekOrdinal? year week day

/-- The number of the day after the year of a month date. -/
private def monthDayPart? (year : Nat) (hyphens : Bool) (cs : List Char) : Option Nat := do
  let (month, rest) ← takeNumeral? 2 cs
  let rest ← skipHyphen? hyphens rest
  let (day, _) ← takeNumeral? 2 rest
  ((Date.mk year month day).check?).map Date.ordinal

/-- The number of the day that a text writes. -/
def isoOrdinal? (s : String) : Option Nat := do
  let size := s.utf8ByteSize
  if size = 7 ∨ size = 8 ∨ size = 10 then
    let (year, rest) ← takeNumeral? 4 s.toList
    let (hyphens, rest) := match rest with
      | '-' :: after => (true, after)
      | _ => (false, rest)
    match rest with
    | 'W' :: after => weekPart? year hyphens after
    | _ => monthDayPart? year hyphens rest
  else none

/-- A text of four, two and two characters with hyphens between them is read if all of them
are ASCII digits, and writes a day if the calendar has it. -/
theorem isoOrdinal?_hyphens {s : String} {year month day : List Char}
    (hs : s.toList = year ++ '-' :: (month ++ '-' :: day)) (hyear : year.length = 4)
    (hmonth : month.length = 2) (hday : day.length = 2) (hweek : month.head? ≠ some 'W') :
    isoOrdinal? s =
      if (s.utf8ByteSize = 7 ∨ s.utf8ByteSize = 8 ∨ s.utf8ByteSize = 10) ∧
          (year ++ (month ++ day)).all isAsciiDigit then
        (Date.mk (asciiNumeral year) (asciiNumeral month) (asciiNumeral day)).check?.map Date.ordinal
      else none := by
  have hdayDigits := takeNumeral?_append hday []
  rw [List.append_nil] at hdayDigits
  have hmonthDay : monthDayPart? (asciiNumeral year) true (month ++ '-' :: day) =
      if (month ++ day).all isAsciiDigit then
        (Date.mk (asciiNumeral year) (asciiNumeral month) (asciiNumeral day)).check?.map Date.ordinal
      else none := by
    rw [monthDayPart?, takeNumeral?_append hmonth, List.all_append]
    cases month.all isAsciiDigit with
    | false => rfl
    | true =>
        simp only [if_true, Option.bind_eq_bind, Option.bind_some, skipHyphen?, hdayDigits]
        cases day.all isAsciiDigit <;> rfl
  simp only [isoOrdinal?, hs, takeNumeral?_append hyear]
  split
  · rename_i hsize
    cases hdigits : year.all isAsciiDigit with
    | false => simp [List.all_append, hdigits]
    | true =>
        obtain ⟨c, more, rfl⟩ := List.exists_cons_of_length_eq_add_one hmonth
        have hc : c ≠ 'W' := fun heq => hweek (congrArg some heq)
        rw [List.all_append, hdigits, Bool.true_and, if_pos rfl]
        simp only [Option.bind_eq_bind, Option.bind_some, List.cons_append]
        split
        · rename_i heq
          cases heq
          exact absurd rfl hc
        · rw [← List.cons_append, hmonthDay]
          simp [hsize]
  · rename_i hsize
    rw [if_neg (fun h => hsize h.1)]

/-- The number of the day that the first ten characters of a trimmed text write. -/
def isoOrdinalOfCell? (s : String) : Option Nat :=
  isoOrdinal? (String.ofList ((trimBlanks s.toList).take 10))

end InvoiceReadiness
