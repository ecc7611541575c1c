import InvoiceReadiness.Calendar
import InvoiceReadiness.Numeric.Power

/-!
# Reading written dates

A date is written in a format with four digits for the year and two each for the month and the
day (`DateFormat.write`). A duplicate search reads it back: it tries its formats one after the
other, and no format takes a date that is written in another one. Where the separators differ,
there is nothing to cut the text at. Where they are the same, the year stands at the place of the
day, which has no four digits, and the day at that of the year, which has no two.

## Main results

* `yearPart?_fixedDigits`, `monthPart?_fixedDigits`, `dayPart?_fixedDigits` — the parts of a date.
* `DateFormat.readText?_write` — one format reads a written date.
* `Date.ofAnyFormat?_write` — the search reads it.
-/

namespace InvoiceReadiness

/-! ## Digits in a fixed width -/

/-- The last digits of a number, as many as the width is. -/
def fixedDigits : Nat → Nat → List Char
  | 0, _ => []
  | width + 1, n => fixedDigits width (n / 10) ++ [Nat.digitChar (n % 10)]

theorem length_fixedDigits (width n : Nat) : (fixedDigits width n).length = width := by
  induction width generalizing n with
  | zero => rfl
  | succ width ih => rw [fixedDigits, List.length_append, ih]; rfl

theorem mem_fixedDigits {width n : Nat} {c : Char} (h : c ∈ fixedDigits width n) :
    ∃ d < 10, c = Nat.digitChar d := by
  induction width generalizing n with
  | zero => cases h
  | succ width ih =>
      rw [fixedDigits, List.mem_append, List.mem_singleton] at h
      rcases h with h | rfl
      · exact ih h
      · exact ⟨n % 10, Nat.mod_lt n (by decide), rfl⟩

theorem decimalDigit?_digitChar {d : Nat} (h : d < 10) :
    decimalDigit? (Nat.digitChar d) = some d := by
  have hall : ∀ d < 10, decimalDigit? (Nat.digitChar d) = some d := by decide
  exact hall d h

theorem numberOfDigits_concat (digits : List Nat) (d : Nat) :
    numberOfDigits (digits ++ [d]) = 10 * numberOfDigits digits + d := by
  rw [numberOfDigits, List.foldl_append]
  rfl

theorem mapM_fixedDigits (width n : Nat) :
    ∃ digits, (fixedDigits width n).mapM decimalDigit? = some digits ∧
      numberOfDigits digits = n % tenPow width := by
  induction width generalizing n with
  | zero => exact ⟨[], rfl, (Nat.mod_one n).symm⟩
  | succ width ih =>
      obtain ⟨digits, hdigits, hnumber⟩ := ih (n / 10)
      have hlast : decimalDigit? (Nat.digitChar (n % 10)) = some (n % 10) :=
        decimalDigit?_digitChar (Nat.mod_lt n (by decide))
      refine ⟨digits ++ [n % 10], ?_, ?_⟩
      · simp [fixedDigits, List.mapM_append, hdigits, hlast]
      · have hpow : tenPow (width + 1) = 10 * tenPow width := Nat.mul_comm _ _
        rw [numberOfDigits_concat, hnumber, hpow, Nat.mod_mul]
        omega

/-! ## The parts of a date -/

theorem yearPart?_fixedDigits {year : Nat} (h : year ≤ 9999) :
    yearPart? (fixedDigits 4 year) = some year := by
  obtain ⟨digits, hdigits, hnumber⟩ := mapM_fixedDigits 4 year
  have hfits : year < tenPow 4 := Nat.lt_succ_of_le h
  have hyear : year % tenPow 4 = year := Nat.mod_eq_of_lt hfits
  rw [yearPart?, if_pos (length_fixedDigits 4 year), hdigits, Option.map_some, hnumber, hyear]

theorem monthPart?_fixedDigits {month : Nat} (h : 1 ≤ month) (h' : month ≤ 12) :
    monthPart? (fixedDigits 2 month) = some month := by
  have hall : ∀ month < 13, 1 ≤ month → monthPart? (fixedDigits 2 month) = some month := by
    decide
  exact hall month (by omega) h

theorem dayPart?_fixedDigits {day : Nat} (h : 1 ≤ day) (h' : day ≤ 31) :
    dayPart? (fixedDigits 2 day) = some day := by
  have hall : ∀ day < 32, 1 ≤ day → dayPart? (fixedDigits 2 day) = some day := by
    decide
  exact hall day (by omega) h

/-- Only four digits are read as a year. -/
theorem yearPart?_of_length {cs : List Char} (h : cs.length ≠ 4) : yearPart? cs = none :=
  if_neg h

/-! ## Cutting -/

theorem takeWhile_of_not_mem {separator : Char} {cs : List Char} (h : separator ∉ cs)
    (rest : List Char) :
    (cs ++ rest).takeWhile (· != separator) = cs ++ rest.takeWhile (· != separator) := by
  apply List.takeWhile_append_of_pos
  intro c hc
  have hne : c ≠ separator := by
    rintro rfl
    exact h hc
  simpa using hne

theorem cutAt?_append {separator : Char} {cs : List Char} (h : separator ∉ cs)
    (rest : List Char) : cutAt? separator (cs ++ separator :: rest) = some (cs, rest) := by
  have hfirst : (cs ++ separator :: rest).takeWhile (· != separator) = cs := by
    rw [takeWhile_of_not_mem h]
    simp
  simp only [cutAt?, hfirst, List.drop_left]

theorem cutAt?_eq_none {separator : Char} {cs : List Char} (h : separator ∉ cs) :
    cutAt? separator cs = none := by
  have hfirst := takeWhile_of_not_mem h []
  rw [List.append_nil, List.takeWhile_nil, List.append_nil] at hfirst
  simp only [cutAt?, hfirst, List.drop_length]

/-! ## Written dates -/

namespace DateFormat

/-- Three parts with separators between them. -/
def joined (format : DateFormat) (first middle last : List Char) : List Char :=
  first ++ format.separator :: (middle ++ format.separator :: last)

/-- The characters of a date, with zeros where it has not enough digits. -/
def writeChars (format : DateFormat) (d : Date) : List Char :=
  match format.order with
  | .yearFirst => format.joined (fixedDigits 4 d.year) (fixedDigits 2 d.month) (fixedDigits 2 d.day)
  | .dayFirst => format.joined (fixedDigits 2 d.day) (fixedDigits 2 d.month) (fixedDigits 4 d.year)

def write (format : DateFormat) (d : Date) : String := String.ofList (format.writeChars d)

/-- The date that a cell's text writes in a format, as a duplicate search tries it. -/
def readText? (format : DateFormat) (s : String) : Option Date :=
  format.read? ((trimBlanks s.toList).take 10)

variable {format other : DateFormat} {d : Date}

/-- A separator is a hyphen or a slash. -/
theorem separator_cases (h : format ∈ dateFormats) :
    format.separator = '-' ∨ format.separator = '/' := by
  simp only [dateFormats, List.mem_cons, List.not_mem_nil, or_false] at h
  rcases h with rfl | rfl | rfl | rfl <;> simp

theorem digitChar_ne_separator (h : format ∈ dateFormats) {digit : Nat} (hlt : digit < 10) :
    Nat.digitChar digit ≠ format.separator := by
  have hall : ∀ digit < 10, Nat.digitChar digit ≠ '-' ∧ Nat.digitChar digit ≠ '/' := by decide
  obtain ⟨hhyphen, hslash⟩ := hall digit hlt
  rcases separator_cases h with hsep | hsep
  · rwa [hsep]
  · rwa [hsep]

theorem separator_not_mem (h : format ∈ dateFormats) (width n : Nat) :
    format.separator ∉ fixedDigits width n := by
  intro hmem
  obtain ⟨digit, hlt, hdigit⟩ := mem_fixedDigits hmem
  exact digitChar_ne_separator h hlt hdigit.symm

theorem mem_joined {first middle last : List Char} {c : Char}
    (h : c ∈ format.joined first middle last) :
    c = format.separator ∨ c ∈ first ∨ c ∈ middle ∨ c ∈ last := by
  simp only [joined, List.mem_append, List.mem_cons] at h
  rcases h with h | h | h | h | h <;> simp [h]

/-- The characters of a written date are digits and the separator. -/
theorem mem_writeChars {c : Char} (h : c ∈ format.writeChars d) :
    c = format.separator ∨ ∃ digit < 10, c = Nat.digitChar digit := by
  unfold writeChars at h
  split at h
  all_goals
    rcases mem_joined h with hsep | hpart | hpart | hpart
    · exact .inl hsep
    · exact .inr (mem_fixedDigits hpart)
    · exact .inr (mem_fixedDigits hpart)
    · exact .inr (mem_fixedDigits hpart)

theorem length_writeChars (format : DateFormat) (d : Date) :
    (format.writeChars d).length = 10 := by
  unfold writeChars
  split <;> simp [joined, length_fixedDigits]

/-- There is nothing to trim and nothing to cut off. -/
theorem readText?_write_eq (h : format ∈ dateFormats) :
    other.readText? (format.write d) = other.read? (format.writeChars d) := by
  have hseen : ∀ c ∈ format.writeChars d, isBlankChar c = false := by
    have hall : ∀ digit < 10, isBlankChar (Nat.digitChar digit) = false := by decide
    intro c hc
    rcases mem_writeChars hc with rfl | ⟨digit, hlt, rfl⟩
    · rcases separator_cases h with hsep | hsep
      · rw [hsep]; rfl
      · rw [hsep]; rfl
    · exact hall digit hlt
  have htrim : trimBlanks (format.writeChars d) = format.writeChars d := trimChars_of_forall hseen
  rw [readText?, write, String.toList_ofList, htrim, List.take_of_length_le]
  exact Nat.le_of_eq (length_writeChars format d)

/-- A text in three parts is read part by part. -/
theorem read?_joined {first middle last : List Char} (hfirst : format.separator ∉ first)
    (hmiddle : format.separator ∉ middle) :
    format.read? (format.joined first middle last) = (do
      let month ← monthPart? middle
      match format.order with
      | .yearFirst => (Date.mk (← yearPart? first) month (← dayPart? last)).check?
      | .dayFirst => (Date.mk (← yearPart? last) month (← dayPart? first)).check?) := by
  rw [read?, joined, cutAt?_append hfirst, Option.bind_eq_bind, Option.bind_some]
  dsimp only
  rw [cutAt?_append hmiddle]
  rfl

/-- A text without the separator is not read. -/
theorem read?_eq_none {cs : List Char} (h : format.separator ∉ cs) : format.read? cs = none := by
  rw [read?, cutAt?_eq_none h]
  rfl

/-- A date that is written in a format is read back in it. -/
theorem read?_writeChars (h : format ∈ dateFormats) (hd : d.isValid) :
    format.read? (format.writeChars d) = some d := by
  have hvalid := hd
  simp only [Date.isValid, Bool.and_eq_true, decide_eq_true_eq] at hvalid
  obtain ⟨⟨⟨⟨⟨-, hyear⟩, hmonth⟩, hmonth'⟩, hday⟩, hday'⟩ := hvalid
  have hdays : daysInMonth d.year d.month ≤ 31 := by
    unfold daysInMonth
    split
    · split <;> decide
    · split <;> decide
  have hdate : (Date.mk d.year d.month d.day).check? = some d := if_pos hd
  have hreadYear := yearPart?_fixedDigits hyear
  have hreadMonth := monthPart?_fixedDigits hmonth hmonth'
  have hreadDay := dayPart?_fixedDigits hday (Nat.le_trans hday' hdays)
  unfold writeChars
  cases horder : format.order with
  | yearFirst =>
      dsimp only
      rw [read?_joined (separator_not_mem h 4 _) (separator_not_mem h 2 _), hreadMonth, horder,
        hreadYear, hreadDay]
      exact hdate
  | dayFirst =>
      dsimp only
      rw [read?_joined (separator_not_mem h 2 _) (separator_not_mem h 2 _), hreadMonth, horder,
        hreadYear, hreadDay]
      exact hdate

/-- Where the separator is the same but not the order, the year is sought where the day is. -/
theorem read?_writeChars_order (h : format ∈ dateFormats)
    (hsep : other.separator = format.separator) (horder : other.order ≠ format.order) :
    other.read? (format.writeChars d) = none := by
  have hshort : yearPart? (fixedDigits 2 d.day) = none :=
    yearPart?_of_length (by rw [length_fixedDigits]; decide)
  have hfree (width n : Nat) : other.separator ∉ fixedDigits width n := by
    rw [hsep]
    exact separator_not_mem h width n
  have hjoined : format.joined = other.joined := by
    funext first middle last
    rw [joined, joined, hsep]
  unfold writeChars
  cases hformat : format.order with
  | yearFirst =>
      cases hother : other.order with
      | yearFirst => exact absurd (hother.trans hformat.symm) horder
      | dayFirst =>
          dsimp only
          rw [hjoined, read?_joined (hfree 4 _) (hfree 2 _), hother]
          cases monthPart? (fixedDigits 2 d.month) with
          | none => rfl
          | some month => simp [hshort]
  | dayFirst =>
      cases hother : other.order with
      | yearFirst =>
          dsimp only
          rw [hjoined, read?_joined (hfree 2 _) (hfree 2 _), hother]
          cases monthPart? (fixedDigits 2 d.month) with
          | none => rfl
          | some month => simp [hshort]
      | dayFirst => exact absurd (hother.trans hformat.symm) horder

/-- Where the separators differ, there is nothing to cut at. -/
theorem read?_writeChars_separator (h : other ∈ dateFormats)
    (hsep : other.separator ≠ format.separator) : other.read? (format.writeChars d) = none := by
  apply read?_eq_none
  intro hmem
  rcases mem_writeChars hmem with heq | ⟨digit, hlt, hdigit⟩
  · exact hsep heq
  · exact digitChar_ne_separator h hlt hdigit.symm

/-- A written date is read in the format that it is written in, and in no other. -/
theorem readText?_write (h : format ∈ dateFormats) (hother : other ∈ dateFormats)
    (hd : d.isValid) (e : Date) :
    other.readText? (format.write d) = some e ↔ other = format ∧ e = d := by
  rw [readText?_write_eq h]
  by_cases heq : other = format
  · subst heq
    rw [read?_writeChars h hd, Option.some_inj, and_iff_right rfl, eq_comm]
  · have hnone : other.read? (format.writeChars d) = none := by
      by_cases hsep : other.separator = format.separator
      · apply read?_writeChars_order h hsep
        intro horder
        apply heq
        cases other
        cases format
        simp only at hsep horder
        rw [hsep, horder]
      · exact read?_writeChars_separator hother hsep
    rw [hnone]
    exact iff_of_false nofun (fun hboth => heq hboth.1)

end DateFormat

/-- A written date is read back, whichever of the formats it is written in. -/
theorem Date.ofAnyFormat?_write {format : DateFormat} (h : format ∈ dateFormats) {d : Date}
    (hd : d.isValid) : Date.ofAnyFormat? (format.write d) = some d := by
  have hread : Date.ofAnyFormat? (format.write d) =
      dateFormats.findSome? fun other => other.readText? (format.write d) := rfl
  have hfound : ∃ e, (dateFormats.findSome? fun other => other.readText? (format.write d)) =
      some e := by
    apply Option.isSome_iff_exists.1
    rw [List.findSome?_isSome_iff]
    refine ⟨format, h, ?_⟩
    rw [(DateFormat.readText?_write h h hd d).2 ⟨rfl, rfl⟩]
    rfl
  obtain ⟨e, he⟩ := hfound
  obtain ⟨other, hother, hsome⟩ := List.exists_of_findSome?_eq_some he
  obtain ⟨-, rfl⟩ := (DateFormat.readText?_write h hother hd e).1 hsome
  exact hread.trans he

end InvoiceReadiness
