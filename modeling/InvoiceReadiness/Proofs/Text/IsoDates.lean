import InvoiceReadiness.Calendar.Iso
import InvoiceReadiness.Proofs.Text.DateFormats
import InvoiceReadiness.Proofs.Value.Blanks
import Mathlib.Data.List.Induction
import Mathlib.Algebra.Order.Group.Nat
import Mathlib.Data.Nat.ModEq
import Mathlib.Order.Monotone.Basic
import Mathlib.Tactic.Push
import Mathlib.Tactic.Tauto

/-!
# Dates in the international format

Days are compared by their numbers, and the numbers grow with the dates. A text of four, two
and two digits with hyphens between them has the form of a date. It is read if its digits are
ASCII digits and the calendar has the date, which is to say if it is what a date is written as.

## Main results

* `Date.ordinal_lt_ordinal_iff` — a day comes before another if its date does.
* `isoOrdinalOfCell?_of_hasDateForm` — which texts of the form of a date are read.
-/

namespace InvoiceReadiness

/-! ## The order of dates -/

/-- The number of days in a year. -/
def daysInYear (year : Nat) : Nat := if isLeapYear year then 366 else 365

theorem daysInMonth_le (year month : Nat) : daysInMonth year month ≤ 31 := by
  unfold daysInMonth
  split
  · split <;> decide
  · split <;> decide

theorem daysBeforeYear_succ {year : Nat} (h : 1 ≤ year) :
    daysBeforeYear (year + 1) = daysBeforeYear year + daysInYear year := by
  obtain ⟨y, rfl⟩ := Nat.exists_eq_add_of_le' h
  -- A quotient grows with the years that the divisor divides.
  have hleap : isLeapYear (y + 1) ↔ 4 ∣ y + 1 ∧ (¬100 ∣ y + 1 ∨ 400 ∣ y + 1) := by
    simp [isLeapYear, Nat.dvd_iff_mod_eq_zero]
  have hle : y / 100 ≤ y / 4 := Nat.div_le_div_left (by decide) (by decide)
  have hcentury : 400 ∣ y + 1 → 100 ∣ y + 1 := (Nat.dvd_trans (by decide) ·)
  have hfour : 100 ∣ y + 1 → 4 ∣ y + 1 := (Nat.dvd_trans (by decide) ·)
  simp only [daysBeforeYear, daysInYear, hleap, Nat.add_sub_cancel, Nat.succ_div]
  split_ifs <;> omega

theorem daysBeforeMonth_succ (year : Nat) {month : Nat} (h : 1 ≤ month) :
    daysBeforeMonth year (month + 1) = daysBeforeMonth year month + daysInMonth year month := by
  obtain ⟨m, rfl⟩ := Nat.exists_eq_add_of_le' h
  simp [daysBeforeMonth, List.range_succ]

theorem daysBeforeMonth_mono (year : Nat) : Monotone (daysBeforeMonth year) := by
  refine monotone_nat_of_le_succ fun month => ?_
  cases month with
  | zero => exact Nat.le_refl 0
  | succ month =>
      rw [daysBeforeMonth_succ year (Nat.le_add_left 1 month)]
      exact Nat.le_add_right _ _

/-- The months of a year and their days are those of the year. -/
theorem daysBeforeMonth_thirteen (year : Nat) : daysBeforeMonth year 13 = daysInYear year := by
  rw [daysBeforeMonth, daysInYear]
  cases h : isLeapYear year <;> simp [List.range_succ, daysInMonth, h]

theorem daysBeforeYear_mono : Monotone daysBeforeYear := by
  refine monotone_nat_of_le_succ fun year => ?_
  cases year with
  | zero => exact Nat.le_refl 0
  | succ year =>
      rw [daysBeforeYear_succ (Nat.le_add_left 1 year)]
      exact Nat.le_add_right _ _

namespace Date

/-- A date comes before another one by its year, its month and its day. -/
def Precedes (d e : Date) : Prop :=
  d.year < e.year ∨ d.year = e.year ∧ (d.month < e.month ∨ d.month = e.month ∧ d.day < e.day)

instance (d e : Date) : Decidable (d.Precedes e) := by
  unfold Precedes
  infer_instance

variable {d e : Date}

theorem isValid_iff : d.isValid ↔ (1 ≤ d.year ∧ d.year ≤ 9999) ∧ (1 ≤ d.month ∧ d.month ≤ 12) ∧
    1 ≤ d.day ∧ d.day ≤ daysInMonth d.year d.month := by
  simp only [isValid, Bool.and_eq_true, decide_eq_true_eq]
  tauto

theorem ordinal_lt_of_precedes (hd : d.isValid) (he : e.isValid) (h : d.Precedes e) :
    d.ordinal < e.ordinal := by
  obtain ⟨⟨hyear, -⟩, ⟨hmonth, hmonth'⟩, -, hday⟩ := isValid_iff.1 hd
  obtain ⟨-, ⟨-, -⟩, hday', -⟩ := isValid_iff.1 he
  have hnext := daysBeforeMonth_succ d.year hmonth
  unfold ordinal
  rcases h with hless | ⟨hsame, hless | ⟨hsame', hless⟩⟩
  · have hend : daysBeforeMonth d.year (d.month + 1) ≤ daysInYear d.year := by
      rw [← daysBeforeMonth_thirteen]
      exact daysBeforeMonth_mono _ (by omega)
    have hyears := daysBeforeYear_mono (show d.year + 1 ≤ e.year from hless)
    rw [daysBeforeYear_succ hyear] at hyears
    omega
  · have hmonths := daysBeforeMonth_mono d.year (show d.month + 1 ≤ e.month from hless)
    rw [← hsame]
    omega
  · rw [← hsame, ← hsame']
    omega

/-- The numbers of days grow with the dates. -/
theorem ordinal_lt_ordinal_iff (hd : d.isValid) (he : e.isValid) :
    d.ordinal < e.ordinal ↔ d.Precedes e := by
  refine ⟨fun h => ?_, ordinal_lt_of_precedes hd he⟩
  by_contra hnot
  by_cases heq : d = e
  · rw [heq] at h
    exact Nat.lt_irrefl _ h
  · have hflip : e.Precedes d := by
      have hne : d.year ≠ e.year ∨ d.month ≠ e.month ∨ d.day ≠ e.day := by
        by_contra hall
        push Not at hall
        exact heq (by cases d; cases e; simp_all)
      unfold Precedes at hnot ⊢
      omega
    exact Nat.lt_asymm h (ordinal_lt_of_precedes he hd hflip)

end Date

/-! ## Numbers in ASCII digits -/

theorem isAsciiDigit_iff {c : Char} : isAsciiDigit c ↔ 48 ≤ c.toNat ∧ c.toNat ≤ 57 := by
  rw [isAsciiDigit, Bool.and_eq_true, decide_eq_true_eq, decide_eq_true_eq]

theorem isDecimalDigit_of_isAsciiDigit {c : Char} (h : isAsciiDigit c) : isDecimalDigit c := by
  have hascii : c.toNat < 0x80 := by
    have hbounds := isAsciiDigit_iff.1 h
    omega
  rw [isDecimalDigit, decimalDigit?, if_pos hascii]
  exact congrArg Option.isSome (if_pos h)

theorem isAsciiDigit_of_mem_fixedDigits {width n : Nat} {c : Char} (h : c ∈ fixedDigits width n) :
    isAsciiDigit c := by
  have hall : ∀ d < 10, isAsciiDigit (Nat.digitChar d) := by decide
  obtain ⟨d, hd, rfl⟩ := mem_fixedDigits h
  exact hall d hd

theorem asciiNumeral_concat (cs : List Char) (c : Char) :
    asciiNumeral (cs ++ [c]) = 10 * asciiNumeral cs + (c.toNat - 48) := by
  rw [asciiNumeral, List.map_append]
  exact numberOfDigits_concat _ _

theorem asciiNumeral_fixedDigits (width n : Nat) :
    asciiNumeral (fixedDigits width n) = n % tenPow width := by
  have hall : ∀ d < 10, (Nat.digitChar d).toNat - 48 = d := by decide
  induction width generalizing n with
  | zero => exact (Nat.mod_one n).symm
  | succ width ih =>
      have hpow : tenPow (width + 1) = 10 * tenPow width := Nat.mul_comm _ _
      rw [fixedDigits, asciiNumeral_concat, ih, hall _ (Nat.mod_lt n (by decide)), hpow, Nat.mod_mul]
      omega

/-- ASCII digits are the digits of the number that they write. -/
theorem fixedDigits_asciiNumeral {cs : List Char} (h : ∀ c ∈ cs, isAsciiDigit c) :
    fixedDigits cs.length (asciiNumeral cs) = cs := by
  have hall : ∀ d < 10, Nat.digitChar d = Char.ofNat (d + 48) := by decide
  induction cs using List.reverseRecOn with
  | nil => rfl
  | append_singleton cs c ih =>
      obtain ⟨hle, hle'⟩ := isAsciiDigit_iff.1 (h c (by simp))
      have hdiv : (10 * asciiNumeral cs + (c.toNat - 48)) / 10 = asciiNumeral cs := by omega
      have hmod : (10 * asciiNumeral cs + (c.toNat - 48)) % 10 = c.toNat - 48 := by omega
      rw [List.length_append, List.length_singleton, fixedDigits, asciiNumeral_concat, hdiv, hmod,
        ih fun d hd => h d (List.mem_append_left _ hd), hall _ (by omega), Nat.sub_add_cancel hle,
        Char.ofNat_toNat]

/-! ## Texts of the form of a date -/

/-- The international format. -/
def isoFormat : DateFormat := ⟨.yearFirst, '-'⟩

/-- Four, two and two digits of any script, with hyphens between them. -/
structure HasDateForm (cs year month day : List Char) : Prop where
  text : cs = isoFormat.joined year month day
  yearLength : year.length = 4
  monthLength : month.length = 2
  dayLength : day.length = 2
  digits : ∀ c ∈ year ++ (month ++ day), isDecimalDigit c

/-- A text has the form of a date; a line feed may follow. -/
def IsDateForm (s : String) : Prop :=
  ∃ cs year month day after, HasDateForm cs year month day ∧ s.toList = cs ++ after ∧
    (after = [] ∨ after = ['\n'])

/-- A text is what a date of the calendar is written as; a line feed may follow. -/
def Writes (s : String) (d : Date) : Prop :=
  d.isValid ∧ ∃ after, s.toList = isoFormat.writeChars d ++ after ∧ (after = [] ∨ after = ['\n'])

theorem utf8ByteSize_ofList {cs : List Char} (h : ∀ c ∈ cs, c.toNat < 0x80) :
    (String.ofList cs).utf8ByteSize = cs.length := by
  induction cs with
  | nil => rfl
  | cons c rest ih =>
      obtain ⟨hc, hrest⟩ := List.forall_mem_cons.1 h
      have hcons : String.ofList (c :: rest) = String.singleton c ++ String.ofList rest := by
        rw [← String.toList_inj]
        simp
      have hsize : c.utf8Size = 1 := Char.utf8Size_eq_one_iff.2 (by
        show c.toNat ≤ 127
        omega)
      rw [hcons, String.utf8ByteSize_append, String.utf8ByteSize_singleton, ih hrest, hsize,
        List.length_cons, Nat.add_comm]

namespace HasDateForm

variable {cs year month day : List Char}

/-- The characters are digits and hyphens. -/
theorem mem (h : HasDateForm cs year month day) {c : Char} (hc : c ∈ cs) :
    c = '-' ∨ c ∈ year ++ (month ++ day) := by
  rw [h.text] at hc
  rcases DateFormat.mem_joined hc with heq | hpart | hpart | hpart
  · exact .inl heq
  · exact .inr (List.mem_append_left _ hpart)
  · exact .inr (List.mem_append_right _ (List.mem_append_left _ hpart))
  · exact .inr (List.mem_append_right _ (List.mem_append_right _ hpart))

theorem isBlankChar_eq_false (h : HasDateForm cs year month day) :
    ∀ c ∈ cs, isBlankChar c = false := by
  intro c hc
  rcases h.mem hc with rfl | hdigit
  · rfl
  · exact Lexer.isBlankChar_of_isDecimalDigit (h.digits c hdigit)

theorem length_eq (h : HasDateForm cs year month day) : cs.length = 10 := by
  rw [h.text]
  simp [DateFormat.joined, h.yearLength, h.monthLength, h.dayLength]

/-- A text of the form of a date is read as one if its digits are ASCII digits. -/
theorem isoOrdinal?_eq (h : HasDateForm cs year month day) : isoOrdinal? (String.ofList cs) =
    if (year ++ (month ++ day)).all isAsciiDigit then
      (Date.mk (asciiNumeral year) (asciiNumeral month) (asciiNumeral day)).check?.map Date.ordinal
    else none := by
  have hweek : month.head? ≠ some 'W' := by
    intro hhead
    have hdigit := h.digits 'W' (by simp [List.mem_of_mem_head? hhead])
    exact absurd hdigit (by decide)
  rw [isoOrdinal?_hyphens (String.toList_ofList.trans h.text) h.yearLength h.monthLength
    h.dayLength hweek]
  by_cases hascii : (year ++ (month ++ day)).all isAsciiDigit
  · have hsize : (String.ofList cs).utf8ByteSize = 10 := by
      rw [utf8ByteSize_ofList, h.length_eq]
      intro c hc
      rcases h.mem hc with rfl | hdigit
      · decide
      · have hbounds := isAsciiDigit_iff.1 (List.all_eq_true.1 hascii c hdigit)
        omega
    simp [hsize]
  · simp [hascii]

end HasDateForm

/-- A written date has the form of one. -/
theorem hasDateForm_writeChars (d : Date) : HasDateForm (isoFormat.writeChars d)
    (fixedDigits 4 d.year) (fixedDigits 2 d.month) (fixedDigits 2 d.day) where
  text := rfl
  yearLength := length_fixedDigits 4 _
  monthLength := length_fixedDigits 2 _
  dayLength := length_fixedDigits 2 _
  digits c hc := by
    refine isDecimalDigit_of_isAsciiDigit ?_
    simp only [List.mem_append] at hc
    rcases hc with hc | hc | hc <;> exact isAsciiDigit_of_mem_fixedDigits hc

/-- What may follow a date is blank. -/
theorem isBlankChar_of_lineFeed {after : List Char} (h : after = [] ∨ after = ['\n']) :
    ∀ c ∈ after, isBlankChar c := by
  rcases h with rfl | rfl
  · exact List.forall_mem_nil _
  · exact List.forall_mem_singleton.2 rfl

theorem isoOrdinalOfCell?_append {s : String} {cs year month day after : List Char}
    (h : HasDateForm cs year month day) (hs : s.toList = cs ++ after)
    (hafter : after = [] ∨ after = ['\n']) :
    isoOrdinalOfCell? s = isoOrdinal? (String.ofList cs) := by
  have hblank := isBlankChar_of_lineFeed hafter
  rw [isoOrdinalOfCell?, hs, trimBlanks_append h.isBlankChar_eq_false hblank,
    List.take_of_length_le (Nat.le_of_eq h.length_eq)]

/-- A written date is read as its day. -/
theorem isoOrdinalOfCell?_of_writes {s : String} {d : Date} (h : Writes s d) :
    isoOrdinalOfCell? s = some d.ordinal := by
  obtain ⟨hd, after, hs, hafter⟩ := h
  obtain ⟨⟨-, hyear⟩, ⟨-, hmonth⟩, -, hday⟩ := Date.isValid_iff.1 hd
  have hdays := daysInMonth_le d.year d.month
  have hform := hasDateForm_writeChars d
  have hascii : (fixedDigits 4 d.year ++ (fixedDigits 2 d.month ++ fixedDigits 2 d.day)).all
      isAsciiDigit := by
    rw [List.all_eq_true]
    intro c hc
    simp only [List.mem_append] at hc
    rcases hc with hc | hc | hc <;> exact isAsciiDigit_of_mem_fixedDigits hc
  have hyear : d.year % tenPow 4 = d.year := Nat.mod_eq_of_lt (Nat.lt_succ_of_le hyear)
  have hmonth : d.month % tenPow 2 = d.month := Nat.mod_eq_of_lt (show d.month < 100 by omega)
  have hday : d.day % tenPow 2 = d.day := Nat.mod_eq_of_lt (show d.day < 100 by omega)
  rw [isoOrdinalOfCell?_append hform hs hafter, hform.isoOrdinal?_eq, if_pos hascii,
    asciiNumeral_fixedDigits, asciiNumeral_fixedDigits, asciiNumeral_fixedDigits, hyear, hmonth,
    hday, Date.check?, if_pos hd]
  rfl

/-- A text of the form of a date is read as a day if that is a date of the calendar that it
writes, and in no other case. -/
theorem isoOrdinalOfCell?_eq_some_iff {s : String} (h : IsDateForm s) {n : Nat} :
    isoOrdinalOfCell? s = some n ↔ ∃ d, Writes s d ∧ d.ordinal = n := by
  constructor
  · intro hread
    obtain ⟨cs, year, month, day, after, hform, hs, hafter⟩ := h
    rw [isoOrdinalOfCell?_append hform hs hafter, hform.isoOrdinal?_eq] at hread
    split at hread
    · rename_i hascii
      obtain ⟨d, hd, rfl⟩ := Option.map_eq_some_iff.1 hread
      rw [Date.check?] at hd
      split at hd
      · rename_i hvalid
        cases hd
        refine ⟨_, ⟨hvalid, after, ?_, hafter⟩, rfl⟩
        simp only [List.all_append, Bool.and_eq_true, List.all_eq_true] at hascii
        obtain ⟨hyear, hmonth, hday⟩ := hascii
        have hyear := fixedDigits_asciiNumeral hyear
        have hmonth := fixedDigits_asciiNumeral hmonth
        have hday := fixedDigits_asciiNumeral hday
        rw [hform.yearLength] at hyear
        rw [hform.monthLength] at hmonth
        rw [hform.dayLength] at hday
        rw [hs, hform.text, (hasDateForm_writeChars _).text, hyear, hmonth, hday]
      · cases hd
    · cases hread
  · rintro ⟨d, hd, rfl⟩
    exact isoOrdinalOfCell?_of_writes hd

theorem Writes.isDateForm {s : String} {d : Date} (h : Writes s d) : IsDateForm s := by
  obtain ⟨-, after, hs, hafter⟩ := h
  exact ⟨_, _, _, _, after, hasDateForm_writeChars d, hs, hafter⟩

/-- A text of the form of a date is not blank. -/
theorem IsDateForm.trim_ne {s : String} (h : IsDateForm s) : trim s ≠ "" := by
  obtain ⟨cs, year, month, day, after, hform, hs, hafter⟩ := h
  have hblank := isBlankChar_of_lineFeed hafter
  intro htrim
  have hlength := hform.length_eq
  rw [trim, hs, trimBlanks_append hform.isBlankChar_eq_false hblank] at htrim
  rw [String.ofList_eq_empty_iff.1 htrim] at hlength
  cases hlength

end InvoiceReadiness
