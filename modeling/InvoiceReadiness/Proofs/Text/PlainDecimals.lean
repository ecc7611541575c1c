import InvoiceReadiness.Numeric.Tolerance
import InvoiceReadiness.Proofs.Expression.Tokens
import InvoiceReadiness.Proofs.Numeric.DecimalReading
import InvoiceReadiness.Proofs.Text.DateFormats
import InvoiceReadiness.Proofs.Value.Blanks
import Mathlib.Data.List.DropRight

/-!
# Amounts in plain decimal text

An amount is mostly written in plain decimal text: a sign or none, digits of any script, and a
point with digits after it or none. Such a text is always read, as the number nearest to what
its digits write. Zeros at the end of the places change nothing about the amount, so the places
that count are those in front of them (`decimals`), and the significant digits are those between
the zeros at both ends.

## Main results

* `PlainDecimal.readNumber?_text` — the number that is read.
* `PlainDecimal.exists_coefficient` — the amount as a decimal without zeros at its end.
-/

namespace InvoiceReadiness

/-! ## Digits and zeros -/

theorem numberOfDigits_append (ds es : List Nat) :
    numberOfDigits (ds ++ es) = numberOfDigits ds * tenPow es.length + numberOfDigits es := by
  induction es using List.reverseRecOn with
  | nil =>
      rw [List.append_nil]
      exact (Nat.mul_one _).symm
  | append_singleton es d ih =>
      have hpow : tenPow (es.length + 1) = tenPow es.length * 10 := Nat.pow_succ 10 _
      rw [← List.append_assoc, numberOfDigits_concat, numberOfDigits_concat, ih,
        List.length_append, List.length_singleton, hpow]
      ring

theorem numberOfDigits_zeros (count : Nat) : numberOfDigits (List.replicate count 0) = 0 := by
  induction count with
  | zero => rfl
  | succ count ih => rw [List.replicate_succ', numberOfDigits_concat, ih]

/-- Zeros in front do not count. -/
theorem numberOfDigits_dropWhile (ds : List Nat) :
    numberOfDigits (ds.dropWhile (· == 0)) = numberOfDigits ds := by
  induction ds with
  | nil => rfl
  | cons d ds ih =>
      by_cases hd : d = 0
      · subst hd
        exact ih
      · rw [List.dropWhile_cons_of_neg (by simpa using hd)]

/-- What is dropped at the end are zeros. -/
theorem rdropWhile_append_zeros (ds : List Nat) : ∃ count,
    ds = ds.rdropWhile (· == 0) ++ List.replicate count 0 := by
  refine ⟨(ds.rtakeWhile (· == 0)).length, ?_⟩
  have hzeros : ds.rtakeWhile (· == 0) = List.replicate (ds.rtakeWhile (· == 0)).length 0 :=
    List.eq_replicate_iff.2 ⟨rfl, fun d hd => by simpa using List.mem_rtakeWhile_imp hd⟩
  rw [← hzeros, List.rdropWhile_append_rtakeWhile]

/-- Where something is left, nothing in front of it is dropped from the end. -/
theorem rdropWhile_append {ds es : List Nat} (h : es.rdropWhile (· == 0) ≠ []) :
    (ds ++ es).rdropWhile (· == 0) = ds ++ es.rdropWhile (· == 0) := by
  have hsome : (es.reverse.dropWhile (· == 0)).isEmpty = false := by
    rw [List.isEmpty_eq_false_iff]
    exact fun hnil => h (by rw [List.rdropWhile, hnil, List.reverse_nil])
  rw [List.rdropWhile, List.rdropWhile, List.reverse_append, List.dropWhile_append, hsome]
  simp

theorem numberOfDigits_lt_of_digits {ds : List Nat} (h : ∀ d ∈ ds, d < 10) :
    numberOfDigits ds < tenPow ds.length := by
  have hlt := Lexer.foldl_digits_lt h 0
  rwa [Nat.zero_add, Nat.one_mul] at hlt

/-- A number whose last digit is not zero is not divided by ten. -/
theorem numberOfDigits_mod_ten {ds : List Nat} (hdigits : ∀ d ∈ ds, d < 10) (hne : ds ≠ [])
    (hlast : ds.getLast hne ≠ 0) : numberOfDigits ds % 10 ≠ 0 := by
  have hlt := hdigits _ (List.getLast_mem hne)
  rw [← List.dropLast_concat_getLast hne, numberOfDigits_concat]
  omega

/-! ## Reading without separators -/

theorem withoutSeparators?_of_not_mem {cs : List Char} (h : '_' ∉ cs) (afterDigit : Bool) :
    withoutSeparators? afterDigit cs = some cs := by
  induction cs generalizing afterDigit with
  | nil => rfl
  | cons c rest ih =>
      have hc : (c == '_') = false := by
        rw [beq_eq_false_iff_ne]
        exact fun heq => h (heq ▸ List.mem_cons_self)
      rw [withoutSeparators?, hc, if_neg Bool.false_ne_true,
        ih fun hrest => h (List.mem_cons_of_mem c hrest)]
      rfl

/-! ## Plain decimals -/

instance (cs : List Char) : Decidable (Lexer.Digits cs) :=
  decidable_of_iff (cs.all isDecimalDigit) List.all_eq_true

/-- An amount in plain decimal text: a sign or none, digits, and a point with digits after it or
none. At least one digit is written. -/
structure PlainDecimal where
  sign : List Char
  whole : List Char
  fraction : List Char
  isSign : sign = [] ∨ sign = ['+'] ∨ sign = ['-']
  digits_whole : Lexer.Digits whole
  isFraction : Lexer.IsFraction fraction
  hasDigit : whole ≠ [] ∨ 2 ≤ fraction.length

namespace PlainDecimal

variable (a : PlainDecimal)

def text : String := String.ofList (a.sign ++ (a.whole ++ a.fraction))

def negative : Bool := a.sign == ['-']

/-- The values of the digits. -/
def digits : List Nat := Lexer.digitValues (a.whole ++ a.fraction)

/-- The values of the digits after the point. -/
def places : List Nat := Lexer.digitValues a.fraction

/-- The amount without its sign. -/
def magnitude : ℚ := numberOfDigits a.digits / 10 ^ a.places.length

/-- The number that the text is read as. -/
def number : Binary64 :=
  .ofDecimal a.negative (numberOfDigits a.digits) (-(a.places.length : Int))

/-- How many digits are left without the zeros at both ends. -/
def significantDigits : Nat := ((a.digits.rdropWhile (· == 0)).dropWhile (· == 0)).length

/-- How many digits after the point are left without the zeros at the end. -/
def decimals : Nat := (a.places.rdropWhile (· == 0)).length

theorem mem_text {c : Char} (h : c ∈ a.text.toList) :
    c = '+' ∨ c = '-' ∨ c = '.' ∨ isDecimalDigit c := by
  rw [text, String.toList_ofList, List.mem_append, List.mem_append] at h
  rcases h with h | h | h
  · rcases a.isSign with hsign | hsign | hsign <;> rw [hsign] at h
    · cases h
    · exact .inl (List.mem_singleton.1 h)
    · exact .inr (.inl (List.mem_singleton.1 h))
  · exact .inr (.inr (.inr (a.digits_whole c h)))
  · rcases a.isFraction with hfraction | ⟨places, hplaces, hfraction⟩ <;> rw [hfraction] at h
    · cases h
    · rcases List.mem_cons.1 h with rfl | h
      · exact .inr (.inr (.inl rfl))
      · exact .inr (.inr (.inr (hplaces c h)))

theorem isBlankChar_of_mem {c : Char} (h : c ∈ a.text.toList) : isBlankChar c = false := by
  rcases a.mem_text h with rfl | rfl | rfl | hdigit
  · decide
  · decide
  · decide
  · exact Lexer.isBlankChar_of_isDecimalDigit hdigit

theorem trim_text : trim a.text = a.text := by
  rw [trim, trimBlanks, trimChars_of_forall fun c hc => a.isBlankChar_of_mem hc,
    String.ofList_toList]

theorem takeSign_text : takeSign a.text.toList = (a.negative, a.whole ++ a.fraction) := by
  have hnumeral : Lexer.IsNumeral (a.whole ++ a.fraction) :=
    ⟨a.whole, a.fraction, [], a.digits_whole, a.isFraction, .inl rfl, a.hasDigit,
      (List.append_nil _).symm⟩
  rw [text, negative, String.toList_ofList]
  rcases a.isSign with hsign | hsign | hsign <;> rw [hsign]
  · exact Lexer.takeSign_numeral hnumeral
  · rfl
  · rfl

/-- A plain decimal is read. -/
theorem readNumber?_text : readNumber? a.text = some a.number := by
  have hmargin : trimChars isNumberMargin a.text.toList = a.text.toList :=
    trimChars_of_forall fun c hc => by rw [isNumberMargin, a.isBlankChar_of_mem hc, Bool.false_and]
  have hseparator : '_' ∉ a.text.toList := by
    intro hmem
    have hdigit : isDecimalDigit '_' = false := by decide
    rcases a.mem_text hmem with h | h | h | h
    · cases h
    · cases h
    · cases h
    · rw [hdigit] at h
      cases h
  have hsign : takeSign a.text.toList = (a.negative, a.whole ++ a.fraction ++ []) := by
    rw [List.append_nil, a.takeSign_text]
  rw [readNumber?, hmargin, withoutSeparators?_of_not_mem hseparator, Option.bind_some,
    Lexer.unpaddedNumber?_eq hsign a.digits_whole a.isFraction (.inl rfl) a.hasDigit]
  exact congrArg (fun e => some (Binary64.ofDecimal a.negative (numberOfDigits a.digits) e))
    (Int.zero_sub _)

theorem toNumber?_text : (Value.text a.text).toNumber? = some (.float a.number) := by
  rw [Value.toNumber?, a.trim_text, a.readNumber?_text]
  rfl

/-! ## The value -/

theorem digits_eq : a.digits = Lexer.digitValues a.whole ++ a.places :=
  Lexer.digitValues_append _ _

theorem digit_lt {d : Nat} (h : d ∈ a.digits) : d < 10 := by
  obtain ⟨c, -, hc⟩ := List.mem_filterMap.1 h
  exact Lexer.decimalDigit?_lt hc

theorem magnitude_lt_iff : a.magnitude < 1 / 10 ^ 4 ↔
    numberOfDigits a.digits * tenPow 4 < tenPow a.places.length := by
  have hpow : (0 : ℚ) < 10 ^ a.places.length := by positivity
  rw [magnitude, div_lt_div_iff₀ hpow (by norm_num), one_mul, ← cast_tenPow, ← cast_tenPow,
    ← Nat.cast_mul, Nat.cast_lt]

/-- An amount without places that count is whole. -/
theorem exists_whole (h : a.decimals = 0) :
    ∃ n, numberOfDigits a.digits = n * tenPow a.places.length := by
  obtain ⟨count, hplaces⟩ := rdropWhile_append_zeros a.places
  rw [List.eq_nil_of_length_eq_zero h, List.nil_append] at hplaces
  refine ⟨numberOfDigits (Lexer.digitValues a.whole), ?_⟩
  rw [digits_eq, numberOfDigits_append, hplaces, numberOfDigits_zeros, Nat.add_zero]

/-- An amount with places that count is a decimal whose last digit is not zero, with zeros after
it or none. -/
theorem exists_coefficient (h : 0 < a.decimals) :
    ∃ c zeros, c % 10 ≠ 0 ∧ c < tenPow a.significantDigits ∧
      numberOfDigits a.digits = c * tenPow zeros ∧ a.places.length = a.decimals + zeros := by
  obtain ⟨zeros, hplaces⟩ := rdropWhile_append_zeros a.places
  have hne : a.places.rdropWhile (· == 0) ≠ [] := List.length_pos_iff.1 h
  have hkept : a.digits.rdropWhile (· == 0) =
      Lexer.digitValues a.whole ++ a.places.rdropWhile (· == 0) := by
    rw [digits_eq, rdropWhile_append hne]
  have hne' : a.digits.rdropWhile (· == 0) ≠ [] := by
    rw [hkept]
    exact List.append_ne_nil_of_right_ne_nil _ hne
  have hdigits : ∀ d ∈ a.digits.rdropWhile (· == 0), d < 10 := fun d hd =>
    a.digit_lt ((List.rdropWhile_prefix _ _).subset hd)
  have hsplit : a.digits = a.digits.rdropWhile (· == 0) ++ List.replicate zeros 0 := by
    rw [hkept, List.append_assoc, ← hplaces, ← digits_eq]
  refine ⟨numberOfDigits (a.digits.rdropWhile (· == 0)), zeros, ?_, ?_, ?_, ?_⟩
  · have hlast := List.rdropWhile_last_not (· == 0) a.digits hne'
    exact numberOfDigits_mod_ten hdigits hne' (by simpa using hlast)
  · rw [← numberOfDigits_dropWhile]
    exact numberOfDigits_lt_of_digits fun d hd =>
      hdigits d ((List.dropWhile_sublist _).subset hd)
  · conv_lhs => rw [hsplit]
    rw [numberOfDigits_append, numberOfDigits_zeros, Nat.add_zero, List.length_replicate]
  · conv_lhs => rw [hplaces]
    rw [List.length_append, List.length_replicate, decimals]

theorem magnitude_eq_zero_iff : a.magnitude = 0 ↔ numberOfDigits a.digits = 0 := by
  have hpow : (10 : ℚ) ^ a.places.length ≠ 0 := by positivity
  rw [magnitude, div_eq_zero_iff, or_iff_left hpow, Nat.cast_eq_zero]

/-- Only zero is a small amount without places that count. -/
theorem decimals_eq_zero_iff (h : a.magnitude < 1 / 10 ^ 4) :
    a.decimals = 0 ↔ a.magnitude = 0 := by
  rw [a.magnitude_eq_zero_iff]
  constructor
  · intro hplaces
    obtain ⟨n, hn⟩ := a.exists_whole hplaces
    rw [a.magnitude_lt_iff, hn, Nat.mul_right_comm] at h
    by_contra hne
    have hpos : 0 < n * tenPow 4 := Nat.mul_pos
      (Nat.pos_of_ne_zero fun hzero => hne (by rw [hn, hzero, Nat.zero_mul])) (tenPow_pos 4)
    exact absurd (Nat.le_mul_of_pos_left _ hpos) (Nat.not_le_of_lt h)
  · intro hzero
    by_contra hplaces
    obtain ⟨c, zeros, hlast, -, hn, -⟩ := a.exists_coefficient (Nat.pos_of_ne_zero hplaces)
    rw [hzero, eq_comm, Nat.mul_eq_zero] at hn
    rcases hn with hn | hn
    · exact hlast (by rw [hn])
    · exact absurd hn (tenPow_pos zeros).ne'

end PlainDecimal

end InvoiceReadiness
