import InvoiceReadiness.Expression.Lexer
import Mathlib.Data.List.TakeWhile

/-!
# The lexemes of expressions

Each class of lexemes is a set of texts, `InClass`, given without a word on how a
text is searched for one. `Longest` is what cutting means: of all lexemes at the
head of a text, whatever their class, the one that no other exceeds.

The lexer decides by the first character and takes as much as its class allows.
That this is the longest lexeme of all rests on two facts. The first character
of a lexeme determines its class (`classOf?_eq_some`), so that the classes are
disjoint and do not compete at one place. And within a class the lexer is greedy
(`Greedy`): a number cannot be continued by giving up a digit, a symbol is looked
for before those that it starts with, and a text or a field ends at one place only.

## Main results

* `lexemeOf?_eq_some`, `lexemeOf?_eq_none` — what the lexer finds at the head of a
  text is the longest lexeme there, and it finds none if there is none.
* `Longest.unique` — there is one longest lexeme at most, in one class.
-/

namespace InvoiceReadiness

namespace Lexer

/-! ## The classes as sets of texts -/

/-- Decimal digits only, of any script. -/
def Digits (cs : List Char) : Prop := ∀ c ∈ cs, isDecimalDigit c

/-- Nothing, or a point and the digits after it. -/
def IsFraction (cs : List Char) : Prop :=
  cs = [] ∨ ∃ places, Digits places ∧ cs = '.' :: places

/-- Nothing, or the letter `e` with a signed or unsigned run of digits. -/
def IsExponent (cs : List Char) : Prop :=
  cs = [] ∨ ∃ e sign digits, (e = 'e' ∨ e = 'E') ∧
    (sign = [] ∨ sign = ['+'] ∨ sign = ['-']) ∧
    Digits digits ∧ digits ≠ [] ∧ cs = e :: (sign ++ digits)

/-- Digits, a fraction and an exponent, with a digit
before or after the point. -/
def IsNumeral (cs : List Char) : Prop :=
  ∃ whole fraction exponent, Digits whole ∧ IsFraction fraction ∧
    IsExponent exponent ∧
    (whole ≠ [] ∨ 2 ≤ fraction.length) ∧ cs = whole ++ fraction ++ exponent

/--
What may stand between two quotes: characters other than the quote and the
backslash, and pairs of a backslash and a character that is no line feed.
-/
inductive IsBody (quote : Char) : List Char → Prop where
  | nil : IsBody quote []
  | plain {c : Char} {cs : List Char} (hquote : c ≠ quote) (hslash : c ≠ '\\')
      (rest : IsBody quote cs) : IsBody quote (c :: cs)
  | escape {c : Char} {cs : List Char} (hfeed : c ≠ '\n')
      (rest : IsBody quote cs) :
      IsBody quote ('\\' :: c :: cs)

/-- No braces. -/
def Unbraced (cs : List Char) : Prop := ∀ c ∈ cs, c ≠ '\x7b' ∧ c ≠ '\x7d'

/-- The texts that are lexemes of a class. -/
def InClass : LexemeClass → List Char → Prop
  | .space, cs => cs ≠ [] ∧ ∀ c ∈ cs, isBlankChar c
  | .number, cs => IsNumeral cs
  | .text, cs =>
      ∃ quote body, (quote = '"' ∨ quote = '\'') ∧ IsBody quote body ∧
      cs = quote :: (body ++ [quote])
  | .field, cs =>
      ∃ body, body ≠ [] ∧ Unbraced body ∧ cs = '\x7b' :: (body ++ ['\x7d'])
  | .operator, cs => ∃ symbol ∈ symbols, cs = symbol.1.toList
  | .word, cs =>
      ∃ c rest, isWordStart c ∧ (∀ d ∈ rest, isAsciiWordChar d) ∧ cs = c :: rest

/-- The lexeme at the head of a text that is at least as long as any other. -/
structure Longest (text : List Char) (kind : LexemeClass) (lexeme : List Char) :
    Prop where
  head : lexeme <+: text
  inClass : InClass kind lexeme
  length_le : ∀ {other : List Char} {otherKind : LexemeClass}, other <+: text →
    InClass otherKind other → other.length ≤ lexeme.length

/-! ## The first character determines the class -/

variable {kind : LexemeClass} {lexeme text rest : List Char} {c : Char}

/-- The class of the lexemes that a character can start. -/
def classOf? (c : Char) : Option LexemeClass :=
  if isBlankChar c then some .space
  else if isDecimalDigit c || c == '.' then some .number
  else if c == '"' || c == '\'' then some .text
  else if c == '\x7b' then some .field
  else if isWordStart c then some .word
  else if symbols.any fun symbol => symbol.1.toList.head? == some c then
    some .operator
  else none

/-- No script has a decimal digit that is blank. -/
theorem isBlankChar_of_isDecimalDigit (h : isDecimalDigit c) :
    isBlankChar c = false := by
  have hdisjoint : ∀ range ∈ blankRanges, ∀ first ∈ digitZeros,
      range.2 < first ∨ first + 10 ≤ range.1 := by decide
  unfold isDecimalDigit decimalDigit? at h
  unfold isBlankChar
  by_cases hascii : c.toNat < 0x80
  · simp only [hascii, if_true] at h ⊢
    split at h
    · rename_i hdigit
      simp only [Bool.and_eq_true, decide_eq_true_eq] at hdigit
      simp only [Bool.or_eq_false_iff, Bool.and_eq_false_imp,
        decide_eq_true_eq, decide_eq_false_iff_not]
      omega
    · cases h
  · simp only [hascii, if_false, CharRanges.contains] at h ⊢
    obtain ⟨first, hmem, hfirst⟩ :
        ∃ first ∈ digitZeros, first ≤ c.toNat ∧ c.toNat < first + 10 := by
          simpa using h
    rw [List.any_eq_false]
    intro range hrange
    have := hdisjoint range hrange first hmem
    simp only [Bool.and_eq_true, decide_eq_true_eq]
    omega

/-- A digit is none of the other characters of numerals. -/
theorem ne_of_isDecimalDigit (h : isDecimalDigit c) :
    c ≠ '.' ∧ c ≠ 'e' ∧ c ≠ 'E' ∧ c ≠ '+' ∧ c ≠ '-' := by
  refine ⟨?_, ?_, ?_, ?_, ?_⟩
  all_goals
    rintro rfl
    exact absurd h (by decide)

/-- Words start with ASCII letters and the underscore. -/
theorem toNat_of_isWordStart (h : isWordStart c) :
    65 ≤ c.toNat ∧ c.toNat ≤ 122 := by
  change (decide ('A'.val ≤ c.val ∧ c.val ≤ 'Z'.val) ||
    (decide ('a'.val ≤ c.val) && decide (c.val ≤ 'z'.val)) ||
    c == '_') = true at h
  simp only [Bool.or_eq_true, Bool.and_eq_true, decide_eq_true_eq,
    UInt32.le_iff_toNat_le, beq_iff_eq] at h
  change ((65 ≤ c.toNat ∧ c.toNat ≤ 90) ∨ (97 ≤ c.toNat ∧ c.toNat ≤ 122)) ∨
    c = '_' at h
  rcases h with (h | h) | rfl
  · omega
  · omega
  · decide

theorem classOf?_of_isDecimalDigit (h : isDecimalDigit c) :
    classOf? c = some .number := by
  simp [classOf?, isBlankChar_of_isDecimalDigit h, h]

theorem classOf?_of_isWordStart (h : isWordStart c) :
    classOf? c = some .word := by
  have hcode := toNat_of_isWordStart h
  have hblank : isBlankChar c = false := by
    simp only [isBlankChar, show c.toNat < 0x80 by omega, if_true,
      Bool.or_eq_false_iff, Bool.and_eq_false_imp, decide_eq_true_eq,
      decide_eq_false_iff_not]
    omega
  have hdigit : isDecimalDigit c = false := by
    simp only [isDecimalDigit, decimalDigit?, show c.toNat < 0x80 by omega,
      if_true, Bool.and_eq_true, decide_eq_true_eq,
      Option.isSome_eq_false_iff, Option.isNone_iff_eq_none,
      ite_eq_right_iff, reduceCtorEq, imp_false]
    omega
  have hne (d : Char) (hd : d.toNat < 65 ∨ 122 < d.toNat) : c ≠ d := by
    rintro rfl
    omega
  simp [classOf?, hblank, hdigit, h, hne '.' (by decide), hne '"' (by decide),
    hne '\'' (by decide), hne '\x7b' (by decide)]

/-- A numeral starts with a digit or with a point. -/
theorem IsNumeral.head {cs : List Char} (h : IsNumeral cs) :
    ∃ c rest, cs = c :: rest ∧ (isDecimalDigit c ∨ c = '.') := by
  obtain ⟨whole, fraction, exponent, hwhole, hfraction, -, hany, rfl⟩ := h
  cases whole with
  | cons c rest =>
      exact ⟨c, rest ++ fraction ++ exponent, by simp,
        .inl (hwhole c (by simp))⟩
  | nil =>
      rcases hfraction with rfl | ⟨places, -, rfl⟩
      · simp at hany
      · exact ⟨'.', places ++ exponent, by simp, .inr rfl⟩

/-- The first character of a lexeme tells its class. -/
theorem classOf?_eq_some {cs : List Char}
    (h : InClass kind (c :: cs)) : classOf? c = some kind := by
  cases kind with
  | space =>
      have hblank : isBlankChar c := h.2 c (by simp)
      simp [classOf?, hblank]
  | number =>
      obtain ⟨first, rest, hcs, hfirst⟩ := IsNumeral.head h
      obtain ⟨rfl, -⟩ := List.cons.inj hcs
      rcases hfirst with hdigit | rfl
      · exact classOf?_of_isDecimalDigit hdigit
      · decide
  | text =>
      obtain ⟨quote, body, hquote, -, hcs⟩ := h
      obtain ⟨rfl, -⟩ := List.cons.inj hcs
      rcases hquote with rfl | rfl <;> decide
  | field =>
      obtain ⟨body, -, -, hcs⟩ := h
      obtain ⟨rfl, -⟩ := List.cons.inj hcs
      decide
  | operator =>
      obtain ⟨symbol, hsymbol, hcs⟩ := h
      have hall : ∀ symbol ∈ symbols,
          symbol.1.toList.head?.bind classOf? = some .operator := by decide
      simpa [← hcs] using hall symbol hsymbol
  | word =>
      obtain ⟨first, rest, hfirst, -, hcs⟩ := h
      obtain ⟨rfl, -⟩ := List.cons.inj hcs
      exact classOf?_of_isWordStart hfirst

/-- No lexeme is empty. -/
theorem ne_nil_of_inClass (h : InClass kind lexeme) :
    lexeme ≠ [] := by
  rintro rfl
  cases kind with
  | space => exact h.1 rfl
  | number =>
      obtain ⟨c, rest, hcs, -⟩ := IsNumeral.head h
      cases hcs
  | text =>
      obtain ⟨quote, body, -, -, hcs⟩ := h
      cases hcs
  | field =>
      obtain ⟨body, -, -, hcs⟩ := h
      cases hcs
  | operator =>
      obtain ⟨symbol, hsymbol, hcs⟩ := h
      have hall : ∀ symbol ∈ symbols, [] ≠ symbol.1.toList := by decide
      exact hall symbol hsymbol hcs
  | word =>
      obtain ⟨c, rest, -, -, hcs⟩ := h
      cases hcs

/-- A text is a lexeme of one class at most. -/
theorem inClass_unique {other : LexemeClass} (h : InClass kind lexeme)
    (hother : InClass other lexeme) : kind = other := by
  cases lexeme with
  | nil => exact absurd rfl (ne_nil_of_inClass h)
  | cons c cs =>
      exact Option.some.inj
        ((classOf?_eq_some h).symm.trans (classOf?_eq_some hother))

/-! ## Greedy search within a class -/

/--
What a search for the lexemes of one class at the head of a text has to find: the
longest of them, or nothing.
-/
structure Greedy (lexemes : List Char → Prop) (text found : List Char) :
    Prop where
  head : found <+: text
  mem : found = [] ∨ lexemes found
  length_le : ∀ {other : List Char}, other <+: text → lexemes other →
    other.length ≤ found.length

/-- Where no lexeme of the class stands, there is nothing to be found. -/
theorem Greedy.of_none {lexemes : List Char → Prop}
    (h : ∀ {other}, other <+: text → lexemes other → other = []) :
    Greedy lexemes text [] where
  head := List.nil_prefix
  mem := .inl rfl
  length_le hhead hother := by simp [h hhead hother]

theorem Greedy.nil (lexemes : List Char → Prop) : Greedy lexemes [] [] :=
  .of_none fun hhead _ => List.prefix_nil.1 hhead

section Runs

variable {p : Char → Bool}

/-- A run of characters of a kind cannot be longer than
the one that is taken. -/
theorem length_le_takeWhile {run : List Char} (hhead : run <+: text)
    (hrun : ∀ c ∈ run, p c) :
    run.length ≤ (text.takeWhile p).length := by
  obtain ⟨rest, rfl⟩ := hhead
  simp [List.takeWhile_append_of_pos hrun]

/-- The run that is taken ends where a character of another kind comes. -/
theorem takeWhile_append_stop {run : List Char} (hrun : ∀ c ∈ run, p c)
    (hrest : ∀ c ∈ rest.head?, p c = false) :
    (run ++ rest).takeWhile p = run := by
  rw [List.takeWhile_append_of_pos hrun]
  cases rest with
  | nil => simp
  | cons c rest => simp [hrest c (by simp)]

/-- Every text is a run of characters of a kind and a rest that
starts with another one. -/
theorem exists_run (p : Char → Bool) (text : List Char) :
    ∃ run rest, text = run ++ rest ∧ (∀ c ∈ run, p c) ∧
      ∀ c ∈ rest.head?, p c = false := by
  refine ⟨text.takeWhile p, text.dropWhile p,
    List.takeWhile_append_dropWhile.symm, fun c => List.mem_takeWhile_imp, ?_⟩
  intro c hc
  have hnot := List.head?_dropWhile_not p text
  rw [Option.mem_def.1 hc] at hnot
  simpa using hnot

end Runs

/-! ### Numbers -/

/-- No digit comes first. -/
def NoDigit (cs : List Char) : Prop := ∀ c ∈ cs.head?, isDecimalDigit c = false

theorem IsExponent.noDigit {exponent : List Char} (h : IsExponent exponent)
    (hne : exponent ≠ []) (rest : List Char) : NoDigit (exponent ++ rest) := by
  rcases h with rfl | ⟨e, sign, digits, he, -, -, -, rfl⟩
  · exact absurd rfl hne
  · rcases he with rfl | rfl <;> simp [NoDigit] <;> decide

/-- The sign that an exponent takes from the text after its letter. -/
def exponentSign : List Char → List Char
  | '+' :: _ => ['+']
  | '-' :: _ => ['-']
  | _ => []

theorem exponentOf_cons {e : Char} (he : e = 'e' ∨ e = 'E') (rest : List Char)
    {after : List Char}
    (hafter : rest.drop (exponentSign rest).length = after) :
    exponentOf (e :: rest) = if after.takeWhile isDecimalDigit = [] then []
      else e :: (exponentSign rest ++ after.takeWhile isDecimalDigit) := by
  have hunfold : exponentOf (e :: rest) =
      (let sign := exponentSign rest
       let digits := (rest.drop sign.length).takeWhile isDecimalDigit
       if digits.isEmpty then [] else e :: sign ++ digits) := by
    unfold exponentOf exponentSign
    rcases he with rfl | rfl <;> rfl
  rw [hunfold]
  simp only [hafter, List.isEmpty_iff, List.cons_append]

theorem exponentSign_spec (rest : List Char) :
    (exponentSign rest = [] ∨ exponentSign rest = ['+'] ∨
      exponentSign rest = ['-']) ∧
      exponentSign rest ++ rest.drop (exponentSign rest).length = rest := by
  unfold exponentSign
  split <;> simp

/-- An exponent that a text starts with takes the sign that the lexer takes. -/
theorem exponentSign_of_prefix {sign digits : List Char}
    (hsign : sign = [] ∨ sign = ['+'] ∨ sign = ['-']) (hdigits : Digits digits)
    (hne : digits ≠ []) (hhead : sign ++ digits <+: rest) :
    exponentSign rest = sign := by
  obtain ⟨tail, rfl⟩ := hhead
  obtain ⟨d, ds, rfl⟩ := List.exists_cons_of_ne_nil hne
  have hd : isDecimalDigit d := hdigits d (by simp)
  rcases hsign with rfl | rfl | rfl
  · obtain ⟨-, -, -, hplus, hminus⟩ := ne_of_isDecimalDigit hd
    simp only [exponentSign, List.nil_append, List.cons_append]
    split <;> simp_all
  · rfl
  · rfl

theorem exponentOf_eq_nil {e : Char} (he : ¬(e = 'e' ∨ e = 'E'))
    (rest : List Char) : exponentOf (e :: rest) = [] := by
  simp only [not_or] at he
  simp [exponentOf, he.1, he.2]

/-- An exponent at the head of a text has the sign that is taken there, and no more digits
than are taken. -/
theorem IsExponent.length_le_taken {other after : List Char} {e : Char}
    (h : IsExponent other) (hne : other ≠ []) (hhead : other <+: e :: rest)
    (hrest : exponentSign rest ++ after = rest) :
    after.takeWhile isDecimalDigit ≠ [] ∧
      other.length ≤
        (e :: (exponentSign rest ++ after.takeWhile isDecimalDigit)).length := by
  rcases h with rfl | ⟨e', sign, digits, -, hsign, hdigits, hsome, rfl⟩
  · exact absurd rfl hne
  · obtain ⟨-, htail⟩ := List.cons_prefix_cons.1 hhead
    have hsame := exponentSign_of_prefix hsign hdigits hsome htail
    rw [hsame] at hrest ⊢
    rw [← hrest, List.prefix_append_right_inj] at htail
    have hdigitsLength := length_le_takeWhile htail hdigits
    have hpos := List.length_pos_iff.2 hsome
    refine ⟨List.ne_nil_of_length_pos (by omega), ?_⟩
    simp only [List.length_cons, List.length_append]
    omega

theorem exponentOf_greedy_cons {e : Char} (he : e = 'e' ∨ e = 'E') (rest : List Char) :
    Greedy IsExponent (e :: rest) (exponentOf (e :: rest)) := by
  obtain ⟨hsign, hrest⟩ := exponentSign_spec rest
  generalize hafter : rest.drop (exponentSign rest).length = after at hrest
  rw [exponentOf_cons he rest hafter]
  split
  · rename_i hempty
    refine .of_none fun hhead hother => ?_
    by_contra hne
    exact (hother.length_le_taken hne hhead hrest).1 hempty
  · rename_i hnonempty
    refine ⟨⟨after.dropWhile isDecimalDigit, ?_⟩, .inr (.inr ?_), ?_⟩
    · rw [List.cons_append, List.append_assoc, List.takeWhile_append_dropWhile, hrest]
    · exact ⟨e, exponentSign rest, _, he, hsign, fun c => List.mem_takeWhile_imp, hnonempty, rfl⟩
    · intro other hhead hother
      by_cases hne : other = []
      · simp [hne]
      · exact (hother.length_le_taken hne hhead hrest).2

theorem exponentOf_greedy (text : List Char) :
    Greedy IsExponent text (exponentOf text) := by
  cases text with
  | nil => exact .nil _
  | cons e rest =>
      by_cases he : e = 'e' ∨ e = 'E'
      · exact exponentOf_greedy_cons he rest
      · rw [exponentOf_eq_nil he]
        refine .of_none fun hhead hother => ?_
        rcases hother with rfl | ⟨e', sign, digits, he', -, -, -, rfl⟩
        · rfl
        · obtain ⟨rfl, -⟩ := List.cons_prefix_cons.1 hhead
          exact absurd he' he

/-- A number without a point: a whole part and the exponent after it. -/
theorem numberOf_whole {whole : List Char} (hwhole : Digits whole)
    (hrest : NoDigit rest) (hpoint : rest.head? ≠ some '.') :
    numberOf (whole ++ rest) =
      if whole = [] then [] else whole ++ exponentOf rest := by
  have hrun : (whole ++ rest).takeWhile isDecimalDigit = whole :=
    takeWhile_append_stop hwhole hrest
  simp only [numberOf, hrun, List.drop_left]
  split
  · simp at hpoint
  · simp

/-- A number with a point: a whole part, the places after the
point and the exponent. -/
theorem numberOf_point {whole places : List Char} (hwhole : Digits whole)
    (hplaces : Digits places) (hrest : NoDigit rest) :
    numberOf (whole ++ '.' :: (places ++ rest)) =
      if whole = [] ∧ places = [] then []
      else whole ++ '.' :: places ++ exponentOf rest := by
  have hpoint : NoDigit ('.' :: (places ++ rest)) := by
    simp only [NoDigit, List.head?_cons, Option.mem_some_iff, forall_eq']
    decide
  have hrun := takeWhile_append_stop hwhole hpoint
  have hplacesRun := takeWhile_append_stop hplaces hrest
  simp only [numberOf, hrun, List.drop_left, hplacesRun, Bool.and_eq_true,
    List.isEmpty_iff]
  by_cases hnone : whole = [] ∧ places = []
  · simp [hnone]
  · simp [hnone]

/-- What a text with an exponent at its head has there, digits
before it allowed for. -/
theorem IsExponent.length_le {exponent : List Char} (h : IsExponent exponent)
    {digits tail : List Char} (hdigits : Digits digits)
    (hsplit : exponent ++ tail = digits ++ rest) :
    exponent.length ≤ digits.length + (exponentOf rest).length := by
  by_cases hne : exponent = []
  · simp [hne]
  · have hnodigit := h.noDigit hne tail
    have hnone : digits = [] := by
      cases digits with
      | nil => rfl
      | cons d ds =>
          have hd : isDecimalDigit d = false := hnodigit d (by simp [hsplit])
          simp [hdigits d (by simp)] at hd
    have hhead : exponent <+: rest := ⟨tail, by simpa [hnone] using hsplit⟩
    have := (exponentOf_greedy rest).length_le hhead h
    omega

theorem isExponent_exponentOf (text : List Char) :
    IsExponent (exponentOf text) := by
  rcases (exponentOf_greedy text).mem with hnil | h
  · exact .inl hnil
  · exact h

/-- What the lexer takes for a number stands there and is one. -/
theorem numberOf_sound (text : List Char) :
    numberOf text <+: text ∧
    (numberOf text = [] ∨ IsNumeral (numberOf text)) := by
  obtain ⟨whole, rest, rfl, hwhole, hrest⟩ := exists_run isDecimalDigit text
  by_cases hpoint : rest.head? = some '.'
  · obtain ⟨after, rfl⟩ := List.head?_eq_some_iff.1 hpoint
    obtain ⟨places, rest, rfl, hplaces, hafter⟩ :=
      exists_run isDecimalDigit after
    rw [numberOf_point hwhole hplaces hafter]
    split
    · exact ⟨List.nil_prefix, .inl rfl⟩
    · rename_i hsome
      refine ⟨?_, .inr ⟨whole, '.' :: places, exponentOf rest, hwhole,
        .inr ⟨places, hplaces, rfl⟩, isExponent_exponentOf rest, ?_, rfl⟩⟩
      · simpa [List.append_assoc, List.prefix_append_right_inj]
          using (exponentOf_greedy rest).head
      · by_cases hnil : whole = []
        · have hplace := List.length_pos_iff.2 fun h => hsome ⟨hnil, h⟩
          exact .inr (Nat.succ_le_succ hplace)
        · exact .inl hnil
  · rw [numberOf_whole hwhole hrest hpoint]
    split
    · exact ⟨List.nil_prefix, .inl rfl⟩
    · rename_i hsome
      refine ⟨(List.prefix_append_right_inj whole).2
        (exponentOf_greedy rest).head, .inr ?_⟩
      exact ⟨whole, [], exponentOf rest, hwhole, .inl rfl,
        isExponent_exponentOf rest, .inl hsome, by simp⟩

/--
The number the lexer takes is the longest there. The digits that follow a numeral
before its exponent continue its whole part or its fraction, and what comes after
them can only be longer than the exponent it had.
-/
theorem numberOf_greedy (text : List Char) :
    Greedy IsNumeral text (numberOf text) := by
  refine ⟨(numberOf_sound text).1, (numberOf_sound text).2, ?_⟩
  intro other hhead hother
  obtain ⟨whole, fraction, exponent, hwhole, hfraction, hexponent, hany, rfl⟩ :=
    hother
  obtain ⟨tail, rfl⟩ := hhead
  obtain ⟨digits, rest, hsplit, hdigits, hrest⟩ :=
    exists_run isDecimalDigit (exponent ++ tail)
  have hlength := hexponent.length_le hdigits hsplit
  rcases hfraction with rfl | ⟨places, hplaces, rfl⟩
  · have hne : whole ≠ [] := by simpa using hany
    have hmore : Digits (whole ++ digits) := fun c hc =>
      (List.mem_append.1 hc).elim (hwhole c) (hdigits c)
    have htext : whole ++ [] ++ exponent ++ tail = whole ++ digits ++ rest := by
      simp [hsplit]
    rw [htext]
    by_cases hpoint : rest.head? = some '.'
    · obtain ⟨after, rfl⟩ := List.head?_eq_some_iff.1 hpoint
      obtain ⟨more, rest, rfl, hmorePlaces, hafter⟩ :=
        exists_run isDecimalDigit after
      have hnone : exponentOf ('.' :: (more ++ rest)) = [] :=
        exponentOf_eq_nil (by decide) _
      rw [numberOf_point hmore hmorePlaces hafter, if_neg (by simp [hne])]
      simp only [hnone, List.length_nil] at hlength
      simp only [List.length_append, List.length_cons, List.length_nil]
      omega
    · rw [numberOf_whole hmore hrest hpoint, if_neg (by simp [hne])]
      simp only [List.length_append, List.length_nil]
      omega
  · have hmore : Digits (places ++ digits) := fun c hc =>
      (List.mem_append.1 hc).elim (hplaces c) (hdigits c)
    have htext : whole ++ '.' :: places ++ exponent ++ tail =
        whole ++ '.' :: (places ++ digits ++ rest) := by
      simp [hsplit]
    have hsome : ¬(whole = [] ∧ places ++ digits = []) := by
      rintro ⟨rfl, hnil⟩
      simp_all
    rw [htext, numberOf_point hwhole hmore hrest, if_neg hsome]
    simp only [List.length_append, List.length_cons]
    omega

/-! ### Texts -/

/-- What is found between the quotes can stand there, and is closed. -/
theorem isBody_of_textBody? {quote : Char} {found : List Char}
    (h : textBody? quote text = some found) :
    ∃ body, IsBody quote body ∧ found = body ++ [quote] ∧ found <+: text := by
  fun_induction textBody? quote text generalizing found with
  | case1 => cases h
  | case2 c rest hc =>
      obtain rfl := Option.some.inj h
      obtain rfl := eq_of_beq hc
      exact ⟨[], .nil, rfl, by simp⟩
  | case3 => cases h
  | case4 => cases h
  | case5 c hquote hslash next after hfeed ih =>
      obtain ⟨more, hmore, rfl⟩ := Option.map_eq_some_iff.1 h
      obtain ⟨body, hbody, rfl, hhead⟩ := ih hmore
      obtain rfl := eq_of_beq hslash
      exact ⟨'\\' :: next :: body, .escape (by simpa using hfeed) hbody,
        rfl, by simpa using hhead⟩
  | case6 c rest hquote hslash ih =>
      obtain ⟨more, hmore, rfl⟩ := Option.map_eq_some_iff.1 h
      obtain ⟨body, hbody, rfl, hhead⟩ := ih hmore
      exact ⟨c :: body,
        .plain (by simpa using hquote) (by simpa using hslash) hbody, rfl,
        by simpa using hhead⟩

/-- What can stand between two quotes is found there, up to the second one. -/
theorem textBody?_of_isBody {quote : Char} {body : List Char}
    (hquote : quote ≠ '\\') (h : IsBody quote body) (rest : List Char) :
    textBody? quote (body ++ quote :: rest) = some (body ++ [quote]) := by
  induction h with
  | nil =>
      unfold textBody?
      simp
  | plain hc hslash _ ih =>
      unfold textBody?
      simp [hc, hslash, ih]
  | escape hfeed _ ih => simp [textBody?, hquote.symm, hfeed, ih]

/-- The characters of the quoted text at the head of a text;
none if there is none. -/
def textOf : List Char → List Char
  | [] => []
  | c :: rest =>
    if c == '"' || c == '\'' then
      ((textBody? c rest).map fun body => c :: body).getD []
    else []

/-- What the lexer takes for a quoted text stands there and is one. -/
theorem textOf_sound (text : List Char) :
    textOf text <+: text ∧
    (textOf text = [] ∨ InClass .text (textOf text)) := by
  cases text with
  | nil => exact ⟨List.nil_prefix, .inl rfl⟩
  | cons c rest =>
      by_cases hquote : c = '"' ∨ c = '\''
      · cases hfound : textBody? c rest with
        | none => simp [textOf, hfound]
        | some found =>
            obtain ⟨body, hbody, rfl, hhead⟩ := isBody_of_textBody? hfound
            have htext : textOf (c :: rest) = c :: (body ++ [c]) := by
              simp [textOf, hquote, hfound]
            rw [htext]
            exact ⟨List.cons_prefix_cons.2 ⟨rfl, hhead⟩,
              .inr ⟨c, body, hquote, hbody, rfl⟩⟩
      · simp [textOf, hquote]

/-- A text that stands at this place is the one that is found. -/
theorem textOf_of_inClass {other : List Char} (hhead : other <+: text)
    (hother : InClass .text other) : textOf text = other := by
  obtain ⟨quote, body, hquote, hbody, rfl⟩ := hother
  obtain ⟨tail, rfl⟩ := hhead
  have hne : quote ≠ '\\' := by rcases hquote with rfl | rfl <;> decide
  have hclosed := textBody?_of_isBody hne hbody tail
  rw [List.cons_append, List.append_assoc, List.singleton_append,
    textOf, hclosed]
  simp [hquote]

theorem textOf_greedy (text : List Char) :
    Greedy (InClass .text) text (textOf text) :=
  ⟨(textOf_sound text).1, (textOf_sound text).2,
    fun hhead hother => (textOf_of_inClass hhead hother ▸ Nat.le_refl _)⟩

/-! ### Fields -/

/-- The test by which the lexer looks for the end of a field. -/
def isUnbraced (c : Char) : Bool := c != '\x7b' && c != '\x7d'

theorem unbraced_iff {cs : List Char} :
    Unbraced cs ↔ ∀ c ∈ cs, isUnbraced c := by
  simp [Unbraced, isUnbraced]

/-- After an opening brace, the text up to the next brace is a field
if that brace closes it. -/
theorem fieldOf_cons {body after : List Char} (hbody : Unbraced body)
    (hafter : ∀ c ∈ after.head?, isUnbraced c = false) :
    fieldOf ('\x7b' :: (body ++ after)) =
      if body = [] ∨ after.head? ≠ some '\x7d' then []
      else '\x7b' :: (body ++ ['\x7d']) := by
  have hrun : (body ++ after).takeWhile (fun c => c != '\x7b' && c != '\x7d') =
      body :=
    takeWhile_append_stop (unbraced_iff.1 hbody) hafter
  simp only [fieldOf, hrun, List.drop_left]
  split
  · simp
  · rename_i hopen
    cases after with
    | nil => simp
    | cons c cs =>
        have hne : c ≠ '\x7d' := by
          rintro rfl
          exact hopen cs rfl
        simp [hne]

/-- A field at this place ends where the text between the braces does: both stop at the first
brace after the opening one. -/
theorem length_of_inClass_field {body after other : List Char}
    (hbody : ∀ c ∈ body, isUnbraced c) (hafter : ∀ c ∈ after.head?, isUnbraced c = false)
    (hhead : other <+: '\x7b' :: (body ++ after)) (hother : InClass .field other) :
    ¬(body = [] ∨ after.head? ≠ some '\x7d') ∧ other.length = body.length + 2 := by
  obtain ⟨inner, hne, hplain, rfl⟩ := hother
  obtain ⟨tail, htail⟩ := hhead
  have hrun : (inner ++ '\x7d' :: tail).takeWhile isUnbraced = inner :=
    takeWhile_append_stop (unbraced_iff.1 hplain) (by simp [isUnbraced])
  have hinside : inner ++ '\x7d' :: tail = body ++ after := by
    simpa using htail
  have hsame : inner = body := by
    rw [← hrun, hinside, takeWhile_append_stop hbody hafter]
  subst hsame
  obtain rfl := List.append_cancel_left hinside
  simp [hne]

theorem fieldOf_greedy (text : List Char) :
    Greedy (InClass .field) text (fieldOf text) := by
  by_cases hopen : text.head? = some '\x7b'
  · obtain ⟨inside, rfl⟩ := List.head?_eq_some_iff.1 hopen
    obtain ⟨body, after, rfl, hbody, hafter⟩ := exists_run isUnbraced inside
    rw [fieldOf_cons (unbraced_iff.2 hbody) hafter]
    split
    · rename_i hnone
      exact .of_none fun hhead hother =>
        absurd hnone (length_of_inClass_field hbody hafter hhead hother).1
    · rename_i hsome
      simp only [not_or, not_not] at hsome
      refine ⟨?_, .inr ⟨body, hsome.1, unbraced_iff.2 hbody, rfl⟩, ?_⟩
      · obtain ⟨tail, rfl⟩ := List.head?_eq_some_iff.1 hsome.2
        exact ⟨tail, by simp⟩
      · intro other hhead hother
        simp [(length_of_inClass_field hbody hafter hhead hother).2]
  · have hnone : fieldOf text = [] := by
      unfold fieldOf
      split
      · simp at hopen
      · rfl
    rw [hnone]
    refine .of_none ?_
    rintro _ ⟨tail, rfl⟩ ⟨inner, -, -, rfl⟩
    simp at hopen

/-! ### Operators -/

/-- Symbols come before those they are longer than. -/
theorem symbols_sorted :
    symbols.Pairwise fun first second =>
      second.1.toList.length ≤ first.1.toList.length := by decide

/-- The characters of the symbol at the head of a text;
none if there is none. -/
def operatorOf (text : List Char) : List Char :=
  ((symbolOf? text).map fun symbol => symbol.1.toList).getD []

theorem operatorOf_greedy (text : List Char) :
    Greedy (InClass .operator) text (operatorOf text) := by
  unfold operatorOf
  cases hsymbol : symbolOf? text with
  | none =>
      refine .of_none ?_
      rintro _ hhead ⟨symbol, hmem, rfl⟩
      have hno := List.find?_eq_none.1 hsymbol symbol hmem
      exact absurd (List.isPrefixOf_iff_prefix.2 hhead) hno
  | some found =>
      obtain ⟨hhead, before, after, hsplit, hbefore⟩ :=
        List.find?_eq_some_iff_append.1 hsymbol
      have hmem : found ∈ symbols := by simp [hsplit]
      refine ⟨List.isPrefixOf_iff_prefix.1 hhead, .inr ⟨found, hmem, rfl⟩, ?_⟩
      rintro other hother ⟨symbol, hmem, rfl⟩
      have hsorted := symbols_sorted
      rw [hsplit] at hmem hsorted
      rcases List.mem_append.1 hmem with hfirst | hrest
      · have hno := hbefore symbol hfirst
        rw [List.isPrefixOf_iff_prefix.2 hother] at hno
        cases hno
      · rcases List.mem_cons.1 hrest with rfl | hlast
        · exact Nat.le_refl _
        · exact (List.pairwise_cons.1 (List.pairwise_append.1 hsorted).2.1).1
            symbol hlast

/-! ### Space and words -/

theorem space_greedy (text : List Char) :
    Greedy (InClass .space) text (text.takeWhile isBlankChar) := by
  refine ⟨List.takeWhile_prefix _, ?_,
    fun hhead hother => length_le_takeWhile hhead hother.2⟩
  by_cases hnil : text.takeWhile isBlankChar = []
  · exact .inl hnil
  · exact .inr ⟨hnil, fun c => List.mem_takeWhile_imp⟩

/-- The characters of the word at the head of a text; none if there is none. -/
def wordOf (text : List Char) : List Char :=
  if text.head?.any isWordStart then text.takeWhile isAsciiWordChar else []

theorem isAsciiWordChar_of_isWordStart (h : isWordStart c) :
    isAsciiWordChar c := by
  simp only [isWordStart, isAsciiWordChar, Char.isAlphanum,
    Bool.or_eq_true] at h ⊢
  rcases h with h | h
  · exact .inl (.inl h)
  · exact .inr h

theorem wordOf_greedy (text : List Char) :
    Greedy (InClass .word) text (wordOf text) := by
  cases text with
  | nil => exact .nil _
  | cons c rest =>
      by_cases hstart : isWordStart c
      · have hchar := isAsciiWordChar_of_isWordStart hstart
        have hword :
            wordOf (c :: rest) = c :: rest.takeWhile isAsciiWordChar := by
          simp [wordOf, hstart, hchar]
        rw [hword]
        refine ⟨?_,
          .inr ⟨c, _, hstart, fun d => List.mem_takeWhile_imp, rfl⟩, ?_⟩
        · simpa using List.takeWhile_prefix isAsciiWordChar
        · rintro other hhead ⟨first, more, -, hmore, rfl⟩
          have := length_le_takeWhile (List.cons_prefix_cons.1 hhead).2 hmore
          simp only [List.length_cons]
          omega
      · have hword : wordOf (c :: rest) = [] := by simp [wordOf, hstart]
        rw [hword]
        refine .of_none ?_
        rintro _ hhead ⟨first, more, hfirst, -, rfl⟩
        obtain ⟨rfl, -⟩ := List.cons_prefix_cons.1 hhead
        exact absurd hfirst hstart

/-! ## The longest lexeme -/

/-- What the lexer takes for a lexeme of a class at the head of a text. -/
def taken : LexemeClass → List Char → List Char
  | .space, text => text.takeWhile isBlankChar
  | .number, text => numberOf text
  | .text, text => textOf text
  | .field, text => fieldOf text
  | .operator, text => operatorOf text
  | .word, text => wordOf text

theorem taken_greedy (kind : LexemeClass) (text : List Char) :
    Greedy (InClass kind) text (taken kind text) := by
  cases kind with
  | space => exact space_greedy text
  | number => exact numberOf_greedy text
  | text => exact textOf_greedy text
  | field => exact fieldOf_greedy text
  | operator => exact operatorOf_greedy text
  | word => exact wordOf_greedy text

/-- Nothing is taken for a lexeme of a class that the first
character does not start. -/
theorem taken_eq_nil (h : classOf? c ≠ some kind) :
    taken kind (c :: rest) = [] := by
  rcases (taken_greedy kind (c :: rest)).mem with hnil | hmem
  · exact hnil
  · cases htaken : taken kind (c :: rest) with
    | nil => rfl
    | cons first more =>
        have hhead := (taken_greedy kind (c :: rest)).head
        rw [htaken] at hmem hhead
        obtain ⟨rfl, -⟩ := List.cons_prefix_cons.1 hhead
        exact absurd (classOf?_eq_some hmem) h

theorem isBlankChar_iff_classOf? (c : Char) :
    isBlankChar c ↔ classOf? c = some .space := by
  unfold classOf?
  repeat' split
  all_goals simp_all

theorem isQuote_iff_classOf? (c : Char) :
    c = '"' ∨ c = '\'' ↔ classOf? c = some .text := by
  constructor
  · rintro (rfl | rfl) <;> decide
  · unfold classOf?
    repeat' split
    all_goals simp_all

theorem isWordStart_iff_classOf? (c : Char) :
    isWordStart c ↔ classOf? c = some .word := by
  refine ⟨classOf?_of_isWordStart, ?_⟩
  unfold classOf?
  repeat' split
  all_goals simp_all

/-- A search for a symbol finds the characters of one, or nothing. -/
theorem symbolOf?_map (text : List Char) :
    ((symbolOf? text).map fun symbol =>
      (LexemeClass.operator, symbol.1.toList)) =
      if operatorOf text = [] then none
      else some (.operator, operatorOf text) := by
  cases hsymbol : symbolOf? text with
  | none => simp [operatorOf, hsymbol]
  | some symbol =>
      have hne : symbol.1.toList ≠ [] :=
        ne_nil_of_inClass (show InClass .operator symbol.1.toList from
          ⟨symbol, List.mem_of_find?_eq_some hsymbol, rfl⟩)
      simp [operatorOf, hsymbol, hne]

/-- The lexer finds what it takes for the class that the
first character starts. -/
theorem lexemeOf?_cons (c : Char) (rest : List Char) :
    lexemeOf? (c :: rest) = (classOf? c).bind fun kind =>
      if taken kind (c :: rest) = [] then none
      else some (kind, taken kind (c :: rest)) := by
  have hnumber : classOf? c ≠ some .number → numberOf (c :: rest) = [] :=
    taken_eq_nil
  have hfield : classOf? c ≠ some .field → fieldOf (c :: rest) = [] :=
    taken_eq_nil
  have hoperator : classOf? c ≠ some .operator → operatorOf (c :: rest) = [] :=
    taken_eq_nil
  unfold lexemeOf?
  rw [symbolOf?_map]
  simp only [isBlankChar_iff_classOf?, isWordStart_iff_classOf?,
    Bool.or_eq_true, beq_iff_eq, isQuote_iff_classOf?]
  cases hclass : classOf? c with
  | none => simp [hclass, hnumber, hfield, hoperator]
  | some kind =>
      cases kind with
      | space => simp [taken, (isBlankChar_iff_classOf? c).2 hclass]
      | number =>
          by_cases hnil : numberOf (c :: rest) = []
          · simp [hclass, taken, hnil, hfield, hoperator]
          · simp [taken, hnil]
      | text =>
          have hquote := (isQuote_iff_classOf? c).2 hclass
          cases hbody : textBody? c rest <;> simp [hclass, taken, hnumber,
            textOf, hbody, hquote]
      | field =>
          by_cases hnil : fieldOf (c :: rest) = []
          · simp [hclass, taken, hnil, hnumber, hoperator]
          · simp [hclass, taken, hnil, hnumber]
      | operator =>
          by_cases hnil : operatorOf (c :: rest) = []
          · simp [hclass, taken, hnil, hnumber, hfield]
          · simp [hclass, taken, hnil, hnumber, hfield]
      | word =>
          have hstart := (isWordStart_iff_classOf? c).2 hclass
          have hchar := isAsciiWordChar_of_isWordStart hstart
          simp [hclass, taken, hnumber, hfield, wordOf, hstart, hchar]

/-- A lexeme at the head of a text is of the class that the
lexer looks for there. -/
theorem exists_taken (hhead : lexeme <+: text) (hclass : InClass kind lexeme) :
    lexemeOf? text = some (kind, taken kind text) ∧
    lexeme.length ≤ (taken kind text).length := by
  have hle := (taken_greedy kind text).length_le hhead hclass
  obtain ⟨c, more, rfl⟩ := List.exists_cons_of_ne_nil (ne_nil_of_inClass hclass)
  obtain ⟨rest, rfl⟩ := hhead
  have hsome : taken kind (c :: (more ++ rest)) ≠ [] := by
    rintro hnil
    rw [List.cons_append, hnil] at hle
    simp at hle
  rw [List.cons_append, lexemeOf?_cons, classOf?_eq_some hclass]
  exact ⟨by simp [hsome], hle⟩

/-- The lexeme that the lexer finds is the longest one, whatever its class. -/
theorem lexemeOf?_eq_some :
    lexemeOf? text = some (kind, lexeme) ↔ Longest text kind lexeme := by
  constructor
  · intro hfound
    have hparts : taken kind text = lexeme ∧ lexeme ≠ [] := by
      cases text with
      | nil => cases hfound
      | cons c rest =>
          rw [lexemeOf?_cons] at hfound
          obtain ⟨k, -, hkind⟩ := Option.bind_eq_some_iff.1 hfound
          split at hkind
          · cases hkind
          · obtain ⟨rfl, rfl⟩ := Prod.mk.inj (Option.some.inj hkind)
            exact ⟨rfl, by assumption⟩
    obtain ⟨rfl, hne⟩ := hparts
    have hgreedy := taken_greedy kind text
    refine ⟨hgreedy.head, hgreedy.mem.resolve_left hne, ?_⟩
    intro other otherKind hhead hother
    obtain ⟨hsame, hle⟩ := exists_taken hhead hother
    obtain ⟨-, hlexeme⟩ :=
      Prod.mk.inj (Option.some.inj (hfound.symm.trans hsame))
    rwa [hlexeme]
  · intro h
    obtain ⟨hfound, hle⟩ := exists_taken h.head h.inClass
    have hgreedy := taken_greedy kind text
    have hpos := List.length_pos_iff.2 (ne_nil_of_inClass h.inClass)
    have hmem := hgreedy.mem.resolve_left (List.ne_nil_of_length_pos (by omega))
    have hge := h.length_le hgreedy.head hmem
    have hsame : taken kind text = lexeme :=
      (List.prefix_of_prefix_length_le hgreedy.head h.head hge).eq_of_length
        (by omega)
    rw [hfound, hsame]

/-- The lexer finds no lexeme exactly when the text starts with none. -/
theorem lexemeOf?_eq_none :
    lexemeOf? text = none ↔
      ∀ kind lexeme, lexeme <+: text → ¬InClass kind lexeme := by
  constructor
  · intro hnone kind lexeme hhead hclass
    have hfound := (exists_taken hhead hclass).1
    rw [hnone] at hfound
    cases hfound
  · intro hno
    cases hfound : lexemeOf? text with
    | none => rfl
    | some found =>
        have h := lexemeOf?_eq_some.1 hfound
        exact absurd h.inClass (hno found.1 found.2 h.head)

/-- There is one longest lexeme at most. -/
theorem Longest.unique {other : List Char} {otherKind : LexemeClass}
    (h : Longest text kind lexeme) (hother : Longest text otherKind other) :
    kind = otherKind ∧ lexeme = other :=
  Prod.mk.inj <| Option.some.inj <|
    (lexemeOf?_eq_some.2 h).symm.trans (lexemeOf?_eq_some.2 hother)

end Lexer

end InvoiceReadiness
