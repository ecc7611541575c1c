import InvoiceReadiness.Proofs.Expression.Lexeme
import InvoiceReadiness.Proofs.Outcome

/-!
# The tokens of expressions

`Cut` is the longest-match cut of a text: piece by piece the longest lexeme at the
head of what is left. `Means` says what a lexeme stands for, without a word on how
that is computed, and `Denotes` what a cut stands for, space apart. A cut that
cannot go on, or does not stand for anything, `Halts`: nothing starts a lexeme, a
word is no keyword, or an integer literal has more digits than texts may have.

The lexer is shown to be these relations in both directions. Its steps are as many
as the text has characters, and every lexeme has one at least, so that they do not
run out.

## Main results

* `tokenize_decides_cut` — the lexer returns the tokens of the whole cut, or fails
  at the one place where the cut halts.
* `whole_lt_of_tokenize` — no text writes a whole number that messages cannot quote.
-/

namespace InvoiceReadiness

namespace Lexer

/-! ## What lexemes mean -/

/-- The values of the digits in a text. -/
def digitValues (cs : List Char) : List Nat := cs.filterMap decimalDigit?

/-- The power of ten that an exponent part asks for;
none asks for the zeroth. -/
def exponentValue : List Char → Int
  | _ :: '-' :: digits => -(numberOfDigits (digitValues digits) : Nat)
  | cs => (numberOfDigits (digitValues cs) : Nat)

/-- The words with a meaning, in lower case. -/
def keywords : List (String × Token) :=
  [("null", .literal .null), ("true", .literal (.bool true)),
    ("false", .literal (.bool false)),
   ("and", .and), ("or", .or), ("not", .not)]

/-- What a lexeme other than space stands for. -/
inductive Means : LexemeClass → List Char → Token → Prop where
  | whole {digits : List Char} (hdigits : Digits digits)
      (hlimit : digits.length ≤ maxWholeDigits) :
      Means .number digits
        (.literal (.number (.whole (numberOfDigits (digitValues digits)))))
  | decimal {whole fraction exponent : List Char} (hwhole : Digits whole)
      (hfraction : IsFraction fraction) (hexponent : IsExponent exponent)
      (hany : whole ≠ [] ∨ 2 ≤ fraction.length)
      (hdecimal : fraction ≠ [] ∨ exponent ≠ []) :
      Means .number (whole ++ fraction ++ exponent) (.literal (.number (.float
        (.ofDecimal false (numberOfDigits (digitValues (whole ++ fraction)))
          (exponentValue exponent - (digitValues fraction).length)))))
  | text {quote : Char} {body : List Char}
      (hquote : quote = '"' ∨ quote = '\'') :
      Means .text (quote :: (body ++ [quote]))
        (.literal (.text (String.ofList (unescape body))))
  | field (body : List Char) :
      Means .field ('\x7b' :: (body ++ ['\x7d']))
        (.field (String.ofList (trimBlanks body)))
  | operator {symbol : String × Token} (hsymbol : symbol ∈ symbols) :
      Means .operator symbol.1.toList symbol.2
  | word {lexeme : List Char} {keyword : String × Token}
      (hkeyword : keyword ∈ keywords)
      (hcase : lexeme.map Char.toLower = keyword.1.toList) :
      Means .word lexeme keyword.2

/-! ### Numbers -/

theorem digitValues_append (cs ds : List Char) :
    digitValues (cs ++ ds) = digitValues cs ++ digitValues ds :=
  List.filterMap_append

theorem decimalDigit?_of_isDecimalDigit {c : Char} (h : isDecimalDigit c) :
    ∃ d, decimalDigit? c = some d := Option.isSome_iff_exists.1 h

theorem mapM_decimalDigit? {cs : List Char} (h : Digits cs) :
    cs.mapM decimalDigit? = some (digitValues cs) := by
  induction cs with
  | nil => rfl
  | cons c cs ih =>
      obtain ⟨d, hd⟩ := decimalDigit?_of_isDecimalDigit (h c (by simp))
      have hrest := ih fun x hx => h x (by simp [hx])
      simp [digitValues, hd, hrest]

theorem length_digitValues {cs : List Char} (h : Digits cs) :
    (digitValues cs).length = cs.length := by
  induction cs with
  | nil => rfl
  | cons c cs ih =>
      obtain ⟨d, hd⟩ := decimalDigit?_of_isDecimalDigit (h c (by simp))
      have hrest := ih fun x hx => h x (by simp [hx])
      simpa [digitValues, hd] using hrest

theorem takeDigits_append {cs rest : List Char} (h : Digits cs)
    (hrest : NoDigit rest) :
    takeDigits (cs ++ rest) = (digitValues cs, rest) := by
  induction cs with
  | nil =>
      cases rest with
      | nil => rfl
      | cons c rest =>
          have hc : decimalDigit? c = none := by
            simpa [NoDigit, isDecimalDigit] using hrest
          simp [takeDigits, hc, digitValues]
  | cons c cs ih =>
      obtain ⟨d, hd⟩ := decimalDigit?_of_isDecimalDigit (h c (by simp))
      have hmore := ih fun x hx => h x (by simp [hx])
      simp only [List.cons_append, takeDigits, hd, hmore]
      simp [digitValues, hd]

theorem takeDigits_digits {cs : List Char} (h : Digits cs) :
    takeDigits cs = (digitValues cs, []) := by
  have hend : NoDigit [] := by simp [NoDigit]
  simpa using takeDigits_append h hend

theorem digitValues_ne_nil {cs : List Char} (h : Digits cs) (hne : cs ≠ []) :
    digitValues cs ≠ [] := by
  have hlength := length_digitValues h
  have hpos := List.length_pos_iff.2 hne
  exact List.ne_nil_of_length_pos (by omega)

theorem takeSign_of_ne {c : Char} (hplus : c ≠ '+') (hminus : c ≠ '-')
    (cs : List Char) :
    takeSign (c :: cs) = (false, c :: cs) := by
  unfold takeSign
  split <;> simp_all

theorem digitValues_exponent {e : Char} (he : e = 'e' ∨ e = 'E')
    (cs : List Char) :
    digitValues (e :: cs) = digitValues cs := by
  rcases he with rfl | rfl <;> rfl

theorem exponentValue_of_ne {e c : Char} (he : e = 'e' ∨ e = 'E')
    (hminus : c ≠ '-') (cs : List Char) :
    exponentValue (e :: c :: cs) =
      (numberOfDigits (digitValues (c :: cs)) : Nat) := by
  unfold exponentValue
  split
  · simp_all
  · rw [digitValues_exponent he]

theorem exponentPart?_eq {exponent : List Char} (h : IsExponent exponent) :
    exponentPart? exponent = some (exponentValue exponent) := by
  rcases h with rfl | ⟨e, sign, digits, he, hsign, hdigits, hne, rfl⟩
  · rfl
  · have htaken := takeDigits_digits hdigits
    obtain ⟨v, vs, hvalues⟩ :=
      List.exists_cons_of_ne_nil (digitValues_ne_nil hdigits hne)
    rw [hvalues] at htaken
    -- once the sign is off, what is left are digits up to the end
    have hpart {rest : List Char} {negative : Bool}
        (hsigned : takeSign rest = (negative, digits)) :
        exponentPart? (e :: rest) =
          some (let n : Int := (numberOfDigits (digitValues digits) : Nat)
            if negative then -n else n) := by
      have hletter : (e == 'e' || e == 'E') = true := by
        rcases he with rfl | rfl <;> rfl
      simp only [exponentPart?, hletter, if_true, hsigned, htaken, hvalues]
    rcases hsign with rfl | rfl | rfl
    · obtain ⟨d, ds, rfl⟩ := List.exists_cons_of_ne_nil hne
      obtain ⟨-, -, -, hplus, hminus⟩ :=
        ne_of_isDecimalDigit (hdigits d (by simp))
      rw [List.nil_append, hpart (takeSign_of_ne hplus hminus ds),
        exponentValue_of_ne he hminus]
      rfl
    · rw [List.singleton_append, hpart rfl, exponentValue_of_ne he (by decide)]
      rfl
    · rw [List.singleton_append, hpart rfl]
      rfl

/-- A numeral has no sign of its own. -/
theorem takeSign_numeral {cs : List Char} (h : IsNumeral cs) : takeSign cs = (false, cs) := by
  obtain ⟨c, rest, hcs, hc⟩ := h.head
  rw [hcs]
  rcases hc with hdigit | rfl
  · obtain ⟨-, -, -, hplus, hminus⟩ := ne_of_isDecimalDigit hdigit
    exact takeSign_of_ne hplus hminus rest
  · rfl

/-- The number that a numeral with a point or an exponent writes, after a sign
or none, is the one that is read. -/
theorem unpaddedNumber?_eq {cs whole fraction exponent : List Char} {negative : Bool}
    (hsign : takeSign cs = (negative, whole ++ fraction ++ exponent))
    (hwhole : Digits whole)
    (hfraction : IsFraction fraction) (hexponent : IsExponent exponent)
    (hany : whole ≠ [] ∨ 2 ≤ fraction.length) :
    unpaddedNumber? cs =
      some (.ofDecimal negative (numberOfDigits (digitValues (whole ++ fraction)))
        (exponentValue exponent - (digitValues fraction).length)) := by
  have hstop : NoDigit exponent := by
    by_cases hne : exponent = []
    · simp [hne, NoDigit]
    · simpa using hexponent.noDigit hne []
  rcases hfraction with rfl | ⟨places, hplaces, rfl⟩
  · have hne : whole ≠ [] := by simpa using hany
    have htaken : takeDigits (whole ++ [] ++ exponent) =
        (digitValues whole, exponent) := by
      simpa using takeDigits_append hwhole hstop
    have hsome := digitValues_ne_nil hwhole hne
    simp only [unpaddedNumber?, hsign, htaken]
    split
    · rcases hexponent with hnil | ⟨e, sign, digits, he, -, -, -, hcs⟩
      · cases hnil
      · obtain ⟨rfl, -⟩ := List.cons.inj hcs
        exact absurd he (by decide)
    · simp only [Bool.and_eq_true, List.isEmpty_iff, hsome, false_and, if_false,
        exponentPart?_eq hexponent, List.append_nil]
      rfl
  · have hpoint : NoDigit ('.' :: places ++ exponent) := by
      simp only [NoDigit, List.cons_append, List.head?_cons,
        Option.mem_some_iff, forall_eq']
      decide
    have htaken : takeDigits (whole ++ '.' :: places ++ exponent) =
        (digitValues whole, '.' :: places ++ exponent) := by
      rw [List.append_assoc]
      exact takeDigits_append hwhole hpoint
    have hplacesTaken := takeDigits_append hplaces hstop
    have hvalues : digitValues ('.' :: places) = digitValues places := rfl
    have hsome : ¬(digitValues whole = [] ∧ digitValues places = []) := by
      rintro ⟨hnoWhole, hnoPlaces⟩
      rcases hany with hne | hlength
      · exact digitValues_ne_nil hwhole hne hnoWhole
      · refine digitValues_ne_nil hplaces ?_ hnoPlaces
        rintro rfl
        simp at hlength
    simp only [unpaddedNumber?, hsign, htaken, List.cons_append, hplacesTaken,
      Bool.and_eq_true, List.isEmpty_iff, hsome, if_false,
      exponentPart?_eq hexponent, digitValues_append, hvalues]
    rfl

/-- The characters by which the lexer tells a binary64
literal from a whole one. -/
def isDecimalMark (c : Char) : Bool := c == '.' || c == 'e' || c == 'E'

theorem any_isDecimalMark_digits {digits : List Char} (h : Digits digits) :
    digits.any isDecimalMark = false := by
  rw [List.any_eq_false]
  intro c hc
  obtain ⟨hpoint, he, hE, -, -⟩ := ne_of_isDecimalDigit (h c hc)
  simp [isDecimalMark, hpoint, he, hE]

theorem any_isDecimalMark_decimal {fraction exponent : List Char}
    (hfraction : IsFraction fraction) (hexponent : IsExponent exponent)
    (hdecimal : fraction ≠ [] ∨ exponent ≠ []) (whole : List Char) :
    (whole ++ fraction ++ exponent).any isDecimalMark = true := by
  simp only [List.any_append, Bool.or_eq_true]
  rcases hdecimal with hne | hne
  · obtain ⟨places, -, rfl⟩ := hfraction.resolve_left hne
    exact .inl (.inr (by simp [isDecimalMark]))
  · obtain ⟨e, sign, digits, he, -, -, -, rfl⟩ := hexponent.resolve_left hne
    exact .inr (by rcases he with rfl | rfl <;> simp [isDecimalMark])

theorem numberValue_digits {digits : List Char} (h : Digits digits) :
    numberValue digits =
      if maxWholeDigits < digits.length then .error .digitLimit
      else .ok (.whole (numberOfDigits (digitValues digits))) := by
  have hmark : digits.any (fun c => c == '.' || c == 'e' || c == 'E') = false :=
    any_isDecimalMark_digits h
  simp only [numberValue, hmark, naturalOfText?, mapM_decimalDigit? h,
    wholeOfDigits?, length_digitValues h]
  by_cases hlimit : maxWholeDigits < digits.length
  · simp [hlimit]
  · simp [hlimit]

theorem numberValue_decimal {whole fraction exponent : List Char}
    (hwhole : Digits whole) (hfraction : IsFraction fraction)
    (hexponent : IsExponent exponent) (hany : whole ≠ [] ∨ 2 ≤ fraction.length)
    (hdecimal : fraction ≠ [] ∨ exponent ≠ []) :
    numberValue (whole ++ fraction ++ exponent) =
      .ok (.float
        (.ofDecimal false (numberOfDigits (digitValues (whole ++ fraction)))
          (exponentValue exponent - (digitValues fraction).length))) := by
  have hmark : (whole ++ fraction ++ exponent).any
      (fun c => c == '.' || c == 'e' || c == 'E') = true :=
    any_isDecimalMark_decimal hfraction hexponent hdecimal whole
  simp only [numberValue, hmark, if_true,
    unpaddedNumber?_eq (takeSign_numeral ⟨_, _, _, hwhole, hfraction, hexponent, hany, rfl⟩)
      hwhole hfraction hexponent hany]

/-! ### The tokens of lexemes -/

variable {kind : LexemeClass} {lexeme text rest : List Char} {token : Token}

theorem keyword?_eq_some :
    keyword? lexeme = some token ↔ ∃ keyword ∈ keywords,
      lexeme.map Char.toLower = keyword.1.toList ∧ keyword.2 = token := by
  have hword (word : String) : String.ofList (lexeme.map Char.toLower) = word ↔
      lexeme.map Char.toLower = word.toList := by
    rw [← String.toList_inj, String.toList_ofList]
  simp only [keyword?, beq_iff_eq, hword, keywords]
  constructor
  · intro h
    repeat' split at h
    all_goals simp_all
  · rintro ⟨keyword, hmem, hcase, rfl⟩
    simp only [List.mem_cons, List.not_mem_nil, or_false] at hmem
    rcases hmem with rfl | rfl | rfl | rfl | rfl | rfl <;> simp [hcase]

theorem keyword?_eq_none :
    keyword? lexeme = none ↔
      ∀ keyword ∈ keywords, lexeme.map Char.toLower ≠ keyword.1.toList := by
  rw [Option.eq_none_iff_forall_ne_some]
  simp only [ne_eq, keyword?_eq_some]
  constructor
  · intro hnone keyword hmem hcase
    exact hnone keyword.2 ⟨keyword, hmem, hcase, rfl⟩
  · rintro hnone token ⟨keyword, hmem, hcase, -⟩
    exact hnone keyword hmem hcase

/-- The symbol found in a lexeme that is one is that symbol. -/
theorem symbolOf?_of_mem {symbol : String × Token} (h : symbol ∈ symbols) :
    symbolOf? symbol.1.toList = some symbol := by
  have hall : ∀ symbol ∈ symbols, symbolOf? symbol.1.toList = some symbol := by
    decide
  exact hall symbol h

theorem inner_append (first last : Char) (body : List Char) :
    inner (first :: (body ++ [last])) = body := by
  simp [inner]

/-- A lexeme has the token that it stands for. -/
theorem tokenOf_of_means
    (h : Means kind lexeme token) : tokenOf kind lexeme = .ok (some token) := by
  cases h with
  | whole hdigits hlimit =>
      simp only [tokenOf, numberValue_digits hdigits,
        Nat.not_lt.2 hlimit, if_false]
      rfl
  | decimal hwhole hfraction hexponent hany hdecimal =>
      simp only [tokenOf,
        numberValue_decimal hwhole hfraction hexponent hany hdecimal]
      rfl
  | text hquote => simp [tokenOf, inner_append]
  | field body => simp [tokenOf, inner_append]
  | operator hsymbol => simp [tokenOf, symbolOf?_of_mem hsymbol]
  | word hkeyword hcase =>
      simp only [tokenOf, keyword?_eq_some.2 ⟨_, hkeyword, hcase, rfl⟩]

/-- How the lexemes go that stand for nothing: space, a word
unknown, an integer too long. -/
inductive Meaningless :
    LexemeClass → List Char → Result (Option Token) → Prop where
  | space (lexeme : List Char) : Meaningless .space lexeme (.ok none)
  | word {lexeme : List Char}
      (hunknown : ∀ keyword ∈ keywords,
        lexeme.map Char.toLower ≠ keyword.1.toList) :
      Meaningless .word lexeme
        (.error (.expression (.unknownIdentifier (String.ofList lexeme))))
  | number {digits : List Char} (hdigits : Digits digits)
      (hlimit : maxWholeDigits < digits.length) :
      Meaningless .number digits (.error .digitLimit)

/-- Every lexeme stands for something or is one of those that do not. -/
theorem means_or_meaningless (h : InClass kind lexeme) :
    (∃ token, Means kind lexeme token) ∨
      Meaningless kind lexeme (tokenOf kind lexeme) := by
  cases kind with
  | space => exact .inr (.space lexeme)
  | number =>
      obtain ⟨whole, fraction, exponent,
        hwhole, hfraction, hexponent, hany, rfl⟩ := h
      by_cases hdecimal : fraction ≠ [] ∨ exponent ≠ []
      · exact .inl ⟨_, .decimal hwhole hfraction hexponent hany hdecimal⟩
      · simp only [not_or, not_not] at hdecimal
        obtain ⟨rfl, rfl⟩ := hdecimal
        rw [List.append_nil, List.append_nil]
        by_cases hlimit : maxWholeDigits < whole.length
        · refine .inr ?_
          simp only [tokenOf, numberValue_digits hwhole, hlimit, if_true]
          exact .number hwhole hlimit
        · exact .inl ⟨_, .whole hwhole (Nat.not_lt.1 hlimit)⟩
  | text =>
      obtain ⟨quote, body, hquote, -, rfl⟩ := h
      exact .inl ⟨_, .text hquote⟩
  | field =>
      obtain ⟨body, -, -, rfl⟩ := h
      exact .inl ⟨_, .field body⟩
  | operator =>
      obtain ⟨symbol, hsymbol, rfl⟩ := h
      exact .inl ⟨_, .operator hsymbol⟩
  | word =>
      by_cases hknown : ∃ keyword ∈ keywords,
        lexeme.map Char.toLower = keyword.1.toList
      · obtain ⟨keyword, hkeyword, hcase⟩ := hknown
        exact .inl ⟨_, .word hkeyword hcase⟩
      · have hunknown : ∀ keyword ∈ keywords,
            lexeme.map Char.toLower ≠ keyword.1.toList :=
          fun keyword hmem hcase => hknown ⟨keyword, hmem, hcase⟩
        refine .inr ?_
        simp only [tokenOf, keyword?_eq_none.2 hunknown]
        exact .word hunknown

/-! ## The longest-match cut -/

/-- A lexeme with its class. -/
abbrev Lexeme := LexemeClass × List Char

/-- The longest-match cut of a text into pieces, up to the rest
that is still to be cut. -/
inductive Cut : List Char → List Lexeme → List Char → Prop where
  | done (text : List Char) : Cut text [] text
  | piece {lexeme text rest : List Char} {kind : LexemeClass}
      {pieces : List Lexeme} (hlongest : Longest (lexeme ++ text) kind lexeme)
      (hmore : Cut text pieces rest) :
      Cut (lexeme ++ text) ((kind, lexeme) :: pieces) rest

/-- What pieces stand for: the tokens of the lexemes in
order, none for space. -/
inductive Denotes : List Lexeme → List Token → Prop where
  | nil : Denotes [] []
  | space {lexeme : List Char} {pieces : List Lexeme} {tokens : List Token}
      (hmore : Denotes pieces tokens) :
      Denotes ((.space, lexeme) :: pieces) tokens
  | token {kind : LexemeClass} {lexeme : List Char} {token : Token}
      {pieces : List Lexeme} {tokens : List Token}
      (hmeans : Means kind lexeme token) (hmore : Denotes pieces tokens) :
      Denotes ((kind, lexeme) :: pieces) (token :: tokens)

/-- Why cutting stops at a place, and the fault that says so. -/
inductive Halts : Nat → List Char → Fault → Prop where
  | noLexeme {position : Nat} {c : Char} {rest : List Char}
      (hnone : ∀ kind lexeme, lexeme <+: c :: rest → ¬InClass kind lexeme) :
      Halts position (c :: rest) (.expression (.unexpectedCharacter c position))
  | unknownWord {position : Nat} {text lexeme : List Char}
      (hlongest : Longest text .word lexeme)
      (hunknown : ∀ keyword ∈ keywords,
        lexeme.map Char.toLower ≠ keyword.1.toList) :
      Halts position text
        (.expression (.unknownIdentifier (String.ofList lexeme)))
  | longInteger {position : Nat} {text digits : List Char}
      (hlongest : Longest text .number digits)
      (hdigits : Digits digits) (hlimit : maxWholeDigits < digits.length) :
      Halts position text .digitLimit

variable {pieces : List Lexeme} {tokens : List Token}

/-- The pieces of a cut and its rest make up the text. -/
theorem Cut.text_eq
    (h : Cut text pieces rest) :
    text = (pieces.map Prod.snd).flatten ++ rest := by
  induction h with
  | done text => simp
  | piece hlongest hmore ih => simp [← ih]

/-- The pieces of a cut are lexemes, each of its class and of no other. -/
theorem Cut.inClass
    (h : Cut text pieces rest) {piece : LexemeClass × List Char}
    (hmem : piece ∈ pieces) :
    InClass piece.1 piece.2 := by
  induction h with
  | done text => cases hmem
  | piece hlongest hmore ih =>
      rcases List.mem_cons.1 hmem with rfl | hlater
      · exact hlongest.inClass
      · exact ih hlater

/-! ### The scan -/

theorem tokensFrom_lexeme
    (h : Longest (lexeme ++ text) kind lexeme) (steps position : Nat) :
    tokensFrom (steps + 1) position (lexeme ++ text) = (do
      let token ← tokenOf kind lexeme
      let more ← tokensFrom steps (position + lexeme.length) text
      return token.toList ++ more) := by
  have hfound := lexemeOf?_eq_some.2 h
  have hdrop : (lexeme ++ text).drop lexeme.length = text := List.drop_left
  obtain ⟨c, cs, hlexeme⟩ :=
    List.exists_cons_of_ne_nil (ne_nil_of_inClass h.inClass)
  have hcons : lexeme ++ text = c :: (cs ++ text) := by
    rw [hlexeme, List.cons_append]
  rw [hcons] at hfound hdrop ⊢
  simp only [tokensFrom, hfound, hdrop]

theorem tokensFrom_noLexeme {c : Char}
    (h : ∀ kind lexeme, lexeme <+: c :: rest → ¬InClass kind lexeme)
    (steps position : Nat) :
    tokensFrom (steps + 1) position (c :: rest) =
      .error (.expression (.unexpectedCharacter c position)) := by
  simp only [tokensFrom, lexemeOf?_eq_none.2 h]

/-- A text starts with a longest lexeme, or with none at all. -/
theorem exists_longest_or (c : Char) (rest : List Char) :
    (∃ kind lexeme text, c :: rest = lexeme ++ text ∧
      Longest (lexeme ++ text) kind lexeme) ∨
      ∀ kind lexeme, lexeme <+: c :: rest → ¬InClass kind lexeme := by
  cases hfound : lexemeOf? (c :: rest) with
  | none => exact .inr (lexemeOf?_eq_none.1 hfound)
  | some found =>
      have h := lexemeOf?_eq_some.1 hfound
      obtain ⟨text, htext⟩ := h.head
      exact .inl ⟨found.1, found.2, text, htext.symm, htext ▸ h⟩

/-- The scan of a text, with a step for each of its characters. -/
def scan (position : Nat) (text : List Char) : Result (List Token) :=
  tokensFrom text.length position text

theorem scan_nil (position : Nat) : scan position [] = .ok [] := rfl

/-- Steps beyond the number of characters make no difference. -/
theorem tokensFrom_eq_scan {steps : Nat} (h : text.length ≤ steps)
    (position : Nat) : tokensFrom steps position text = scan position text := by
  have hsteps : ∀ first second text position,
      text.length ≤ first → text.length ≤ second →
      tokensFrom first position text = tokensFrom second position text := by
    intro first
    induction first with
    | zero =>
        intro second text position hfirst _
        obtain rfl := List.length_eq_zero_iff.1 (Nat.le_zero.1 hfirst)
        cases second <;> rfl
    | succ first ih =>
        intro second text position hfirst hsecond
        cases text with
        | nil => cases second <;> rfl
        | cons c rest =>
            obtain ⟨second, rfl⟩ := Nat.exists_eq_succ_of_ne_zero (Nat.ne_of_gt
              (Nat.lt_of_lt_of_le (Nat.succ_pos rest.length) hsecond))
            rcases exists_longest_or c rest with
              ⟨kind, lexeme, text, htext, hlongest⟩ | hnone
            · have hpos :=
                List.length_pos_iff.2 (ne_nil_of_inClass hlongest.inClass)
              rw [htext, List.length_append] at hfirst hsecond
              rw [htext, tokensFrom_lexeme hlongest, tokensFrom_lexeme hlongest,
                ih second text _ (by omega) (by omega)]
            · rw [tokensFrom_noLexeme hnone, tokensFrom_noLexeme hnone]
  exact hsteps steps text.length text position h (Nat.le_refl _)

/-- The scan of a text that starts with a lexeme: its token, then
the tokens of the rest. -/
theorem scan_lexeme
    (h : Longest (lexeme ++ text) kind lexeme) (position : Nat) :
    scan position (lexeme ++ text) = (do
      let token ← tokenOf kind lexeme
      let more ← scan (position + lexeme.length) text
      return token.toList ++ more) := by
  have hpos := List.length_pos_iff.2 (ne_nil_of_inClass h.inClass)
  have hle : text.length ≤ (lexeme ++ text).length - 1 := by
    rw [List.length_append]
    omega
  have hsteps : (lexeme ++ text).length = (lexeme ++ text).length - 1 + 1 := by
    rw [List.length_append]
    omega
  rw [scan, hsteps, tokensFrom_lexeme h, tokensFrom_eq_scan hle]

/-- Along a cut that stands for tokens, the scan returns
those and goes on after it. -/
theorem scan_cut
    (hcut : Cut text pieces rest) (hdenotes : Denotes pieces tokens)
    (position : Nat) : scan position text = (do
      let more ← scan (position + (text.length - rest.length)) rest
      return tokens ++ more) := by
  induction hcut generalizing tokens position with
  | done text =>
      cases hdenotes
      cases hscan : scan position text <;> simp [hscan]
  | @piece lexeme text rest kind pieces hlongest hmore ih =>
      have hlength : rest.length ≤ text.length := by
        rw [hmore.text_eq, List.length_append]
        omega
      have hposition : position + lexeme.length + (text.length - rest.length) =
          position + ((lexeme ++ text).length - rest.length) := by
        rw [List.length_append]
        omega
      rw [scan_lexeme hlongest]
      cases hdenotes with
      | space hrest =>
          rw [ih hrest, hposition]
          cases scan _ rest <;> rfl
      | token hmeans hrest =>
          rw [tokenOf_of_means hmeans, ih hrest, hposition]
          cases scan _ rest <;> rfl

/-- At a place where cutting halts, the scan fails, and says why. -/
theorem scan_halts {position : Nat} {fault : Fault}
    (h : Halts position text fault) : scan position text = .error fault := by
  cases h with
  | noLexeme hnone => exact tokensFrom_noLexeme hnone _ position
  | unknownWord hlongest hunknown =>
      obtain ⟨rest, rfl⟩ := hlongest.head
      simp only [scan_lexeme hlongest, tokenOf, keyword?_eq_none.2 hunknown,
        Result.error_bind]
  | longInteger hlongest hdigits hlimit =>
      obtain ⟨rest, rfl⟩ := hlongest.head
      simp only [scan_lexeme hlongest, tokenOf, numberValue_digits hdigits,
        hlimit, if_true]
      rfl

/-- Every text can be cut to its end, or up to a place where cutting halts. -/
theorem exists_cut (text : List Char) :
    ∃ pieces tokens rest, Cut text pieces rest ∧ Denotes pieces tokens ∧
      (rest = [] ∨ ∀ position, ∃ fault, Halts position rest fault) := by
  induction hlength : text.length using Nat.strongRecOn generalizing text with
  | ind n ih =>
      cases text with
      | nil => exact ⟨[], [], [], .done [], .nil, .inl rfl⟩
      | cons c rest =>
          rcases exists_longest_or c rest with
            ⟨kind, lexeme, text, htext, hlongest⟩ | hnone
          · have hpos :=
              List.length_pos_iff.2 (ne_nil_of_inClass hlongest.inClass)
            rw [htext, List.length_append] at hlength
            obtain ⟨pieces, tokens, last, hcut, hdenotes, hend⟩ :=
              ih text.length (by omega) text rfl
            rw [htext]
            rcases means_or_meaningless hlongest.inClass with
              ⟨token, hmeans⟩ | hnot
            · exact ⟨_, _, last, .piece hlongest hcut,
                .token hmeans hdenotes, hend⟩
            · generalize tokenOf kind lexeme = outcome at hnot
              cases hnot with
              | space =>
                  exact ⟨_, _, last, .piece hlongest hcut,
                    .space hdenotes, hend⟩
              | word hunknown =>
                  exact ⟨[], [], _, .done _, .nil,
                    .inr fun position => ⟨_, .unknownWord hlongest hunknown⟩⟩
              | number hdigits hlimit =>
                  exact ⟨[], [], _, .done _, .nil,
                    .inr fun position =>
                      ⟨_, .longInteger hlongest hdigits hlimit⟩⟩
          · exact ⟨[], [], _, .done _, .nil,
              .inr fun position => ⟨_, .noLexeme hnone⟩⟩

/-- A text that is cut to its end has the tokens that the cut
stands for, and no others. -/
theorem tokenize_eq_ok {s : String} :
    tokenize s = .ok tokens ↔
      ∃ pieces, Cut s.toList pieces [] ∧ Denotes pieces tokens := by
  change scan 0 s.toList = .ok tokens ↔ _
  constructor
  · intro hscan
    obtain ⟨pieces, found, rest, hcut, hdenotes, hend⟩ := exists_cut s.toList
    rw [scan_cut hcut hdenotes] at hscan
    rcases hend with rfl | hhalts
    · rw [scan_nil, Result.ok_bind, List.append_nil] at hscan
      cases hscan
      exact ⟨pieces, hcut, hdenotes⟩
    · obtain ⟨fault, hfault⟩ := hhalts (0 + (s.toList.length - rest.length))
      rw [scan_halts hfault] at hscan
      cases hscan
  · rintro ⟨pieces, hcut, hdenotes⟩
    rw [scan_cut hcut hdenotes, scan_nil, Result.ok_bind, List.append_nil]
    rfl

/-- A text whose cut halts has the fault of the place where
it does, and no other. -/
theorem tokenize_eq_error {s : String} {fault : Fault} :
    tokenize s = .error fault ↔ ∃ pieces tokens rest, Cut s.toList pieces rest ∧
      Denotes pieces tokens ∧
      Halts (s.toList.length - rest.length) rest fault := by
  change scan 0 s.toList = .error fault ↔ _
  constructor
  · intro hscan
    obtain ⟨pieces, found, rest, hcut, hdenotes, hend⟩ := exists_cut s.toList
    rw [scan_cut hcut hdenotes, Nat.zero_add] at hscan
    rcases hend with rfl | hhalts
    · cases hscan
    · obtain ⟨other, hother⟩ := hhalts (s.toList.length - rest.length)
      rw [scan_halts hother] at hscan
      cases hscan
      exact ⟨pieces, found, rest, hcut, hdenotes, hother⟩
  · rintro ⟨pieces, tokens, rest, hcut, hdenotes, hhalts⟩
    rw [scan_cut hcut hdenotes, Nat.zero_add, scan_halts hhalts,
      Result.error_bind]

/-! ## Whole numbers of texts -/

theorem foldl_digits_lt {digits : List Nat}
    (h : ∀ d ∈ digits, d < 10) (n : Nat) :
    digits.foldl (fun n d => 10 * n + d) n <
      (n + 1) * tenPow digits.length := by
  induction digits generalizing n with
  | nil => simp [tenPow]
  | cons d digits ih =>
      have hd : d < 10 := h d (by simp)
      have hmore := ih (fun x hx => h x (by simp [hx])) (10 * n + d)
      have hpow : tenPow (digits.length + 1) = tenPow digits.length * 10 :=
        Nat.pow_succ 10 _
      have hstep : (10 * n + d + 1) * tenPow digits.length ≤
          (n + 1) * tenPow (digits.length + 1) := by
        rw [hpow, Nat.mul_comm (tenPow digits.length) 10, ← Nat.mul_assoc]
        exact Nat.mul_le_mul_right _ (by omega)
      exact Nat.lt_of_lt_of_le hmore hstep

/-- A digit of any script has a value below ten. -/
theorem decimalDigit?_lt {c : Char} {d : Nat} (h : decimalDigit? c = some d) :
    d < 10 := by
  unfold decimalDigit? at h
  split at h
  · split at h
    · rename_i hdigit
      cases h
      simp only [Bool.and_eq_true, decide_eq_true_eq] at hdigit
      omega
    · cases h
  · obtain ⟨first, hfound, rfl⟩ := Option.map_eq_some_iff.1 h
    have hfirst := List.find?_some hfound
    simp only [Bool.and_eq_true, decide_eq_true_eq] at hfirst
    omega

theorem numberOfDigits_lt {digits : List Char} (h : Digits digits) :
    numberOfDigits (digitValues digits) < tenPow digits.length := by
  have hvalues : ∀ d ∈ digitValues digits, d < 10 := by
    intro d hd
    obtain ⟨c, -, hc⟩ := List.mem_filterMap.1 hd
    exact decimalDigit?_lt hc
  have hlt := foldl_digits_lt hvalues 0
  rwa [length_digitValues h, Nat.zero_add, Nat.one_mul] at hlt

/-- A whole number that a lexeme stands for keeps to the digit limit. -/
theorem Means.whole_lt {n : Int}
    (h : Means kind lexeme (.literal (.number (.whole n)))) :
    n.natAbs < tenPow maxWholeDigits := by
  generalize htoken : Token.literal (.number (.whole n)) = token at h
  cases h with
  | whole hdigits hlimit =>
      cases htoken
      exact Nat.lt_of_lt_of_le (numberOfDigits_lt hdigits)
        (tenPow_le_tenPow hlimit)
  | operator hsymbol =>
      have hall : ∀ symbol ∈ symbols, ∀ m,
          Token.literal (.number m) ≠ symbol.2 := by
        simp [symbols]
      exact absurd htoken (hall _ hsymbol _)
  | word hkeyword =>
      have hall : ∀ keyword ∈ keywords, ∀ m,
          Token.literal (.number m) ≠ keyword.2 := by
        simp [keywords]
      exact absurd htoken (hall _ hkeyword _)
  | _ => cases htoken

/-- No text writes a whole number that a message could not quote. -/
theorem whole_lt_of_tokenize {s : String} (h : tokenize s = .ok tokens)
    {n : Int} (hmem : .literal (.number (.whole n)) ∈ tokens) :
    n.natAbs < tenPow maxWholeDigits := by
  obtain ⟨pieces, -, hdenotes⟩ := tokenize_eq_ok.1 h
  clear h
  induction hdenotes with
  | nil => cases hmem
  | space hmore ih => exact ih hmem
  | token hmeans hmore ih =>
      rcases List.mem_cons.1 hmem with rfl | hlater
      · exact hmeans.whole_lt
      · exact ih hlater

end Lexer

open Lexer in
/--
**The lexer is the longest-match cut.** The tokens of a text are those that its cut
to the end stands for. A text has none exactly if its cut halts before the end: at
a place where no lexeme starts, which the fault names, at a word that is no
keyword in any case, or at an integer literal that is too long. Where no literal is,
every fault is one of the language. The pieces of a cut make up the text; none is
empty, and each is a lexeme of its own class only.
-/
theorem tokenize_decides_cut (s : String) :
    (∀ tokens, tokenize s = .ok tokens ↔
      ∃ pieces, Cut s.toList pieces [] ∧ Denotes pieces tokens) ∧
    (∀ fault, tokenize s = .error fault ↔
      ∃ pieces tokens rest, Cut s.toList pieces rest ∧ Denotes pieces tokens ∧
        Halts (s.toList.length - rest.length) rest fault) ∧
    ((∀ pieces rest digits, Cut s.toList pieces rest →
        Longest rest .number digits →
        Digits digits → digits.length ≤ maxWholeDigits) →
      ∀ fault, tokenize s = .error fault → ∃ cause, fault = .expression cause) ∧
    (∀ pieces rest, Cut s.toList pieces rest →
      s.toList = (pieces.map Prod.snd).flatten ++ rest ∧
        ∀ piece ∈ pieces, piece.2 ≠ [] ∧
          ∀ kind, InClass kind piece.2 ↔ kind = piece.1) := by
  refine ⟨fun tokens => tokenize_eq_ok, fun fault => tokenize_eq_error, ?_, ?_⟩
  · intro hshort fault hfault
    obtain ⟨pieces, tokens, rest, hcut, -, hhalts⟩ := tokenize_eq_error.1 hfault
    cases hhalts with
    | noLexeme hnone => exact ⟨_, rfl⟩
    | unknownWord hlongest hunknown => exact ⟨_, rfl⟩
    | longInteger hlongest hdigits hlimit =>
        have := hshort pieces rest _ hcut hlongest hdigits
        omega
  · intro pieces rest hcut
    refine ⟨hcut.text_eq, fun piece hmem => ?_⟩
    have hclass := hcut.inClass hmem
    refine ⟨ne_nil_of_inClass hclass,
      fun kind => ⟨fun hkind => inClass_unique hkind hclass, ?_⟩⟩
    rintro rfl
    exact hclass

end InvoiceReadiness
