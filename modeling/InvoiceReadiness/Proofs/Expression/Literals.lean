import InvoiceReadiness.Proofs.Expression.Substitution

/-!
# Values written as literals

Null, truth values, texts and whole numbers can be written in an expression: as a
keyword, between quotes, or as a numeral with its sign. A literal in parentheses
is what a field stands for. What is shown here is that the text of a literal is cut
into the lexemes that it was put together from, whatever comes after the closing
parenthesis, that they stand for the tokens of a phrase, and that the tree of the
phrase has the value.

A numeral or a keyword ends before a parenthesis because no lexeme of their classes
contains one (`parenless_of_inClass`); a quoted text ends at its own closing quote,
because the quotes in it are escaped (`isBody_escaped`).

## Main results

* `cut_literal` — the cut of a literal in front of a closing parenthesis.
* `denotes_literal`, `derives_literal` — the tokens of a literal and their tree.
* `evaluateWith_literalTree` — the value of that tree.
-/

namespace InvoiceReadiness

/-! ## Literals -/

/-- The values that have a literal; a numeral keeps to the digit limit. -/
inductive Value.HasLiteral : Value → Prop where
  | null : HasLiteral .null
  | bool (b : Bool) : HasLiteral (.bool b)
  | whole {n : Int}
      (hlimit : (decimalDigits n.natAbs).length ≤ maxWholeDigits) :
      HasLiteral (.number (.whole n))
  | text (s : String) : HasLiteral (.text s)

namespace Lexer

/-- A character between quotes: the quote and the backslash
come after a backslash. -/
def escapedChar (quote c : Char) : List Char :=
  if c = '\\' ∨ c = quote then ['\\', c] else [c]

/-- A text between quotes. -/
def quotedLiteral (quote : Char) (cs : List Char) : List Char :=
  quote :: (cs.flatMap (escapedChar quote) ++ [quote])

/-- The text of a truth value. -/
def truthWord (b : Bool) : List Char :=
  if b then ['t', 'r', 'u', 'e'] else ['f', 'a', 'l', 's', 'e']

/-- The text of a value's literal. -/
def literal (quote : Char) : Value → List Char
  | .bool b => truthWord b
  | .number (.whole n) => (wholeText n).toList
  | .text s => quotedLiteral quote s.toList
  | _ => ['n', 'u', 'l', 'l']

/-- The lexemes of a value's literal. -/
def literalPieces (quote : Char) : Value → List Lexeme
  | .bool b => [(.word, truthWord b)]
  | .number (.whole n) =>
    if n < 0 then [(.operator, ['-']), (.number, decimalDigits n.natAbs)]
    else [(.number, decimalDigits n.natAbs)]
  | .text s => [(.text, quotedLiteral quote s.toList)]
  | _ => [(.word, ['n', 'u', 'l', 'l'])]

/-- The tokens of a value's literal. -/
def literalTokens : Value → List Token
  | .bool b => [.literal (.bool b)]
  | .number (.whole n) =>
    if n < 0 then [.operator .sub, .literal (.number (.whole n.natAbs))]
    else [.literal (.number (.whole n.natAbs))]
  | .text s => [.literal (.text s)]
  | _ => [.literal .null]

/-- The tree of a value's literal. -/
def literalTree : Value → Expression
  | .bool b => .literal (.bool b)
  | .number (.whole n) =>
    if n < 0 then .signed .minus (.literal (.number (.whole n.natAbs)))
    else .literal (.number (.whole n.natAbs))
  | .text s => .literal (.text s)
  | _ => .literal .null

/-! ## Lexemes before a parenthesis -/

variable {kind : LexemeClass} {lexeme rest : List Char}
  {quote : Char} {v : Value}

/-- A lexeme is the longest one if what comes after it
continues none of its class. -/
theorem Longest.of_no_longer
    (hclass : InClass kind lexeme)
    (hno : ∀ more, more ≠ [] → more <+: rest → ¬InClass kind (lexeme ++ more)) :
    Longest (lexeme ++ rest) kind lexeme := by
  refine ⟨List.prefix_append _ _, hclass, ?_⟩
  intro found foundKind hhead hfound
  by_contra hlong
  have hprefix : lexeme <+: found :=
    List.prefix_of_prefix_length_le (List.prefix_append _ _) hhead (by omega)
  obtain ⟨more, rfl⟩ := hprefix
  have hmore : more <+: rest := by
    simpa [List.prefix_append_right_inj] using hhead
  have hne : more ≠ [] := by
    rintro rfl
    simp at hlong
  obtain ⟨c, cs, rfl⟩ := List.exists_cons_of_ne_nil (ne_nil_of_inClass hclass)
  have hkind : kind = foundKind :=
    Option.some.inj
      ((classOf?_eq_some hclass).symm.trans (classOf?_eq_some hfound))
  exact hno more hne hmore (hkind ▸ hfound)

/-- No lexeme of a class continues one that is the longest. -/
theorem Longest.no_longer
    (h : Longest (lexeme ++ rest) kind lexeme) {more : List Char}
    (hne : more ≠ [])
    (hmore : more <+: rest) : ¬InClass kind (lexeme ++ more) := by
  intro hclass
  have hlength :=
    h.length_le ((List.prefix_append_right_inj lexeme).2 hmore) hclass
  have hpos := List.length_pos_iff.2 hne
  rw [List.length_append] at hlength
  omega

/-- The characters of a numeral. -/
theorem IsNumeral.mem {cs : List Char} (h : IsNumeral cs) {c : Char}
    (hc : c ∈ cs) :
    isDecimalDigit c ∨ c ∈ ['.', 'e', 'E', '+', '-'] := by
  obtain ⟨whole, fraction, exponent, hwhole, hfraction, hexponent, -, rfl⟩ := h
  rcases List.mem_append.1 hc with hc | hc
  · rcases List.mem_append.1 hc with hc | hc
    · exact .inl (hwhole c hc)
    · rcases hfraction with rfl | ⟨places, hplaces, rfl⟩
      · cases hc
      · rcases List.mem_cons.1 hc with rfl | hc
        · exact .inr (by simp)
        · exact .inl (hplaces c hc)
  · rcases hexponent with rfl | ⟨e, sign, digits, he, hsign, hdigits, -, rfl⟩
    · cases hc
    · rcases List.mem_cons.1 hc with rfl | hc
      · exact .inr (by rcases he with rfl | rfl <;> simp)
      · rcases List.mem_append.1 hc with hc | hc
        · exact .inr (by rcases hsign with rfl | rfl | rfl <;> simp_all)
        · exact .inl (hdigits c hc)

/-- The classes of space, numbers and words, whose
lexemes have no parenthesis. -/
def parenless : LexemeClass → Bool
  | .space => true
  | .number => true
  | .word => true
  | _ => false

theorem parenless_of_inClass
    (h : InClass kind lexeme) (hkind : parenless kind) {c : Char}
    (hc : c = '(' ∨ c = ')') :
    c ∉ lexeme := by
  intro hmem
  cases kind with
  | space =>
      have hblank := h.2 c hmem
      rcases hc with rfl | rfl <;> exact absurd hblank (by decide)
  | number =>
      rcases IsNumeral.mem h hmem with hdigit | hmark
      · rcases hc with rfl | rfl <;> exact absurd hdigit (by decide)
      · rcases hc with rfl | rfl <;> exact absurd hmark (by decide)
  | word =>
      obtain ⟨first, rest, hfirst, hrest, rfl⟩ := h
      have hword : isAsciiWordChar c := by
        rcases List.mem_cons.1 hmem with rfl | hmem
        · exact isAsciiWordChar_of_isWordStart hfirst
        · exact hrest c hmem
      rcases hc with rfl | rfl <;> exact absurd hword (by decide)
  | text | field | operator => cases hkind

/-- A number or a word in front of a closing parenthesis ends there. -/
theorem longest_before_paren
    (h : InClass kind lexeme) (hkind : parenless kind) (rest : List Char) :
    Longest (lexeme ++ ')' :: rest) kind lexeme := by
  refine .of_no_longer h ?_
  intro more hne hmore hclass
  obtain ⟨c, cs, rfl⟩ := List.exists_cons_of_ne_nil hne
  obtain ⟨rfl, -⟩ := List.cons_prefix_cons.1 hmore
  exact parenless_of_inClass hclass hkind (.inr rfl) (by simp)

/-- A quoted text ends where it ends, whatever comes after it. -/
theorem longest_text (h : InClass .text lexeme) (rest : List Char) :
    Longest (lexeme ++ rest) .text lexeme := by
  refine .of_no_longer h ?_
  intro more hne _ hclass
  have hshort := textOf_of_inClass (List.prefix_append lexeme more) h
  have hlong := textOf_of_inClass (List.prefix_refl (lexeme ++ more)) hclass
  have hsame : lexeme = lexeme ++ more := hshort.symm.trans hlong
  exact hne (List.append_right_eq_self.1 hsame.symm)

/-- Parentheses and the minus are no part of longer symbols. -/
theorem longest_symbol {c : Char} (hc : c ∈ ['(', ')', '-'])
    (rest : List Char) :
    Longest (c :: rest) .operator [c] := by
  have hshort : ∀ symbol ∈ symbols,
      symbol.1.toList.head? ∈ [some '(', some ')', some '-'] →
        symbol.1.toList.length = 1 := by
    decide
  have hsymbol : InClass .operator [c] := by
    simp only [List.mem_cons, List.not_mem_nil, or_false] at hc
    rcases hc with rfl | rfl | rfl
    · exact ⟨("(", .openParen), by simp [symbols], rfl⟩
    · exact ⟨(")", .closeParen), by simp [symbols], rfl⟩
    · exact ⟨("-", .operator .sub), by simp [symbols], rfl⟩
  change Longest ([c] ++ rest) .operator [c]
  refine .of_no_longer hsymbol ?_
  rintro more hne - ⟨symbol, hmem, htext⟩
  have hone := hshort symbol hmem (by simpa [← htext] using hc)
  rw [← htext] at hone
  have hpos := List.length_pos_iff.2 hne
  simp only [List.length_append, List.length_singleton] at hone
  omega

/-! ## The cut of a literal -/

theorem isBody_escaped (hquote : quote = '"' ∨ quote = '\'') (cs : List Char) :
    IsBody quote (cs.flatMap (escapedChar quote)) := by
  induction cs with
  | nil => exact .nil
  | cons c cs ih =>
      rw [List.flatMap_cons, escapedChar]
      split
      · rename_i hspecial
        refine .escape ?_ ih
        rintro rfl
        rcases hquote with rfl | rfl <;> exact absurd hspecial (by decide)
      · rename_i hplain
        simp only [not_or] at hplain
        exact .plain hplain.2 hplain.1 ih

/-- What is escaped between quotes stands for itself. -/
theorem unescape_escaped (hquote : quote = '"' ∨ quote = '\'')
    (cs : List Char) :
    unescape (cs.flatMap (escapedChar quote)) = cs := by
  induction cs with
  | nil => rfl
  | cons c cs ih =>
      rw [List.flatMap_cons, escapedChar]
      split
      · rename_i hspecial
        have hsame : unescapedChar c = c := by
          rcases hspecial with rfl | rfl
          · rfl
          · rcases hquote with rfl | rfl <;> rfl
        simp [unescape, hsame, ih]
      · rename_i hplain
        simp only [not_or] at hplain
        cases hrest : cs.flatMap (escapedChar quote) with
        | nil =>
            rw [hrest] at ih
            simp [unescape, ← ih]
        | cons d ds =>
            rw [hrest] at ih
            simp [unescape, hplain.1, ih]

theorem inClass_quotedLiteral (hquote : quote = '"' ∨ quote = '\'')
    (cs : List Char) : InClass .text (quotedLiteral quote cs) :=
  ⟨quote, _, hquote, isBody_escaped hquote cs, rfl⟩

/-- A digit of a numeral that is written here is an ASCII one, with the
value of its place there. -/
theorem decimalDigit?_of_isDigit {c : Char} (h : c.isDigit) :
    decimalDigit? c = some (c.toNat - '0'.toNat) := by
  simp only [Char.isDigit, Bool.and_eq_true, decide_eq_true_eq, ge_iff_le,
    UInt32.le_iff_toNat_le] at h
  change 48 ≤ c.toNat ∧ c.toNat ≤ 57 at h
  have hascii : c.toNat < 0x80 := by omega
  simp [decimalDigit?, hascii, h]

theorem isDigit_of_mem_decimalDigits {n : Nat} {c : Char}
    (h : c ∈ decimalDigits n) : c.isDigit :=
  Nat.isDigit_of_mem_toDigits (by decide) (by decide) h

theorem digits_decimalDigits (n : Nat) : Digits (decimalDigits n) := by
  intro c hc
  simp [isDecimalDigit,
    decimalDigit?_of_isDigit (isDigit_of_mem_decimalDigits hc)]

theorem digitValues_of_isDigit {cs : List Char} (h : ∀ c ∈ cs, c.isDigit) :
    digitValues cs = cs.map fun c => c.toNat - '0'.toNat := by
  induction cs with
  | nil => rfl
  | cons c cs ih =>
      have hrest := ih fun d hd => h d (by simp [hd])
      simp only [digitValues] at hrest
      simp [digitValues, decimalDigit?_of_isDigit (h c (by simp)), hrest]

/-- The numeral of a number is read as that number. -/
theorem numberOfDigits_decimalDigits (n : Nat) :
    numberOfDigits (digitValues (decimalDigits n)) = n := by
  rw [digitValues_of_isDigit fun c => isDigit_of_mem_decimalDigits,
    numberOfDigits,
    List.foldl_map]
  exact Nat.ofDigitChars_ten_toDigits

theorem inClass_decimalDigits (n : Nat) : InClass .number (decimalDigits n) :=
  ⟨decimalDigits n, [], [], digits_decimalDigits n, .inl rfl, .inl rfl,
    .inl Nat.toDigits_ne_nil, by simp⟩

theorem inClass_word {c : Char} (hc : isWordStart c)
    (hrest : rest.all isAsciiWordChar) : InClass .word (c :: rest) :=
  ⟨c, rest, hc, List.all_eq_true.1 hrest, rfl⟩

theorem inClass_truthWord (b : Bool) : InClass .word (truthWord b) := by
  cases b <;> exact inClass_word (by decide) (by decide)

/-- A number or a word in front of a closing parenthesis is cut off there. -/
theorem cut_before_paren (h : InClass kind lexeme)
    (hkind : parenless kind) (rest : List Char) :
    Cut (lexeme ++ ')' :: rest) [(kind, lexeme)] (')' :: rest) :=
  .piece (longest_before_paren h hkind rest) (.done _)

/-- A parenthesis or a minus is cut off, whatever comes after it. -/
theorem Cut.symbol {c : Char} (hc : c ∈ ['(', ')', '-']) {text : List Char}
    {pieces : List Lexeme} (h : Cut text pieces rest) :
    Cut (c :: text) ((.operator, [c]) :: pieces) rest := by
  have hlongest : Longest ([c] ++ text) .operator [c] := longest_symbol hc text
  exact .piece hlongest h

/-- A literal in front of a closing parenthesis is cut into its lexemes. -/
theorem cut_literal (hquote : quote = '"' ∨ quote = '\'')
    (h : v.HasLiteral) (rest : List Char) :
    Cut (literal quote v ++ ')' :: rest) (literalPieces quote v)
      (')' :: rest) := by
  cases h with
  | null =>
      have hnull : InClass .word ['n', 'u', 'l', 'l'] :=
        inClass_word (by decide) (by decide)
      exact cut_before_paren hnull rfl rest
  | bool b => exact cut_before_paren (inClass_truthWord b) rfl rest
  | @whole n hlimit =>
      have hnumeral :=
        cut_before_paren (inClass_decimalDigits n.natAbs) rfl rest
      by_cases hn : n < 0
      · simp only [literal, wholeText, literalPieces, hn, if_true,
          String.toList_ofList]
        exact hnumeral.symbol (by simp)
      · simp only [literal, wholeText, literalPieces, hn, if_false,
          String.toList_ofList]
        exact hnumeral
  | text s =>
      exact .piece (longest_text (inClass_quotedLiteral hquote s.toList) _)
        (.done _)

/-! ## What a literal stands for -/

/-- The lexemes of a literal stand for its tokens. -/
theorem denotes_literal (hquote : quote = '"' ∨ quote = '\'')
    (h : v.HasLiteral) : Denotes (literalPieces quote v) (literalTokens v) := by
  cases h with
  | null =>
      have hnull : ("null", Token.literal .null) ∈ keywords := by
        simp [keywords]
      exact .token (.word hnull rfl) .nil
  | bool b =>
      have htrue : ("true", Token.literal (.bool true)) ∈ keywords := by
        simp [keywords]
      have hfalse : ("false", Token.literal (.bool false)) ∈ keywords := by
        simp [keywords]
      cases b with
      | true => exact .token (.word htrue rfl) .nil
      | false => exact .token (.word hfalse rfl) .nil
  | @whole n hlimit =>
      have hmeans : Means .number (decimalDigits n.natAbs)
          (.literal (.number (.whole n.natAbs))) := by
        have hwhole := Means.whole (digits_decimalDigits n.natAbs) hlimit
        rwa [numberOfDigits_decimalDigits] at hwhole
      have hminus : ("-", Token.operator .sub) ∈ symbols := by simp [symbols]
      by_cases hn : n < 0
      · simp only [literalPieces, literalTokens, hn, if_true]
        exact .token (.operator hminus) (.token hmeans .nil)
      · simp only [literalPieces, literalTokens, hn, if_false]
        exact .token hmeans .nil
  | text s =>
      have hmeans : Means .text (quotedLiteral quote s.toList)
          (.literal (.text (String.ofList
            (unescape (s.toList.flatMap (escapedChar quote)))))) :=
        .text hquote
      rw [unescape_escaped hquote, String.ofList_toList] at hmeans
      exact .token hmeans .nil

/-- The tokens of a literal are a phrase, and its tree
is that of the literal. -/
theorem derives_literal (v : Value) :
    Grammar.Derives .disjunction (literalTokens v) (literalTree v) := by
  have hsigned {tokens : List Token} {e : Expression}
      (h : Grammar.Derives .signed tokens e) :
      Grammar.Derives .disjunction tokens e :=
    .disjunct (.conjunct (.side (.term (.factor h))))
  have hone (x : Scalar) : Grammar.Derives .signed [.literal x] (.literal x) :=
    .primary (.literal x)
  unfold literalTokens literalTree
  split
  · exact hsigned (hone _)
  · split
    · exact hsigned (.minus (hone _))
    · exact hsigned (hone _)
  · exact hsigned (hone _)
  · exact hsigned (hone _)

/-- The tree of a literal has the value that the literal is of. -/
theorem evaluateWith_literalTree (h : v.HasLiteral) (lookup : Expression.Lookup)
    {budget : Nat} (hbudget : (literalTree v).height ≤ budget) :
    Expression.evaluateWith lookup budget (literalTree v) =
      Scalar.ofValue v := by
  obtain ⟨b, rfl⟩ := Expression.exists_succ_of_height hbudget
  cases h with
  | null | bool | text => rfl
  | @whole n hlimit =>
      by_cases hn : n < 0
      · have hneg : -(n.natAbs : Int) = n := by omega
        simp only [literalTree, hn, if_true] at hbudget ⊢
        obtain ⟨c, rfl⟩ :=
          Nat.exists_eq_add_of_le' (Nat.le_of_succ_le_succ hbudget)
        change Except.ok (Scalar.number (Number.whole (-(n.natAbs : Int)))) = _
        rw [hneg]
        rfl
      · have hnonneg : (n.natAbs : Int) = n := by omega
        simp only [literalTree, hn, if_false, hnonneg]
        rfl

end Lexer

end InvoiceReadiness
