import InvoiceReadiness.Proofs.Expression.Literals

/-!
# Fields as text

The fields of an expression can be looked up while it is evaluated, or their values
can be written into its text beforehand. Here the two are shown to come to the same.

Writing a literal into the text changes what stands after every lexeme before it,
and what counts as the longest lexeme depends on that. It stays the longest all the
same. The texts before and after the exchange are alike up to a parenthesis, in
which the literals come (`Continues`). A longer lexeme would have to reach
over that parenthesis, and only quoted texts do, which end at one place anyway.

From the cut on the argument is about tokens and trees, and is that of substituting
phrases for fields.

## Main results

* `Lexer.tokenize_inlineFields` — the tokens of the text with literals for fields.
* `evaluate_inlineFields` — it has the outcome of the original text over the record.
-/

namespace InvoiceReadiness

namespace Lexer

/-! ## The text with literals for its fields -/

/-- The pieces of a text, in at most as many steps as are given. -/
def cutFrom : Nat → List Char → List Lexeme
  | 0, _ => []
  | steps + 1, text =>
    match lexemeOf? text with
    | none => []
    | some piece => piece :: cutFrom steps (text.drop piece.2.length)

/-- The value of a field, null where it has none. -/
def fieldValue (record : Value) (path : String) : Value :=
  match record.resolve path with
  | .ok v => v
  | .error _ => .null

/-- A piece of a text, or the literal of its value in
parentheses if it is a field. -/
def inlinePiece (quote : Char) (record : Value) (piece : Lexeme) : List Char :=
  match piecePath? piece with
  | some path => '(' :: (literal quote (fieldValue record path) ++ [')'])
  | none => piece.2

/-- The text with the literals of their values, in parentheses, in
the place of its fields. -/
def inlineFields (quote : Char) (record : Value) (s : String) : String :=
  String.ofList
    ((cutFrom s.toList.length s.toList).flatMap (inlinePiece quote record))

variable {kind : LexemeClass} {lexeme text rest other : List Char}
  {pieces : List Lexeme} {tokens : List Token}

/-- A cut to the end consists of the pieces that are computed. -/
theorem cutFrom_eq
    (h : Cut text pieces rest) (hrest : rest = []) {steps : Nat}
    (hsteps : text.length ≤ steps) :
    cutFrom steps text = pieces := by
  induction h generalizing steps with
  | done text =>
      subst hrest
      cases steps <;> rfl
  | @piece lexeme text rest kind pieces hlongest hmore ih =>
      have hpos := List.length_pos_iff.2 (ne_nil_of_inClass hlongest.inClass)
      rw [List.length_append] at hsteps
      obtain ⟨steps, rfl⟩ := Nat.exists_eq_add_of_le' (show 1 ≤ steps by omega)
      rw [cutFrom, lexemeOf?_eq_some.2 hlongest]
      simp only [List.drop_left, ih hrest (show text.length ≤ steps by omega)]

/-! ## Lexemes before a text that changes -/

/-- What `other` starts with and no parenthesis opens in,
`text` starts with as well. -/
def Continues (text other : List Char) : Prop :=
  ∀ more, more <+: other → '(' ∉ more → more <+: text

theorem Continues.refl (text : List Char) : Continues text text :=
  fun _ hmore _ => hmore

theorem Continues.open (text other : List Char) :
    Continues text ('(' :: other) := by
  intro more hmore hnone
  cases more with
  | nil => exact List.nil_prefix
  | cons c cs =>
      obtain ⟨rfl, -⟩ := List.cons_prefix_cons.1 hmore
      exact absurd (List.mem_cons_self) hnone

theorem Continues.append (h : Continues text other)
    (lexeme : List Char) : Continues (lexeme ++ text) (lexeme ++ other) := by
  intro more hmore hnone
  by_cases hshort : more.length ≤ lexeme.length
  · exact (List.prefix_of_prefix_length_le hmore (List.prefix_append _ _)
      hshort).trans (List.prefix_append _ _)
  · obtain ⟨last, rfl⟩ : lexeme <+: more :=
      List.prefix_of_prefix_length_le (List.prefix_append _ _) hmore (by omega)
    rw [List.prefix_append_right_inj] at hmore ⊢
    exact h last hmore fun hmem => hnone (by simp [hmem])

/-- A lexeme stays the longest one, fields apart, if the text after it changes
from a parenthesis on. -/
theorem Longest.of_continues
    (h : Longest (lexeme ++ rest) kind lexeme) (hkind : kind ≠ .field)
    (hcontinues : Continues rest other) :
    Longest (lexeme ++ other) kind lexeme := by
  by_cases htext : kind = .text
  · subst htext
    exact longest_text h.inClass other
  · refine .of_no_longer h.inClass fun more hne hmore hclass => ?_
    have hopen : '(' ∈ more := by
      by_contra hnone
      exact h.no_longer hne (hcontinues more hmore hnone) hclass
    cases kind with
    | text => exact htext rfl
    | field => exact hkind rfl
    | operator =>
        -- no symbol has a parenthesis and anything else
        have halone : ∀ symbol ∈ symbols, '(' ∈ symbol.1.toList →
            symbol.1.toList.length = 1 := by
          decide
        obtain ⟨symbol, hsymbol, hsame⟩ := hclass
        have hlength := halone symbol hsymbol (by simp [← hsame, hopen])
        have hpos := List.length_pos_iff.2 (ne_nil_of_inClass h.inClass)
        have hmorePos := List.length_pos_iff.2 hne
        rw [← hsame, List.length_append] at hlength
        omega
    | space | number | word =>
        exact parenless_of_inClass hclass rfl (.inl rfl) (by simp [hopen])

/-! ## The cut of the text with literals -/

theorem Cut.append {middle : List Char} {more : List Lexeme}
    (h : Cut text pieces middle) (hmore : Cut middle more rest) :
    Cut text (pieces ++ more) rest := by
  induction h with
  | done text => exact hmore
  | piece hlongest _ ih => exact .piece hlongest (ih hmore)

theorem Denotes.append {more : List Lexeme} {others : List Token}
    (h : Denotes pieces tokens) (hmore : Denotes more others) :
    Denotes (pieces ++ more) (tokens ++ others) := by
  induction h with
  | nil => exact hmore
  | space _ ih => exact .space ih
  | token hmeans _ ih => exact .token hmeans ih

/-- The fields of a token list have values with a literal. -/
def Inlinable (record : Value) (tokens : List Token) : Prop :=
  ∀ path, .field path ∈ tokens → (fieldValue record path).HasLiteral

/-- The tokens of the literals of a record's values. -/
def valueTokens (record : Value) (path : String) : List Token :=
  literalTokens (fieldValue record path)

section Inlined

variable {quote : Char} {record : Value}

theorem flatMap_inlinePiece_plain {piece : Lexeme} (h : piecePath? piece = none)
    (pieces : List Lexeme) (rest : List Char) :
    (piece :: pieces).flatMap (inlinePiece quote record) ++ rest =
      piece.2 ++ (pieces.flatMap (inlinePiece quote record) ++ rest) := by
  simp [inlinePiece, h]

theorem flatMap_inlinePiece_field {piece : Lexeme} {path : String}
    (h : piecePath? piece = some path) (pieces : List Lexeme)
    (rest : List Char) :
    (piece :: pieces).flatMap (inlinePiece quote record) ++ rest =
      '(' :: (literal quote (fieldValue record path) ++
        ')' :: (pieces.flatMap (inlinePiece quote record) ++ rest)) := by
  simp [inlinePiece, h]

theorem ne_field_of_piecePath?
    (h : piecePath? (kind, lexeme) = none) : kind ≠ .field := by
  rintro rfl
  cases h

variable (hquote : quote = '"' ∨ quote = '\'')

include hquote

/-- A literal in parentheses is cut into the parentheses and the
lexemes of the literal. -/
theorem cut_parenthesized {v : Value} (h : v.HasLiteral)
    (hcut : Cut text pieces rest) :
    Cut ('(' :: (literal quote v ++ ')' :: text))
      ((.operator, ['(']) ::
        (literalPieces quote v ++ (.operator, [')']) :: pieces)) rest :=
  .symbol (by simp)
    ((cut_literal hquote h text).append (.symbol (by simp) hcut))

theorem denotes_parenthesized {v : Value} (h : v.HasLiteral)
    (hdenotes : Denotes pieces tokens) :
    Denotes ((.operator, ['(']) ::
      (literalPieces quote v ++ (.operator, [')']) :: pieces))
      (.openParen :: (literalTokens v ++ .closeParen :: tokens)) := by
  have hopen : ("(", Token.openParen) ∈ symbols := by simp [symbols]
  have hclose : (")", Token.closeParen) ∈ symbols := by simp [symbols]
  exact .token (.operator hopen)
    ((denotes_literal hquote h).append (.token (.operator hclose) hdenotes))

/-- The text with literals is cut where the text was, and the
literals into their lexemes. -/
theorem exists_cut_inlined
    (hcut : Cut text pieces rest) (hdenotes : Denotes pieces tokens)
    (hfields : Inlinable record tokens) :
    ∃ others,
      Cut (pieces.flatMap (inlinePiece quote record) ++ rest) others rest ∧
      Denotes others (Parser.substituted (valueTokens record) tokens) ∧
      Continues text (pieces.flatMap (inlinePiece quote record) ++ rest) := by
  induction hcut generalizing tokens with
  | done text =>
      cases hdenotes
      exact ⟨[], .done _, .nil, .refl _⟩
  | @piece lexeme text rest kind pieces hlongest hmore ih =>
      cases hdenotes with
      | space hrest =>
          obtain ⟨others, hcut, hdenotes, hcontinues⟩ := ih hrest hfields
          have hlexeme := hlongest.of_continues (by simp) hcontinues
          rw [flatMap_inlinePiece_plain rfl]
          exact ⟨_, .piece hlexeme hcut, .space hdenotes,
            hcontinues.append lexeme⟩
      | @token _ _ token _ tokens hmeans hrest =>
          obtain ⟨others, hcut, hdenotes, hcontinues⟩ :=
            ih hrest fun path hpath => hfields path (by simp [hpath])
          have hpath : piecePath? (kind, lexeme) = token.path? :=
            hmeans.path?_eq.symm
          by_cases hfield : ∃ path, token = .field path
          · obtain ⟨path, rfl⟩ := hfield
            have hliteral := hfields path (by simp)
            rw [flatMap_inlinePiece_field hpath, Parser.substituted_field]
            exact ⟨_, cut_parenthesized hquote hliteral hcut,
              denotes_parenthesized hquote hliteral hdenotes, .open _ _⟩
          · have hplain : ∀ path, token ≠ .field path :=
              fun path htoken => hfield ⟨path, htoken⟩
            have hnone : token.path? = none := by
              cases token with
              | field path => exact absurd rfl (hplain path)
              | _ => rfl
            rw [hnone] at hpath
            have hlexeme :=
              hlongest.of_continues (ne_field_of_piecePath? hpath) hcontinues
            rw [flatMap_inlinePiece_plain hpath,
              Parser.substituted_other hplain]
            exact ⟨_, .piece hlexeme hcut, .token hmeans hdenotes,
              hcontinues.append lexeme⟩

/-- The tokens of the text with literals for its fields are those of the text,
with phrases for them. -/
theorem tokenize_inlineFields {s : String} (h : tokenize s = .ok tokens)
    (hfields : Inlinable record tokens) :
    tokenize (inlineFields quote record s) =
      .ok (Parser.substituted (valueTokens record) tokens) := by
  obtain ⟨pieces, hcut, hdenotes⟩ := tokenize_eq_ok.1 h
  obtain ⟨others, hothers, hmeaning, -⟩ :=
    exists_cut_inlined hquote hcut hdenotes hfields
  refine tokenize_eq_ok.2 ⟨others, ?_, hmeaning⟩
  rw [inlineFields, String.toList_ofList, cutFrom_eq hcut rfl (Nat.le_refl _)]
  simpa using hothers

end Inlined

end Lexer

namespace Expression

/-! ## The outcome of the text with literals -/

/-- The expression that a text writes, read within a depth budget. -/
def ofTextWithin (budget : Nat) (s : String) : Result Expression := do
  if (trimBlanks s.toList).isEmpty then throw (.expression .empty)
  Parser.parse budget (← tokenize s)

/-- The value of an expression text over a record, read and evaluated
within a depth budget. -/
def evaluateWithin (budget : Nat) (s : String) (record : Value) :
    Result Scalar := do
  evaluateWith (plainLookup record) budget (← ofTextWithin budget s)

/-- Evaluation is evaluation within the depth budget of the library. -/
theorem evaluate_text (s : String) (record : Value) :
    evaluate (.text s) record = evaluateWithin depthBudget s record := by
  by_cases hempty : s = ""
  · subst hempty
    rfl
  · simp [evaluate, evaluateWithin, ofValue, Value.isFilled, Value.asText,
      hempty, ofText, ofTextWithin]

/-- Nothing is left between the blanks at both ends if there
is nothing but blanks. -/
theorem isBlankChar_of_trimBlanks {cs : List Char} (h : trimBlanks cs = [])
    {c : Char} (hc : c ∈ cs) : isBlankChar c := by
  have hdropped : cs.dropWhile isBlankChar = [] := by
    by_contra hne
    have hfirst := List.head_dropWhile_not isBlankChar hne
    have hall : ∀ d ∈ (cs.dropWhile isBlankChar).reverse, isBlankChar d := by
      simpa [trimBlanks, trimChars, List.dropWhile_eq_nil_iff] using h
    have hblank := hall _ (List.mem_reverse.2 (List.head_mem hne))
    rw [hfirst] at hblank
    cases hblank
  exact List.dropWhile_eq_nil_iff.1 hdropped c hc

/-- A blank text has no tokens. -/
theorem tokenize_blank {s : String} (h : (trimBlanks s.toList).isEmpty) :
    tokenize s = .ok [] := by
  have hblank : ∀ c ∈ s.toList, isBlankChar c := fun c =>
    isBlankChar_of_trimBlanks (List.isEmpty_iff.1 h)
  by_cases hnil : s.toList = []
  · exact Lexer.tokenize_eq_ok.2 ⟨[], hnil ▸ .done [], .nil⟩
  · have hlongest : Lexer.Longest (s.toList ++ []) .space s.toList := by
      refine .of_no_longer ⟨hnil, hblank⟩ fun more hne hmore => ?_
      exact absurd (List.prefix_nil.1 hmore) hne
    have hcut := Lexer.Cut.piece hlongest (.done [])
    rw [List.append_nil] at hcut
    exact Lexer.tokenize_eq_ok.2 ⟨_, hcut, .space .nil⟩

/-- A text is read from its tokens, if it has any, and is refused otherwise. -/
theorem ofTextWithin_eq {s : String} {tokens : List Token}
    (h : tokenize s = .ok tokens)
    (budget : Nat) :
    ofTextWithin budget s = Parser.parse budget tokens ∨
      tokens = [] ∧ ofTextWithin budget s = .error (.expression .empty) := by
  by_cases hblank : (trimBlanks s.toList).isEmpty
  · have hnil := (tokenize_blank hblank).symm.trans h
    refine .inr ⟨(Except.ok.inj hnil).symm, ?_⟩
    simp only [ofTextWithin, hblank, if_true]
    rfl
  · refine .inl ?_
    simp only [ofTextWithin, hblank, h]
    rfl

theorem parse_nil (budget : Nat) :
    Parser.parse budget [] = .error (.expression .unexpectedEnd) := by
  cases budget <;> rfl

/-- A text without tokens is refused, be it as blank or for what is missing. -/
theorem ofTextWithin_nil {s : String} (h : tokenize s = .ok []) (budget : Nat) :
    ∃ cause, ofTextWithin budget s = .error (.expression cause) := by
  rcases ofTextWithin_eq h budget with hparse | ⟨-, hempty⟩
  · exact ⟨_, hparse.trans (parse_nil budget)⟩
  · exact ⟨_, hempty⟩

/-- A text that has tokens is read from them. -/
theorem ofTextWithin_of_ne_nil {s : String} {tokens : List Token}
    (h : tokenize s = .ok tokens) (hne : tokens ≠ []) (budget : Nat) :
    ofTextWithin budget s = Parser.parse budget tokens :=
  (ofTextWithin_eq h budget).resolve_right fun hempty => hne hempty.1

theorem derives_of_ofTextWithin {s : String} {tokens : List Token}
    (h : tokenize s = .ok tokens)
    {budget : Nat} {e : Expression} (hread : ofTextWithin budget s = .ok e) :
    Grammar.Derives .disjunction tokens e := by
  rcases ofTextWithin_eq h budget with hparse | ⟨-, hempty⟩
  · exact Parser.derives_of_parse (hparse.symm.trans hread)
  · rw [hread] at hempty
    cases hempty

theorem ofTextWithin_ne_tooDeep {s : String} {tokens : List Token}
    (h : tokenize s = .ok tokens) {budget : Nat}
    (hbudget : Parser.parenthesisDepth * tokens.length ≤ budget) :
    ofTextWithin budget s ≠ .error .tooDeep := by
  rcases ofTextWithin_eq h budget with hparse | ⟨-, hempty⟩
  · exact hparse ▸ Parser.parse_ne_tooDeep hbudget
  · simp [hempty]

section Outcome

variable {quote : Char} (hquote : quote = '"' ∨ quote = '\'') {record : Value}
  {s : String} {tokens : List Token} (htokens : tokenize s = .ok tokens)
  (hfields : ∀ path, .field path ∈ tokens →
    ∃ v, record.resolve path = .ok v ∧ v.HasLiteral)

/-- The tree of the literal of a field's value. -/
def valueTree (record : Value) (path : String) : Expression :=
  Lexer.literalTree (Lexer.fieldValue record path)

include hfields

theorem inlinable_of_resolve : Lexer.Inlinable record tokens := by
  intro path hpath
  obtain ⟨v, hresolve, hliteral⟩ := hfields path hpath
  simpa only [Lexer.fieldValue, hresolve] using hliteral

include htokens

/-- In a tree that is read from the text, a field has the value of
the tree of its literal. -/
theorem evaluateWith_valueTree (lookup : Lookup) {budget : Nat} {e : Expression}
    (hread : ofTextWithin budget s = .ok e) {path : String}
    (hpath : path ∈ e.fields) {b : Nat}
    (hb : (valueTree record path).height ≤ b) :
    evaluateWith lookup b (valueTree record path) =
      plainLookup record path := by
  have hmem : .field path ∈ tokens := by
    rw [(derives_of_ofTextWithin htokens hread).fields_eq] at hpath
    obtain ⟨token, htoken, htokenPath⟩ := List.mem_filterMap.1 hpath
    cases token with
    | field other =>
        cases htokenPath
        exact htoken
    | _ => cases htokenPath
  obtain ⟨v, hresolve, hliteral⟩ := hfields path hmem
  have hvalue : Lexer.fieldValue record path = v := by
    simp only [Lexer.fieldValue, hresolve]
  rw [valueTree, hvalue] at hb ⊢
  rw [Lexer.evaluateWith_literalTree hliteral lookup hb]
  simp only [plainLookup, hresolve, Result.ok_bind]

include hquote

/-- Both texts are read, as a tree and the tree with literals for its
fields, or both refused. -/
theorem ofTextWithin_inlineFields (budget otherBudget : Nat) :
    Agree (fun e other => other = e.substitute (valueTree record))
      (ofTextWithin budget s)
      (ofTextWithin otherBudget (Lexer.inlineFields quote record s)) := by
  have hother :=
    Lexer.tokenize_inlineFields hquote htokens (inlinable_of_resolve hfields)
  by_cases hnil : tokens = []
  · subst hnil
    obtain ⟨cause, hcause⟩ := ofTextWithin_nil htokens budget
    obtain ⟨otherCause, hotherCause⟩ := ofTextWithin_nil hother otherBudget
    rw [hcause, hotherCause]
    exact .error (Fault.sameKind_expression _ _)
  · rw [ofTextWithin_of_ne_nil htokens hnil,
      ofTextWithin_of_ne_nil hother (Parser.substituted_ne_nil hnil)]
    exact Parser.parse_substituted
      (fun path => Lexer.derives_literal _) budget otherBudget tokens

/-- Whatever the budgets, they alone make a difference. -/
theorem evaluateWithin_inlineFields (budget otherBudget : Nat)
    (otherRecord : Value) :
    Agree (· = ·) (evaluateWithin budget s record)
      (evaluateWithin otherBudget
        (Lexer.inlineFields quote record s) otherRecord) := by
  refine (ofTextWithin_inlineFields hquote htokens hfields budget
    otherBudget).bind ?_
  rintro e _ hread rfl
  have hvalue : ∀ path ∈ e.fields, ∀ b, (valueTree record path).height ≤ b →
      evaluateWith (plainLookup otherRecord) b (valueTree record path) =
        plainLookup record path :=
    fun path hpath b hb =>
      evaluateWith_valueTree htokens hfields _ hread hpath hb
  have hexact := evaluateWith_substitute hvalue (Nat.le_refl e.height)
    (Nat.le_refl (e.substitute (valueTree record)).height)
  refine .of_withinDepth
    (evaluateWith_withinDepth (Nat.le_refl e.height) budget) ?_
  rw [← hexact]
  exact evaluateWith_withinDepth (Nat.le_refl _) otherBudget

/-- On budgets that suffice for the tokens there is no difference at all. -/
theorem exists_budget_inlineFields (otherRecord : Value) :
    ∃ enough, ∀ budget, enough ≤ budget →
    SameOutcome (· = ·) (evaluateWithin budget s record)
      (evaluateWithin budget (Lexer.inlineFields quote record s)
        otherRecord) := by
  have hother :=
    Lexer.tokenize_inlineFields hquote htokens (inlinable_of_resolve hfields)
  generalize hothers :
    Parser.substituted (Lexer.valueTokens record) tokens = others at hother
  refine ⟨Parser.parenthesisDepth * (tokens.length + others.length),
    fun budget hbudget => ?_⟩
  simp only [Parser.parenthesisDepth] at hbudget
  have hfirstDeep : ofTextWithin budget s ≠ .error .tooDeep :=
    ofTextWithin_ne_tooDeep htokens (by
      simp only [Parser.parenthesisDepth]
      omega)
  have hsecondDeep :
      ofTextWithin budget (Lexer.inlineFields quote record s) ≠
        .error .tooDeep :=
    ofTextWithin_ne_tooDeep hother (by
      simp only [Parser.parenthesisDepth]
      omega)
  have hread := (ofTextWithin_inlineFields hquote htokens hfields budget
    budget).sameOutcome hfirstDeep hsecondDeep
  simp only [evaluateWithin]
  generalize hfirst : ofTextWithin budget s = first at hread
  generalize hsecond :
    ofTextWithin budget (Lexer.inlineFields quote record s) = second at hread
  cases hread with
  | error hkind => exact .error hkind
  | ok htree =>
      subst htree
      have hheight := height_le_length (derives_of_ofTextWithin htokens hfirst)
      have hotherHeight :=
        height_le_length (derives_of_ofTextWithin hother hsecond)
      refine .of_eq (evaluateWith_substitute (fun path hpath b hb =>
        evaluateWith_valueTree htokens hfields _ hfirst hpath hb) ?_ ?_).symm
      · omega
      · omega

end Outcome

end Expression

/--
**Looking fields up is writing their values into the text.** Where a text has
tokens, and the fields among them have values with a literal, the text with those
literals in parentheses has the outcome over the empty record that the text has
over the record: the same value, or a fault of the same kind. Either of the two
may run out of depth, the text with literals earlier as it is nested deeper; on
every budget that is large enough there is no such exception.
-/
theorem evaluate_inlineFields {quote : Char}
    (hquote : quote = '"' ∨ quote = '\'') {s : String}
    {tokens : List Token} (htokens : tokenize s = .ok tokens) {record : Value}
    (hfields : ∀ path, .field path ∈ tokens →
      ∃ v, record.resolve path = .ok v ∧ v.HasLiteral) :
    Agree (· = ·) (Expression.evaluate (.text s) record)
      (Expression.evaluate (.text (Lexer.inlineFields quote record s))
        (.object [])) ∧
    ∃ enough, ∀ budget, enough ≤ budget →
      SameOutcome (· = ·) (Expression.evaluateWithin budget s record)
        (Expression.evaluateWithin budget (Lexer.inlineFields quote record s)
          (.object [])) := by
  rw [Expression.evaluate_text, Expression.evaluate_text]
  exact ⟨Expression.evaluateWithin_inlineFields hquote htokens hfields _ _ _,
    Expression.exists_budget_inlineFields hquote htokens hfields _⟩

/-- A negative number and a text with a quote in it, both
written into a condition. -/
theorem evaluate_inlineFields_quoted :
    Lexer.inlineFields '"'
      (.object [("net", .number (.whole (-12))), ("item", .text "4\" pipe")])
        "\x7bnet\x7d < 1 && \x7b item \x7d" = "(-12) < 1 && (\"4\\\" pipe\")" ∧
    Agree (· = ·)
      (Expression.evaluate (.text "\x7bnet\x7d < 1 && \x7b item \x7d")
        (.object [("net", .number (.whole (-12))), ("item", .text "4\" pipe")]))
      (Expression.evaluate (.text "(-12) < 1 && (\"4\\\" pipe\")")
        (.object [])) := by
  have hinlined : Lexer.inlineFields '"'
      (.object [("net", .number (.whole (-12))), ("item", .text "4\" pipe")])
      "\x7bnet\x7d < 1 && \x7b item \x7d" =
        "(-12) < 1 && (\"4\\\" pipe\")" := by
    decide +kernel
  have htokens : tokenize "\x7bnet\x7d < 1 && \x7b item \x7d" =
      .ok [.field "net", .operator .lt, .literal (.number (.whole 1)),
        .and, .field "item"] := by
    decide +kernel
  refine ⟨hinlined, hinlined ▸ (evaluate_inlineFields (.inl rfl) htokens ?_).1⟩
  intro path hpath
  simp only [List.mem_cons, Token.field.injEq, List.not_mem_nil, or_false,
    reduceCtorEq, false_or] at hpath
  rcases hpath with rfl | rfl
  · exact ⟨.number (.whole (-12)), rfl, .whole (by decide)⟩
  · exact ⟨.text "4\" pipe", rfl, .text _⟩

end InvoiceReadiness
