import InvoiceReadiness.Expression.Evaluation
import InvoiceReadiness.Proofs.Expression.Grammar
import InvoiceReadiness.Proofs.Expression.Tokens
import InvoiceReadiness.Text.Template

/-!
# What an expression reads

The paths that an expression can look up are known from its text alone: they are
among the placeholders that the text has as a template. Two scanners meet here.
The lexer knows of quoted texts and skips the braces in them; the template does not,
and sees placeholders inside of texts, across them, and from one into the next.

What saves the agreement is that a brace pair which the lexer takes for a field has
no brace inside. Whatever the template has been reading before, an opening brace
makes it start afresh (`piecesFrom_field`), so that it meets the closing one with
the body of the field. Over all other lexemes it only adds to what it has found
(`piecesFrom_append`), and it may well add too much.

## Main results

* `fields_sublist_references` — the fields of an expression, from left to right, are
  a part of the references of its text.
* `references_cover_reads` — and records that agree on those give the same outcome.
-/

namespace InvoiceReadiness

/-! ## The fields of trees, tokens and cuts -/

/-- The paths of the fields of an expression, from left to right. -/
def Expression.fields : Expression → List String
  | literal _ => []
  | field path => [path]
  | signed _ operand => operand.fields
  | binary _ left right => left.fields ++ right.fields
  | and left right => left.fields ++ right.fields
  | or left right => left.fields ++ right.fields

/-- The path of a field token. -/
def Token.path? : Token → Option String
  | field path => some path
  | _ => none

/-- A tree has the fields of the tokens that it is
derived from, in their order. -/
theorem Grammar.Derives.fields_eq {level : Grammar.Level} {tokens : List Token}
    {e : Expression} (h : Grammar.Derives level tokens e) :
    e.fields = tokens.filterMap Token.path? := by
  induction h with
  | _ => simp_all [Expression.fields, Token.path?, List.filterMap_cons]

namespace Lexer

/-- The path of a piece that is a field. -/
def piecePath? : Lexeme → Option String
  | (.field, lexeme) => some (String.ofList (trimBlanks (inner lexeme)))
  | _ => none

/-- The token of a lexeme is a field if the lexeme is, and has its path. -/
theorem Means.path?_eq {kind : LexemeClass} {lexeme : List Char} {token : Token}
    (h : Means kind lexeme token) :
    token.path? = piecePath? (kind, lexeme) := by
  cases h with
  | field body => simp [Token.path?, piecePath?, inner_append]
  | operator hsymbol =>
      have hall : ∀ symbol ∈ symbols, symbol.2.path? = none := by decide
      exact hall _ hsymbol
  | word hkeyword =>
      have hall : ∀ keyword ∈ keywords, keyword.2.path? = none := by decide
      exact hall _ hkeyword
  | _ => rfl

/-- The tokens of pieces have the fields of the pieces, in their order. -/
theorem Denotes.path?_eq {pieces : List Lexeme} {tokens : List Token}
    (h : Denotes pieces tokens) :
    tokens.filterMap Token.path? = pieces.filterMap piecePath? := by
  induction h with
  | nil => rfl
  | space hmore ih => simpa [piecePath?, List.filterMap_cons] using ih
  | token hmeans hmore ih =>
      simp only [List.filterMap_cons, hmeans.path?_eq, ih]

end Lexer

/-! ## The template over a lexeme -/

namespace Template

/-- Braces with a text between them are a placeholder, whatever
was being read before. -/
theorem piecesFrom_field {body : List Char} (hne : body ≠ [])
    (hplain : Lexer.Unbraced body)
    (pending : Option (List Char)) (rest : List Char) :
    piecesFrom pending ('\x7b' :: (body ++ '\x7d' :: rest)) =
      unfinished pending ++ .placeholder body :: piecesFrom none rest := by
  have hopen (read unread : List Char) (hread : read ≠ [] ∨ unread ≠ [])
      (hunread : Lexer.Unbraced unread) :
      piecesFrom (some read) (unread ++ '\x7d' :: rest) =
        .placeholder (read.reverse ++ unread) :: piecesFrom none rest := by
    induction unread generalizing read with
    | nil => simp_all [piecesFrom]
    | cons c unread ih =>
        obtain ⟨hleft, hright⟩ := hunread c (by simp)
        have hmore :=
          ih (c :: read) (.inl (by simp)) fun d hd => hunread d (by simp [hd])
        simp [piecesFrom, hleft, hright, hmore]
  have hbody := hopen [] body (.inr hne) hplain
  simp [piecesFrom, hbody]

/-- Over any text the template finds some pieces and goes on in some state. -/
theorem piecesFrom_append (pending : Option (List Char)) (cs : List Char) :
    ∃ found after, ∀ rest,
      piecesFrom pending (cs ++ rest) = found ++ piecesFrom after rest := by
  induction cs generalizing pending with
  | nil => exact ⟨[], pending, fun rest => rfl⟩
  | cons c cs ih =>
      by_cases hopen : c = '\x7b'
      · obtain ⟨found, after, hmore⟩ := ih (some [])
        refine ⟨unfinished pending ++ found, after, fun rest => ?_⟩
        simp [piecesFrom, hopen, hmore]
      · cases pending with
        | none =>
            obtain ⟨found, after, hmore⟩ := ih none
            refine ⟨.char c :: found, after, fun rest => ?_⟩
            simp [piecesFrom, hopen, hmore]
        | some body =>
            by_cases hclose : c = '\x7d'
            · obtain ⟨found, after, hmore⟩ := ih none
              by_cases hempty : body = []
              · refine ⟨.char '\x7b' :: .char '\x7d' :: found, after,
                  fun rest => ?_⟩
                simp [piecesFrom, hclose, hempty, hmore]
              · refine ⟨.placeholder body.reverse :: found, after,
                  fun rest => ?_⟩
                simp [piecesFrom, hclose, hempty, hmore]
            · obtain ⟨found, after, hmore⟩ := ih (some (c :: body))
              refine ⟨found, after, fun rest => ?_⟩
              simp [piecesFrom, hopen, hclose, hmore]

/-- Along a cut, from whatever state, the template finds the fields
of the pieces at least. -/
theorem fields_sublist_piecesFrom {text rest : List Char}
    {pieces : List Lexer.Lexeme} (h : Lexer.Cut text pieces rest)
    (pending : Option (List Char)) :
    (pieces.filterMap Lexer.piecePath?).Sublist
      ((piecesFrom pending text).filterMap Piece.path?) := by
  induction h generalizing pending with
  | done text => exact List.nil_sublist _
  | @piece lexeme text rest kind pieces hlongest hmore ih =>
      cases kind with
      | field =>
          obtain ⟨body, hne, hplain, rfl⟩ := hlongest.inClass
          have hpath : Lexer.piecePath? (.field, '\x7b' :: (body ++ ['\x7d'])) =
              (Piece.placeholder body).path? := by
            simp [Lexer.piecePath?, Lexer.inner_append, Piece.path?]
          rw [List.cons_append, List.append_assoc, List.singleton_append,
            piecesFrom_field hne hplain, List.filterMap_append,
            List.filterMap_cons, List.filterMap_cons, hpath]
          exact List.sublist_append_of_sublist_right ((ih none).cons_cons _)
      | _ =>
          obtain ⟨found, after, hfound⟩ := piecesFrom_append pending lexeme
          rw [hfound, List.filterMap_append, List.filterMap_cons]
          exact List.sublist_append_of_sublist_right (ih after)

end Template

namespace Expression

/-- The fields of an expression are references of its
text, in the same order. -/
theorem fields_sublist_references {s : String} {e : Expression}
    (h : ofText s = .ok e) :
    e.fields.Sublist (Template.references s) := by
  unfold ofText at h
  split at h
  · cases h
  · obtain ⟨tokens, htokens, hparse⟩ := Result.bind_eq_ok.1 h
    obtain ⟨pieces, hcut, hdenotes⟩ := Lexer.tokenize_eq_ok.1 htokens
    rw [(Parser.derives_of_parse hparse).fields_eq, hdenotes.path?_eq]
    exact Template.fields_sublist_piecesFrom hcut none

/-! ## Evaluation over records that agree -/

/-- Evaluation looks up no paths but those of the fields. -/
theorem evaluateWith_congr {lookup other : Lookup} {e : Expression}
    (h : ∀ path ∈ e.fields, lookup path = other path) (budget : Nat) :
    evaluateWith lookup budget e = evaluateWith other budget e := by
  induction e generalizing budget with
  | literal value => cases budget <;> rfl
  | field path =>
      cases budget with
      | zero => rfl
      | succ budget => exact h path (by simp [fields])
  | signed sign operand ih =>
      cases budget with
      | zero => rfl
      | succ budget => simp only [evaluateWith, ih h budget]
  | binary op left right ihl ihr | and left right ihl ihr
  | or left right ihl ihr =>
      cases budget with
      | zero => rfl
      | succ budget =>
          have hleft :=
            ihl (fun path hpath => h path (by simp [fields, hpath])) budget
          have hright :=
            ihr (fun path hpath => h path (by simp [fields, hpath])) budget
          simp only [evaluateWith, hleft, hright]

/-- An expression read from data has the text's
references for its fields too. -/
theorem mem_references_of_ofValue {s : String} {e : Expression}
    (h : ofValue (.text s) = .ok e) {path : String} (hpath : path ∈ e.fields) :
    path ∈ Template.references s := by
  simp only [ofValue] at h
  split at h
  · cases h
  · exact (fields_sublist_references h).subset hpath

/-- Lookups that agree on the references of a text give it the same value. -/
theorem evaluateWith_text_congr {s : String} {lookup other : Lookup}
    (h : ∀ path ∈ Template.references s, lookup path = other path) :
    (ofValue (.text s) >>= fun e => evaluateWith lookup depthBudget e) =
      ofValue (.text s) >>= fun e => evaluateWith other depthBudget e := by
  cases hread : ofValue (.text s) with
  | error fault => rfl
  | ok e =>
      exact evaluateWith_congr
        (fun path hp => h path (mem_references_of_ofValue hread hp)) _

end Expression

/--
**The references of a text cover what its expression reads.** The fields of the
tree, from left to right, are a subsequence of the references, so that two records
in which every reference leads to the same value, or to the same fault, cannot be
told apart by the text: not by its value, and not as condition, amount or formula.
-/
theorem references_cover_reads (s : String) :
    (∀ e, Expression.ofText s = .ok e →
      e.fields.Sublist (Template.references s)) ∧
    ∀ first second : Value,
      (∀ path ∈ Template.references s,
        first.resolve path = second.resolve path) →
      Expression.evaluate (.text s) first =
          Expression.evaluate (.text s) second ∧
        Expression.condition (.text s) first =
          Expression.condition (.text s) second ∧
        Expression.arithmetic (.text s) first =
          Expression.arithmetic (.text s) second ∧
        Expression.formula (.text s) first =
          Expression.formula (.text s) second := by
  refine ⟨fun e => Expression.fields_sublist_references,
    fun first second hsame => ?_⟩
  have hplain : Expression.evaluate (.text s) first =
      Expression.evaluate (.text s) second :=
    Expression.evaluateWith_text_congr fun path hpath => by
      simp only [Expression.plainLookup, hsame path hpath]
  have hamount : (Expression.ofValue (.text s) >>= fun e =>
        Expression.evaluateWith (Expression.amountLookup first) depthBudget e) =
      Expression.ofValue (.text s) >>= fun e =>
        Expression.evaluateWith (Expression.amountLookup second)
          depthBudget e :=
    Expression.evaluateWith_text_congr fun path hpath => by
      simp only [Expression.amountLookup, hsame path hpath]
  refine ⟨hplain, ?_, ?_, ?_⟩
  · simp only [Expression.condition, hplain]
  · simp only [Expression.arithmetic, hamount]
  · simp only [Expression.formula, hplain]

end InvoiceReadiness
