import InvoiceReadiness.Proofs.Expression.Literals

/-!
# Quoted texts in front of anything

A text is written between quotes with a backslash before each of its backslashes and before each
quote of the kind that encloses it. The lexer finds the end of such a text by one rule, and its
characters by another. What is shown here is that the two rules fit each other, so that nothing
in the text ends the literal early, and nothing after it belongs to it: not a backslash at the
end, not a line feed, and no letter that would be an escape after a lone backslash.

The lexer does not look back either. The tokens of what follows are those that it has by itself,
and if it has none the fault is the same. One fault tells its place (`Fault.movedBy`): the place
is further along by the length of the literal.

## Main results

* `Lexer.scan_add` — a text that is scanned from a later place on.
* `Lexer.scan_quotedLiteral` — a quoted text in front of another text.
* `tokenize_quotedLiteral` — the tokens of both.
-/

namespace InvoiceReadiness

/-- A fault of a text that stands behind `offset` more characters. -/
def Fault.movedBy (offset : Nat) : Fault → Fault
  | .expression (.unexpectedCharacter c position) =>
    .expression (.unexpectedCharacter c (offset + position))
  | fault => fault

namespace Lexer

variable {text : List Char} {position : Nat} {fault : Fault}

/-! ## Places -/

/-- Where cutting halts, it halts wherever the text stands. -/
theorem Halts.movedBy (offset : Nat) (h : Halts position text fault) :
    Halts (offset + position) text (fault.movedBy offset) := by
  cases h with
  | noLexeme hnone => exact .noLexeme hnone
  | unknownWord hlongest hunknown => exact .unknownWord hlongest hunknown
  | longInteger hlongest hdigits hlimit => exact .longInteger hlongest hdigits hlimit

/-- A text has the same tokens wherever it stands, or the fault is moved with it. -/
theorem scan_add (offset position : Nat) (text : List Char) :
    scan (offset + position) text = (scan position text).mapError (Fault.movedBy offset) := by
  obtain ⟨pieces, tokens, rest, hcut, hdenotes, hend⟩ := exists_cut text
  rw [scan_cut hcut hdenotes, scan_cut hcut hdenotes, Nat.add_assoc]
  rcases hend with rfl | hhalts
  · rfl
  · obtain ⟨fault, hfault⟩ := hhalts (position + (text.length - rest.length))
    rw [scan_halts hfault, scan_halts (hfault.movedBy offset)]
    rfl

/-! ## The literal -/

variable {quote : Char}

/-- A quoted text stands for itself, and what comes after it for what it stands for alone. -/
theorem scan_quotedLiteral (hquote : quote = '"' ∨ quote = '\'') (cs rest : List Char)
    (position : Nat) :
    scan position (quotedLiteral quote cs ++ rest) = (do
      let more ← scan (position + (quotedLiteral quote cs).length) rest
      return .literal (.text (String.ofList cs)) :: more) := by
  have hclass := inClass_quotedLiteral hquote cs
  have htoken : tokenOf .text (quotedLiteral quote cs) =
      .ok (some (.literal (.text (String.ofList cs)))) := by
    rw [tokenOf, quotedLiteral, inner_append, unescape_escaped hquote]
  rw [scan_lexeme (longest_text hclass rest), htoken, Result.ok_bind]
  rfl

end Lexer

open Lexer in
/--
**A quoted text is read back.** Whatever the text is, and whatever follows the literal, the
literal is the longest lexeme at its place, its token is the text, and the tokens after it are
those that the rest has by itself; where the rest has a fault, both have it, moved by the length
of the literal.
-/
theorem tokenize_quotedLiteral {quote : Char} (hquote : quote = '"' ∨ quote = '\'')
    (s rest : String) :
    let literal := quotedLiteral quote s.toList
    Longest (literal ++ rest.toList) .text literal ∧
      tokenize (String.ofList literal ++ rest) =
        match tokenize rest with
        | .ok tokens => .ok (.literal (.text s) :: tokens)
        | .error fault => .error (fault.movedBy literal.length) := by
  intro literal
  refine ⟨longest_text (inClass_quotedLiteral hquote s.toList) rest.toList, ?_⟩
  have htext : (String.ofList literal ++ rest).toList = literal ++ rest.toList := by
    rw [String.toList_append, String.toList_ofList]
  change scan 0 (String.ofList literal ++ rest).toList = match scan 0 rest.toList with
    | .ok tokens => .ok (.literal (.text s) :: tokens)
    | .error fault => .error (fault.movedBy literal.length)
  rw [htext, scan_quotedLiteral hquote, String.ofList_toList, Nat.zero_add,
    ← Nat.add_zero (quotedLiteral quote s.toList).length, scan_add]
  cases scan 0 rest.toList with
  | ok tokens => rfl
  | error fault => rfl

/-- A text of a line feed, a quote of its own and a backslash at its end, in front of a letter that
would be an escape and a character that no token starts with. -/
theorem tokenize_quotedLiteral_backslash :
    tokenize "\"\n\\\"\\\\\"+'n'#" =
      .error (.expression (.unexpectedCharacter '#' 11)) := by
  have hread := (@tokenize_quotedLiteral '"' (.inl rfl) "\n\"\\" "+'n'#").2
  have hrest : tokenize "+'n'#" = .error (.expression (.unexpectedCharacter '#' 4)) := by
    decide +kernel
  rw [hrest] at hread
  exact hread

end InvoiceReadiness
