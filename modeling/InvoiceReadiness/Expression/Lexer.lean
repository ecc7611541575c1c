import InvoiceReadiness.Expression.Basic
import InvoiceReadiness.Text.Word

/-!
# Cutting expressions into tokens

The text is cut from left to right into lexemes of six classes: space, numbers,
quoted texts, fields in braces, operators and words. The first character decides
the class, and each lexeme is the longest of its class. Space separates and
yields no token.

* A **number** has digits of any script, an optional point with digits on at
  least one side, and an optional exponent. Without point and exponent it is a
  whole number.
* A **quoted text** ends at the quote that opened it. A backslash takes the next
  character along, which must not be a line feed.
* A **field** is any text without braces between a pair of braces.
* A **word** must be one of the keywords, in any case.
-/

namespace InvoiceReadiness

/-- The classes of lexemes. -/
inductive LexemeClass where
  | space | number | text | field | operator | word
  deriving DecidableEq

namespace Lexer

/-- The characters of an exponent part at the head of a text, if there is one. -/
def exponentOf (cs : List Char) : List Char :=
  match cs with
  | e :: rest =>
    if e == 'e' || e == 'E' then
      let sign := match rest with
        | '+' :: _ => ['+']
        | '-' :: _ => ['-']
        | _ => []
      let digits := (rest.drop sign.length).takeWhile isDecimalDigit
      if digits.isEmpty then [] else e :: sign ++ digits
    else []
  | [] => []

/-- The characters of the number at the head of a text; none if there is no number. -/
def numberOf (cs : List Char) : List Char :=
  let whole := cs.takeWhile isDecimalDigit
  let afterWhole := cs.drop whole.length
  let fraction := match afterWhole with
    | '.' :: rest =>
      let places := rest.takeWhile isDecimalDigit
      if whole.isEmpty && places.isEmpty then [] else '.' :: places
    | _ => []
  if whole.isEmpty && fraction.isEmpty then []
  else
    let mantissa := whole ++ fraction
    mantissa ++ exponentOf (cs.drop mantissa.length)

/--
The characters of a quoted text after its opening quote, the closing quote
included; none if it is not closed.
-/
def textBody? (quote : Char) : List Char → Option (List Char)
  | [] => none
  | c :: rest =>
    if c == quote then some [c]
    else if c == '\\' then
      match rest with
      | [] => none
      | next :: after =>
        if next == '\n' then none else (textBody? quote after).map fun body => c :: next :: body
    else (textBody? quote rest).map (c :: ·)

/-- The characters of the field at the head of a text; none if there is no field. -/
def fieldOf (cs : List Char) : List Char :=
  match cs with
  | '\x7b' :: rest =>
    let body := rest.takeWhile fun c => c != '\x7b' && c != '\x7d'
    match rest.drop body.length with
    | '\x7d' :: _ => if body.isEmpty then [] else '\x7b' :: body ++ ['\x7d']
    | _ => []
  | _ => []

/-- The symbols of the language, longer ones before those they start with. -/
def symbols : List (String × Token) :=
  [("===", .operator .identical), ("!==", .operator .distinct), ("==", .operator .equal),
   ("!=", .operator .unequal), ("<=", .operator .le), (">=", .operator .ge), ("&&", .and),
   ("||", .or), ("-", .operator .sub), ("+", .operator .add), ("*", .operator .mul),
   ("/", .operator .div), ("%", .operator .rem), ("<", .operator .lt), (">", .operator .gt),
   ("!", .not), ("(", .openParen), (")", .closeParen)]

/-- The symbol at the head of a text. -/
def symbolOf? (cs : List Char) : Option (String × Token) :=
  symbols.find? fun symbol => symbol.1.toList.isPrefixOf cs

def isWordStart (c : Char) : Bool := c.isAlpha || c == '_'

/-- The class and the characters of the lexeme at the head of a text. -/
def lexemeOf? (cs : List Char) : Option (LexemeClass × List Char) :=
  match cs with
  | [] => none
  | c :: rest =>
    if isBlankChar c then some (.space, cs.takeWhile isBlankChar)
    else if !(numberOf cs).isEmpty then some (.number, numberOf cs)
    else if c == '"' || c == '\'' then
      (textBody? c rest).map fun body => (.text, c :: body)
    else if !(fieldOf cs).isEmpty then some (.field, fieldOf cs)
    else if isWordStart c then some (.word, cs.takeWhile isAsciiWordChar)
    else (symbolOf? cs).map fun symbol => (.operator, symbol.1.toList)

/-- The character that a backslash and a character stand for. -/
def unescapedChar : Char → Char
  | 'n' => '\n'
  | 't' => '\t'
  | 'r' => '\r'
  | c => c

/-- The text that the characters between two quotes stand for. -/
def unescape : List Char → List Char
  | [] => []
  | [c] => [c]
  | c :: next :: rest =>
    if c == '\\' then unescapedChar next :: unescape rest else c :: unescape (next :: rest)

/-- The characters between the first and the last one. -/
def inner (lexeme : List Char) : List Char :=
  (lexeme.drop 1).dropLast

/-- The value of a number lexeme. -/
def numberValue (lexeme : List Char) : Result Number :=
  if lexeme.any fun c => c == '.' || c == 'e' || c == 'E' then
    match unpaddedNumber? lexeme with
    | some x => .ok (.float x)
    | none => .error .notANumeral
  else do
    let n ← naturalOfText? lexeme
    return .whole n

/-- The token of a word. -/
def keyword? (lexeme : List Char) : Option Token :=
  let word := String.ofList (lexeme.map Char.toLower)
  if word == "null" then some (.literal .null)
  else if word == "true" then some (.literal (.bool true))
  else if word == "false" then some (.literal (.bool false))
  else if word == "and" then some .and
  else if word == "or" then some .or
  else if word == "not" then some .not
  else none

/-- The token of a lexeme; space has none. -/
def tokenOf (kind : LexemeClass) (lexeme : List Char) : Result (Option Token) :=
  match kind with
  | .space => .ok none
  | .number => (numberValue lexeme).map fun n => some (.literal (.number n))
  | .text => .ok (some (.literal (.text (String.ofList (unescape (inner lexeme))))))
  | .field => .ok (some (.field (String.ofList (trimBlanks (inner lexeme)))))
  | .operator => .ok ((symbolOf? lexeme).map Prod.snd)
  | .word =>
    match keyword? lexeme with
    | some token => .ok (some token)
    | none => .error (.expression (.unknownIdentifier (String.ofList lexeme)))

/-- The tokens of a text that starts at `position`, cut in at most `steps` lexemes. -/
def tokensFrom : Nat → Nat → List Char → Result (List Token)
  | _, _, [] => .ok []
  | 0, _, _ :: _ => .ok []
  | steps + 1, position, c :: rest =>
    match lexemeOf? (c :: rest) with
    | none => .error (.expression (.unexpectedCharacter c position))
    | some (kind, lexeme) => do
      let token ← tokenOf kind lexeme
      let more ← tokensFrom steps (position + lexeme.length) ((c :: rest).drop lexeme.length)
      return token.toList ++ more

end Lexer

/-- The tokens of an expression text. -/
def tokenize (s : String) : Result (List Token) :=
  Lexer.tokensFrom s.toList.length 0 s.toList

end InvoiceReadiness
