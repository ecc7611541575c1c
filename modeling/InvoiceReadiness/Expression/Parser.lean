import InvoiceReadiness.Expression.Lexer

/-!
# Reading tokens as expressions

The grammar, loosest binding first:

    or       := and (('||' | 'or') and)*
    and      := compare (('&&' | 'and') compare)*
    compare  := sum (comparison sum)?
    sum      := product (('+' | '-') product)*
    product  := operand (('*' | '/' | '%') operand)*
    operand  := ('-' | '+' | '!' | 'not') operand | literal | field | '(' or ')'

Every level is a function of the parser for operands, so that one recursion
remains: the one into signs and parentheses. It runs on a depth budget, of which
a sign takes one and a parenthesis, with the seven levels inside it, seven.
Chains of operators of one level take nothing; they are read in a loop.
-/

namespace InvoiceReadiness

namespace Parser

/-- A parser gives an expression and the tokens after it. -/
abbrev Reads := List Token → Result (Expression × List Token)

def fail {α : Type} (cause : ExpressionFault) : Result α :=
  .error (.expression cause)

/--
Operands joined from left to right to the expression `left`, as long as the
next token joins. Each round takes two tokens or more, so that as many steps as
there are tokens are never used up.
-/
def chainFrom (operand : Reads) (join? : Token → Option (Expression → Expression → Expression)) :
    Nat → Expression → Reads
  | _, left, [] => .ok (left, [])
  | 0, left, tokens => .ok (left, tokens)
  | steps + 1, left, token :: rest =>
    match join? token with
    | none => .ok (left, token :: rest)
    | some join => do
      let (right, after) ← operand rest
      chainFrom operand join? steps (join left right) after

/-- One operand or several, joined from left to right. -/
def chain (operand : Reads) (join? : Token → Option (Expression → Expression → Expression)) :
    Reads := fun tokens => do
  let (first, rest) ← operand tokens
  chainFrom operand join? rest.length first rest

def productJoin? : Token → Option (Expression → Expression → Expression)
  | .operator .mul => some (.binary .mul)
  | .operator .div => some (.binary .div)
  | .operator .rem => some (.binary .rem)
  | _ => none

def sumJoin? : Token → Option (Expression → Expression → Expression)
  | .operator .add => some (.binary .add)
  | .operator .sub => some (.binary .sub)
  | _ => none

def andJoin? : Token → Option (Expression → Expression → Expression)
  | .and => some .and
  | _ => none

def orJoin? : Token → Option (Expression → Expression → Expression)
  | .or => some .or
  | _ => none

/-- The comparison that a token writes. -/
def comparison? : Token → Option Operator
  | .operator .equal => some .equal
  | .operator .unequal => some .unequal
  | .operator .identical => some .identical
  | .operator .distinct => some .distinct
  | .operator .lt => some .lt
  | .operator .le => some .le
  | .operator .gt => some .gt
  | .operator .ge => some .ge
  | _ => none

/-- The sign that a token writes. -/
def sign? : Token → Option Sign
  | .operator .sub => some .minus
  | .operator .add => some .plus
  | .not => some .not
  | _ => none

def product (operand : Reads) : Reads := chain operand productJoin?

def sum (operand : Reads) : Reads := chain (product operand) sumJoin?

/-- At most one comparison: `a < b < c` is not read as one expression. -/
def compare (operand : Reads) : Reads := fun tokens => do
  let (left, rest) ← sum operand tokens
  match rest with
  | [] => return (left, [])
  | token :: after =>
    match comparison? token with
    | none => return (left, rest)
    | some op =>
      let (right, last) ← sum operand after
      return (.binary op left right, last)

def conjunction (operand : Reads) : Reads := chain (compare operand) andJoin?

def disjunction (operand : Reads) : Reads := chain (conjunction operand) orJoin?

/-- The depth that one pair of parentheses takes. -/
def parenthesisDepth : Nat := 7

/-- A closing parenthesis after an expression. -/
def closed (inner : Result (Expression × List Token)) : Result (Expression × List Token) := do
  let (e, rest) ← inner
  match rest with
  | .closeParen :: after => return (e, after)
  | _ => fail .unclosedParenthesis

/-- A signed operand, a literal, a field, or an expression in parentheses. -/
def operand : Nat → Reads
  | _, [] => fail .unexpectedEnd
  | _, .literal value :: rest => .ok (.literal value, rest)
  | _, .field path :: rest => .ok (.field path, rest)
  | budget + 7, .openParen :: rest => closed (disjunction (operand budget) rest)
  | _, .openParen :: _ => .error .tooDeep
  | budget, token :: rest =>
    match sign? token, budget with
    | some sign, budget + 1 => do
      let (e, after) ← operand budget rest
      return (.signed sign e, after)
    | some _, 0 => .error .tooDeep
    | none, _ => do fail (.unexpectedToken (← token.shown))

/-- The expression that a list of tokens writes, within a depth budget. -/
def parse (budget : Nat) (tokens : List Token) : Result Expression := do
  let (e, rest) ← disjunction (operand budget) tokens
  match rest with
  | [] => return e
  | token :: _ => fail (.unexpectedToken (← token.shown))

end Parser

/-- The depth budget for reading and for evaluating an expression. -/
def depthBudget : Nat := 960

namespace Expression

/-- The expression that a text writes. -/
def ofText (s : String) : Result Expression := do
  if (trimBlanks s.toList).isEmpty then throw (.expression .empty)
  Parser.parse depthBudget (← tokenize s)

/-- The expression that a text writes, where the text is itself data. -/
def ofValue : Value → Result Expression
  | .list _ => .error .notAKey
  | .object _ => .error .notAKey
  | v =>
    if !v.isFilled then .error (.expression .empty)
    else do ofText (← v.asText)

end Expression

end InvoiceReadiness
