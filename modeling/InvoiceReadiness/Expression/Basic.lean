import InvoiceReadiness.Expression.Scalar

/-!
# Expressions

The language of conditions, amounts and formulas in check configurations. An
expression is built from literals and fields by signs, arithmetic, comparisons
and the two connectives. Its text is cut into tokens first (`Token`) and the
tokens are read as a tree (`Expression`).
-/

namespace InvoiceReadiness

/-- An operator between two operands, the connectives apart. -/
inductive Operator where
  | add | sub | mul | div | rem
  | equal | unequal | identical | distinct
  | lt | le | gt | ge
  deriving DecidableEq

/-- An operator before its operand. -/
inductive Sign where
  | minus | plus | not
  deriving DecidableEq

/-- An expression as a tree. -/
inductive Expression where
  | literal (value : Scalar)
  | field (path : String)
  | signed (sign : Sign) (operand : Expression)
  | binary (operator : Operator) (left right : Expression)
  | and (left right : Expression)
  | or (left right : Expression)
  deriving DecidableEq

instance : Inhabited Expression := ⟨.literal .null⟩

/-- A lexical unit of an expression. -/
inductive Token where
  | literal (value : Scalar)
  | field (path : String)
  | operator (op : Operator)
  | and
  | or
  | not
  | openParen
  | closeParen
  deriving DecidableEq

def Operator.spelling : Operator → String
  | add => "+"
  | sub => "-"
  | mul => "*"
  | div => "/"
  | rem => "%"
  | equal => "=="
  | unequal => "!="
  | identical => "==="
  | distinct => "!=="
  | lt => "<"
  | le => "<="
  | gt => ">"
  | ge => ">="

def Sign.spelling : Sign → String
  | minus => "-"
  | plus => "+"
  | not => "!"

/-- The form of a token in messages that quote it. -/
def Token.shown : Token → Result String
  | literal value => value.quotedText
  | field path => .ok (quoted path)
  | operator op => .ok (quoted op.spelling)
  | and => .ok (quoted "&&")
  | or => .ok (quoted "||")
  | not => .ok (quoted "!")
  | openParen => .ok (quoted "(")
  | closeParen => .ok (quoted ")")

end InvoiceReadiness
