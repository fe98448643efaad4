import CDecl.Source.Span

/-!
# Expressions

The expressions of array bounds and initializers.  Literals, names, operators and conditionals have
a structure; what no evaluation looks into is kept as the text it was written with.
-/

namespace CDecl

/-- The operators with one operand. -/
inductive UnaryOp where
  | plus
  | minus
  | bitNot
  | logicNot
deriving DecidableEq, Inhabited

/-- The operators with two operands. -/
inductive BinaryOp where
  | add
  | sub
  | mul
  | div
  | mod
  | shiftLeft
  | shiftRight
  | less
  | lessEqual
  | greater
  | greaterEqual
  | equal
  | notEqual
  | bitAnd
  | bitXor
  | bitOr
  | logicAnd
  | logicOr
deriving DecidableEq, Inhabited

/-- How an operator is written. -/
def UnaryOp.symbol : UnaryOp → String
  | .plus => "+"
  | .minus => "-"
  | .bitNot => "~"
  | .logicNot => "!"

/-- How an operator is written. -/
def BinaryOp.symbol : BinaryOp → String
  | .add => "+"
  | .sub => "-"
  | .mul => "*"
  | .div => "/"
  | .mod => "%"
  | .shiftLeft => "<<"
  | .shiftRight => ">>"
  | .less => "<"
  | .lessEqual => "<="
  | .greater => ">"
  | .greaterEqual => ">="
  | .equal => "=="
  | .notEqual => "!="
  | .bitAnd => "&"
  | .bitXor => "^"
  | .bitOr => "|"
  | .logicAnd => "&&"
  | .logicOr => "||"

/-- Literal operands. -/
inductive Literal where
  | int (n : Int64)
  | float (x : Float)
  | char (c : Char)
  | str (s : String)
deriving Inhabited

mutual

/-- An expression and where it stands. -/
structure Expr where
  kind : ExprKind
  span : Span

/-- The forms of an expression.  The type names of casts and of `sizeof` are kept as written, and
`verbatim` is any form that has no structure here. -/
inductive ExprKind where
  | literal (value : Literal)
  | ident (name : String)
  | paren (inner : Expr)
  | unary (op : UnaryOp) (operand : Expr)
  | binary (op : BinaryOp) (lhs rhs : Expr)
  | conditional (condition thenExpr elseExpr : Expr)
  | cast (typeName : String) (operand : Expr)
  | sizeOfType (typeName : String)
  | verbatim (text : String)

end

instance : Inhabited ExprKind := ⟨.literal default⟩

instance : Inhabited Expr := ⟨⟨default, .empty⟩⟩

namespace Expr

/-- An expression that stands nowhere. -/
def ofKind (kind : ExprKind) : Expr := ⟨kind, .empty⟩

/-- An integer literal. -/
def int (n : Int64) : Expr := .ofKind (.literal (.int n))

/-- A floating literal. -/
def float (x : Float) : Expr := .ofKind (.literal (.float x))

/-- A string literal. -/
def string (s : String) : Expr := .ofKind (.literal (.str s))

/-- A name. -/
def ident (name : String) : Expr := .ofKind (.ident name)

/-- An operator with its operand. -/
def unary (op : UnaryOp) (operand : Expr) : Expr := .ofKind (.unary op operand)

/-- An operator between its operands. -/
def binary (op : BinaryOp) (lhs rhs : Expr) : Expr := .ofKind (.binary op lhs rhs)

/-- An expression in parentheses. -/
def paren (inner : Expr) : Expr := .ofKind (.paren inner)

/-- The same expression at another place. -/
def withSpan (e : Expr) (span : Span) : Expr := { e with span }

end Expr

end CDecl
