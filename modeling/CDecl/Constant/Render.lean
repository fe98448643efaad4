import CDecl.Constant.Value

/-!
# The text of expressions

Expressions are written as C source.  Parentheses appear where the tree has them and nowhere else.
-/

namespace CDecl

/-- How a literal is written: like its value. -/
def Literal.text (l : Literal) : String := (Value.ofLiteral l).text

mutual

/-- The source text of an expression. -/
def Expr.render : Expr → String
  | ⟨kind, _⟩ => kind.render

/-- The source text of a form of expression. -/
def ExprKind.render : ExprKind → String
  | .literal value => value.text
  | .ident name => name
  | .paren inner => "(" ++ inner.render ++ ")"
  | .unary op operand => op.symbol ++ operand.render
  | .binary op lhs rhs => lhs.render ++ " " ++ op.symbol ++ " " ++ rhs.render
  | .conditional condition thenExpr elseExpr =>
      condition.render ++ " ? " ++ thenExpr.render ++ " : " ++ elseExpr.render
  | .cast typeName operand => "(" ++ typeName ++ ")" ++ operand.render
  | .sizeOfType typeName => "sizeof(" ++ typeName ++ ")"
  | .verbatim text => text

end

end CDecl
