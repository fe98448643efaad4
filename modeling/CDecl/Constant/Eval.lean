import CDecl.Constant.Value

/-!
# Evaluating constant expressions

An expression has a value when it is built from literals and from names with a value.  Integers are
64 bits wide and wrap around; integer and floating operands mix by going over to floating numbers.

`&&`, `||` and `?:` leave out the operand that they do not need, so an operand without a value does
not matter there.
-/

namespace CDecl

/-- A unary operator on an integer. -/
def UnaryOp.onInt (op : UnaryOp) (n : Int64) : Int64 :=
  match op with
  | .plus => n
  | .minus => -n
  | .bitNot => ~~~n
  | .logicNot => if n = 0 then 1 else 0

/-- A unary operator on a floating number; bits cannot be flipped there. -/
def UnaryOp.onFloat (op : UnaryOp) (x : Float) : Option Value :=
  match op with
  | .plus => some (.float x)
  | .minus => some (.float (-x))
  | .bitNot => none
  | .logicNot => some (.ofBool (x == 0.0))

/-- A unary operator on a value; texts take none. -/
def UnaryOp.onValue (op : UnaryOp) : Value → Option Value
  | .float x => op.onFloat x
  | v => v.int?.map fun n => .int (op.onInt n)

theorem UnaryOp.onValue_of_int? {op : UnaryOp} {v : Value} {n : Int64} (hInt : v.int? = some n) :
    op.onValue v = some (.int (op.onInt n)) := by
  cases v with
  | int m =>
      cases hInt
      rfl
  | char c =>
      cases hInt
      rfl
  | float x => cases hInt
  | str s => cases hInt

/-- A truth value as an integer word. -/
def flagWord (b : Bool) : Int64 := if b then 1 else 0

/-- A binary operator on integers.  Division by zero has no value, and a shift takes its amount
modulo the width. -/
def BinaryOp.onInts (op : BinaryOp) (l r : Int64) : Option Int64 :=
  match op with
  | .add => some (l + r)
  | .sub => some (l - r)
  | .mul => some (l * r)
  | .div => if r = 0 then none else some (l / r)
  | .mod => if r = 0 then none else some (l % r)
  | .shiftLeft => some (l <<< r)
  | .shiftRight => some (l >>> r)
  | .less => some (flagWord (l < r))
  | .lessEqual => some (flagWord (l ≤ r))
  | .greater => some (flagWord (r < l))
  | .greaterEqual => some (flagWord (r ≤ l))
  | .equal => some (flagWord (l == r))
  | .notEqual => some (flagWord (l != r))
  | .bitAnd => some (l &&& r)
  | .bitXor => some (l ^^^ r)
  | .bitOr => some (l ||| r)
  | .logicAnd => some (flagWord (l != 0 && r != 0))
  | .logicOr => some (flagWord (l != 0 || r != 0))

/-- A binary operator on floating numbers; remainders, shifts and bit operators have no value. -/
def BinaryOp.onFloats (op : BinaryOp) (l r : Float) : Option Value :=
  match op with
  | .add => some (.float (l + r))
  | .sub => some (.float (l - r))
  | .mul => some (.float (l * r))
  | .div => if r == 0.0 then none else some (.float (l / r))
  | .less => some (.ofBool (l < r))
  | .lessEqual => some (.ofBool (l ≤ r))
  | .greater => some (.ofBool (r < l))
  | .greaterEqual => some (.ofBool (r ≤ l))
  | .equal => some (.ofBool (l == r))
  | .notEqual => some (.ofBool (l != r))
  | _ => none

/-- A binary operator on two values: on integers if both count as such, otherwise on floating
numbers. -/
def BinaryOp.onValues (op : BinaryOp) (a b : Value) : Option Value :=
  match a.int?, b.int? with
  | some l, some r => (op.onInts l r).map .int
  | _, _ =>
      match a.float?, b.float? with
      | some l, some r => op.onFloats l r
      | _, _ => none

theorem BinaryOp.onValues_of_int? {op : BinaryOp} {a b : Value} {l r : Int64}
    (hLeft : a.int? = some l) (hRight : b.int? = some r) :
    op.onValues a b = (op.onInts l r).map .int := by
  rw [onValues, hLeft, hRight]

/-- A binary operator on a left operand with a value and a right operand that may have none. -/
def BinaryOp.apply (op : BinaryOp) (a : Value) (b : Option Value) : Option Value :=
  match op with
  | .logicAnd => if a.isTrue then b.map fun b => .ofBool b.isTrue else some (.int 0)
  | .logicOr => if a.isTrue then some (.int 1) else b.map fun b => .ofBool b.isTrue
  | op => b.bind (op.onValues a)

/-- Whether an operator may leave out its right operand. -/
def BinaryOp.isLazy (op : BinaryOp) : Bool := op == .logicAnd || op == .logicOr

theorem BinaryOp.apply_eq_bind {op : BinaryOp} (hOp : op.isLazy = false) (a : Value)
    (b : Option Value) : op.apply a b = b.bind (op.onValues a) := by
  cases op with
  | logicAnd | logicOr => cases hOp
  | _ => rfl

mutual

/-- The value of an expression, if it has one. -/
def Expr.eval (symbols : SymbolTable) : Expr → Option Value
  | ⟨kind, _⟩ => kind.eval symbols

/-- The value of a form of expression, if it has one. -/
def ExprKind.eval (symbols : SymbolTable) : ExprKind → Option Value
  | .literal value => some (.ofLiteral value)
  | .ident name => symbols.value? name
  | .paren inner => inner.eval symbols
  | .unary op operand => (operand.eval symbols).bind op.onValue
  | .binary op lhs rhs => (lhs.eval symbols).bind fun a => op.apply a (rhs.eval symbols)
  | .conditional condition thenExpr elseExpr =>
      (condition.eval symbols).bind fun c =>
        if c.isTrue then thenExpr.eval symbols else elseExpr.eval symbols
  | .cast _ operand => operand.eval symbols
  | .sizeOfType _ => none
  | .verbatim _ => none

end

namespace Expr

variable (symbols : SymbolTable)

@[simp] theorem eval_ofKind (kind : ExprKind) : (ofKind kind).eval symbols = kind.eval symbols := rfl

@[simp] theorem eval_paren (inner : Expr) : (paren inner).eval symbols = inner.eval symbols := rfl

@[simp] theorem eval_unary (op : UnaryOp) (operand : Expr) :
    (unary op operand).eval symbols = (operand.eval symbols).bind op.onValue := rfl

@[simp] theorem eval_binary (op : BinaryOp) (lhs rhs : Expr) :
    (binary op lhs rhs).eval symbols =
      (lhs.eval symbols).bind fun a => op.apply a (rhs.eval symbols) := rfl

end Expr

/-- A binary operator on two operands that count as integers. -/
theorem BinaryOp.eval_of_int? (op : BinaryOp) (hOp : op.isLazy = false) {symbols : SymbolTable}
    {lhs rhs : Expr} {a b : Value} {l r : Int64} (hLhs : lhs.eval symbols = some a)
    (hLeft : a.int? = some l) (hRhs : rhs.eval symbols = some b) (hRight : b.int? = some r) :
    (Expr.binary op lhs rhs).eval symbols = (op.onInts l r).map .int := by
  rw [Expr.eval_binary, hLhs, Option.bind_some, apply_eq_bind hOp, hRhs, Option.bind_some,
    onValues_of_int? hLeft hRight]

end CDecl
