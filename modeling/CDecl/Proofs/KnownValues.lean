import Mathlib
import CDecl.Constant.Eval

/-!
# What is known stays known

An expression may have a value although one of its parts has none: `&&`, `||` and `?:` leave out what
they do not need.  Learning the value of a further name gives values to parts that had none, but it does
not change the value of an expression that has one (`Expr.eval_of_knownIn`).  The reason is that an
operator which did without its right operand does not look at it when it has a value
(`BinaryOp.apply_of_none`).

Nor does the value of an expression depend on the table once its names have been replaced by the
literals of their values (`Expr.eval_resolved`).  The main statement, `known_value_stays`, puts both
together.
-/

namespace CDecl

/-- Whether every name with a value has the same value in another table. -/
def SymbolTable.KnownIn (t t' : SymbolTable) : Prop :=
  ∀ name v, t.value? name = some v → t'.value? name = some v

/-- Nothing is lost when a name without a value is recorded. -/
theorem SymbolTable.knownIn_insert {t : SymbolTable} {name : String} (hNone : t.value? name = none)
    (value : Option Value) : t.KnownIn (t.insert name value) := by
  intro other v hValue
  have hOther : other ≠ name := by
    rintro rfl
    rw [hNone] at hValue
    cases hValue
  rw [value?, Table.find?_insert, if_neg hOther]
  exact hValue

/-! ### Values that do not change -/

/-- What an operator gives without a right operand, it gives with any. -/
theorem BinaryOp.apply_of_none {op : BinaryOp} {a v : Value} (hValue : op.apply a none = some v)
    (b : Option Value) : op.apply a b = some v := by
  cases op with
  | logicAnd =>
      by_cases hTrue : a.isTrue
      · simp [apply, hTrue] at hValue
      · simpa [apply, hTrue] using hValue
  | logicOr =>
      by_cases hTrue : a.isTrue
      · simpa [apply, hTrue] using hValue
      · simp [apply, hTrue] at hValue
  -- All other operators need both operands.
  | _ => simp [apply] at hValue

/-- An operator keeps its value when its right operand keeps its own or gets one. -/
theorem BinaryOp.apply_of_known {op : BinaryOp} {a v : Value} {b b' : Option Value}
    (hKnown : ∀ w, b = some w → b' = some w) (hValue : op.apply a b = some v) :
    op.apply a b' = some v := by
  cases b with
  | none => exact apply_of_none hValue b'
  | some w => rw [hKnown w rfl, hValue]

mutual

/-- A value is kept where more is known. -/
theorem Expr.eval_of_knownIn {t t' : SymbolTable} (hKnown : t.KnownIn t') :
    ∀ (e : Expr) {v : Value}, e.eval t = some v → e.eval t' = some v
  | ⟨kind, _⟩, v, hValue => by
      rw [Expr.eval] at hValue ⊢
      exact kind.eval_of_knownIn hKnown hValue

theorem ExprKind.eval_of_knownIn {t t' : SymbolTable} (hKnown : t.KnownIn t') :
    ∀ (kind : ExprKind) {v : Value}, kind.eval t = some v → kind.eval t' = some v
  | .literal value, v, hValue => hValue
  | .ident name, v, hValue => by
      rw [ExprKind.eval] at hValue ⊢
      exact hKnown name v hValue
  | .paren inner, v, hValue => by
      rw [ExprKind.eval] at hValue ⊢
      exact inner.eval_of_knownIn hKnown hValue
  | .unary op operand, v, hValue => by
      rw [ExprKind.eval] at hValue ⊢
      obtain ⟨a, hOperand, hValue⟩ := Option.bind_eq_some_iff.mp hValue
      rw [operand.eval_of_knownIn hKnown hOperand, Option.bind_some, hValue]
  | .binary op lhs rhs, v, hValue => by
      rw [ExprKind.eval] at hValue ⊢
      obtain ⟨a, hLhs, hValue⟩ := Option.bind_eq_some_iff.mp hValue
      rw [lhs.eval_of_knownIn hKnown hLhs, Option.bind_some]
      exact BinaryOp.apply_of_known (fun _ hRhs => rhs.eval_of_knownIn hKnown hRhs) hValue
  | .conditional condition thenExpr elseExpr, v, hValue => by
      rw [ExprKind.eval] at hValue ⊢
      obtain ⟨c, hCondition, hValue⟩ := Option.bind_eq_some_iff.mp hValue
      rw [condition.eval_of_knownIn hKnown hCondition, Option.bind_some]
      by_cases hTrue : c.isTrue
      · rw [if_pos hTrue] at hValue ⊢
        exact thenExpr.eval_of_knownIn hKnown hValue
      · rw [if_neg hTrue] at hValue ⊢
        exact elseExpr.eval_of_knownIn hKnown hValue
  | .cast typeName operand, v, hValue => by
      rw [ExprKind.eval] at hValue ⊢
      exact operand.eval_of_knownIn hKnown hValue
  | .sizeOfType _, v, hValue => hValue
  | .verbatim _, v, hValue => hValue

end

/-! ### Values in place of names -/

/-- The literal of a value. -/
def Value.literal : Value → Literal
  | .int n => .int n
  | .float x => .float x
  | .char c => .char c
  | .str s => .str s

@[simp] theorem Value.ofLiteral_literal (v : Value) : ofLiteral v.literal = v := by
  cases v <;> rfl

mutual

/-- The expression with the names that have a value replaced by its literal. -/
def Expr.resolved (t : SymbolTable) : Expr → Expr
  | ⟨kind, span⟩ => ⟨kind.resolved t, span⟩

/-- A form of expression with the names that have a value replaced by its literal. -/
def ExprKind.resolved (t : SymbolTable) : ExprKind → ExprKind
  | .literal value => .literal value
  | .ident name =>
      match t.value? name with
      | some v => .literal v.literal
      | none => .ident name
  | .paren inner => .paren (inner.resolved t)
  | .unary op operand => .unary op (operand.resolved t)
  | .binary op lhs rhs => .binary op (lhs.resolved t) (rhs.resolved t)
  | .conditional condition thenExpr elseExpr =>
      .conditional (condition.resolved t) (thenExpr.resolved t) (elseExpr.resolved t)
  | .cast typeName operand => .cast typeName (operand.resolved t)
  | .sizeOfType typeName => .sizeOfType typeName
  | .verbatim text => .verbatim text

end

mutual

/-- What a table says about an expression is in the expression once its names are replaced. -/
theorem Expr.eval_resolved (t : SymbolTable) : ∀ e : Expr, (e.resolved t).eval .empty = e.eval t
  | ⟨kind, _⟩ => by
      rw [Expr.resolved, Expr.eval, Expr.eval]
      exact kind.eval_resolved t

theorem ExprKind.eval_resolved (t : SymbolTable) : ∀ kind : ExprKind,
    (kind.resolved t).eval .empty = kind.eval t
  | .literal value => rfl
  | .ident name => by
      rw [ExprKind.resolved, ExprKind.eval]
      cases hValue : t.value? name with
      | none => rfl
      | some v => exact congrArg some v.ofLiteral_literal
  | .paren inner => by
      rw [ExprKind.resolved, ExprKind.eval, ExprKind.eval]
      exact inner.eval_resolved t
  | .unary op operand => by
      rw [ExprKind.resolved, ExprKind.eval, ExprKind.eval, operand.eval_resolved t]
  | .binary op lhs rhs => by
      rw [ExprKind.resolved, ExprKind.eval, ExprKind.eval, lhs.eval_resolved t, rhs.eval_resolved t]
  | .conditional condition thenExpr elseExpr => by
      rw [ExprKind.resolved, ExprKind.eval, ExprKind.eval, condition.eval_resolved t,
        thenExpr.eval_resolved t, elseExpr.eval_resolved t]
  | .cast typeName operand => by
      rw [ExprKind.resolved, ExprKind.eval, ExprKind.eval]
      exact operand.eval_resolved t
  | .sizeOfType _ => rfl
  | .verbatim _ => rfl

end

/-- **Known values stay.**  Let every name with a value in one table have the same value in another one.
An expression with a value in the first table has the same value in the second one.  In both tables its
value, or that it has none, is that of the expression with all known names replaced by the literals of
their values, in the table without entries. -/
theorem known_value_stays {t t' : SymbolTable} (hKnown : t.KnownIn t') (e : Expr) :
    (∀ v, e.eval t = some v → e.eval t' = some v) ∧
      e.eval t = (e.resolved t).eval .empty ∧ e.eval t' = (e.resolved t').eval .empty :=
  ⟨fun _ => e.eval_of_knownIn hKnown, (e.eval_resolved t).symm, (e.eval_resolved t').symm⟩

/-- The expression `x && y ? z : (x || 'A') - 3`. -/
def Expr.partlyKnown : Expr :=
  .ofKind (.conditional (.binary .logicAnd (.ident "x") (.ident "y")) (.ident "z")
    (.binary .sub (.paren (.binary .logicOr (.ident "x") (.ofKind (.literal (.char 'A'))))) (.int 3)))

/-- A table with zero for `x`, and `y` without a value. -/
def SymbolTable.zeroKnown : SymbolTable :=
  (Table.empty.insert "x" (some (.int 0))).insert "y" none

/-- The same table with a text for `y`. -/
def SymbolTable.textKnown : SymbolTable := SymbolTable.zeroKnown.insert "y" (some (.str "s"))

/-- Nothing depends on `y` and `z`, so a text for `y` changes nothing. -/
theorem partlyKnown_stays :
    SymbolTable.zeroKnown.KnownIn .textKnown ∧
    Expr.partlyKnown.eval .zeroKnown = some (.int (-2)) ∧
    Expr.partlyKnown.eval .textKnown = some (.int (-2)) ∧
    (Expr.partlyKnown.resolved .zeroKnown).eval .empty = some (.int (-2)) := by
  have hKnown : SymbolTable.zeroKnown.KnownIn .textKnown :=
    SymbolTable.knownIn_insert (by cbv) _
  have hValue : Expr.partlyKnown.eval .zeroKnown = some (.int (-2)) := by cbv
  obtain ⟨hStays, hResolved, -⟩ := known_value_stays hKnown .partlyKnown
  exact ⟨hKnown, hValue, hStays _ hValue, hResolved.symm.trans hValue⟩

end CDecl
