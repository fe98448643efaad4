import CDecl.Constant.Eval
import CDecl.Proofs.Words

/-!
# Folding integers wraps once

Sums, differences, products, bit operators and shifts to the left can be computed over the unbounded
integers, with bit operators on infinite two's complement (`Expr.integerValue?`).  Words of 64 bits
wrap around at each of these operators, and they shift by an amount that may itself have wrapped.
Nothing of this is seen in the end: the value of an expression that is built by these operators is the
word that its exact value wraps to (`folding_wraps_once`), however far its parts overflow.

Quotients, shifts to the right, comparisons and `!` are left out.  They look at the integer that a word
shows, so it does matter to them whether an operand has wrapped.
-/

namespace CDecl

/-! ### Operators on unbounded integers -/

/-- What a unary operator does to unbounded integers, if it fits wrapping around. -/
def UnaryOp.onIntegers? : UnaryOp → Option (Int → Int)
  | .plus => some fun n => n
  | .minus => some fun n => -n
  | .bitNot => some Int.lnot
  | .logicNot => none

/-- What a binary operator does to unbounded integers, if it fits wrapping around.  A shift takes its
amount modulo the width of a word. -/
def BinaryOp.onIntegers? : BinaryOp → Option (Int → Int → Int)
  | .add => some fun m n => m + n
  | .sub => some fun m n => m - n
  | .mul => some fun m n => m * n
  | .bitAnd => some Int.land
  | .bitXor => some Int.xor
  | .bitOr => some Int.lor
  | .shiftLeft => some fun m n => m * 2 ^ (n % 64).toNat
  | _ => none

/-- A unary operator takes the word of an integer to the word of the result. -/
theorem UnaryOp.onInt_ofInt {op : UnaryOp} {f : Int → Int} (hOp : op.onIntegers? = some f) (n : Int) :
    op.onInt (.ofInt n) = .ofInt (f n) := by
  cases op with
  | logicNot => cases hOp
  | plus =>
      cases hOp
      rfl
  | minus =>
      cases hOp
      exact (Int64.ofInt_neg n).symm
  | bitNot =>
      cases hOp
      exact (Word.ofInt_lnot n).symm

/-- A binary operator takes the words of two integers to the word of the result. -/
theorem BinaryOp.onInts_ofInt {op : BinaryOp} {f : Int → Int → Int}
    (hOp : op.onIntegers? = some f) (m n : Int) :
    op.onInts (.ofInt m) (.ofInt n) = some (.ofInt (f m n)) := by
  cases op <;> cases hOp
  case add => exact congrArg some (Int64.ofInt_add m n).symm
  case sub => exact congrArg some (Int64.ofInt_sub m n).symm
  case mul => exact congrArg some (Int64.ofInt_mul m n).symm
  case bitAnd => exact congrArg some (Word.ofInt_land m n).symm
  case bitXor => exact congrArg some (Word.ofInt_xor m n).symm
  case bitOr => exact congrArg some (Word.ofInt_lor m n).symm
  case shiftLeft => exact congrArg some (Word.ofInt_shiftLeft m n).symm

theorem BinaryOp.isLazy_of_onIntegers? {op : BinaryOp} {f : Int → Int → Int}
    (hOp : op.onIntegers? = some f) : op.isLazy = false := by
  cases op with
  | logicAnd | logicOr => cases hOp
  | _ => rfl

/-! ### Exact values -/

/-- The integer that a value shows; characters show their code points. -/
def Value.integer? : Value → Option Int
  | .int n => some n.toInt
  | .char c => some c.toNat
  | .float _ | .str _ => none

mutual

/-- Whether an expression is built from integers, characters and names of such values by parentheses,
casts and operators that fit wrapping around. -/
def Expr.isIntegral (symbols : SymbolTable) : Expr → Bool
  | ⟨kind, _⟩ => kind.isIntegral symbols

/-- Whether a form of expression is built in this way. -/
def ExprKind.isIntegral (symbols : SymbolTable) : ExprKind → Bool
  | .literal value => (Value.ofLiteral value).integer?.isSome
  | .ident name => ((symbols.value? name).bind Value.integer?).isSome
  | .paren inner => inner.isIntegral symbols
  | .unary op operand => op.onIntegers?.isSome && operand.isIntegral symbols
  | .binary op lhs rhs =>
      op.onIntegers?.isSome && lhs.isIntegral symbols && rhs.isIntegral symbols
  | .cast _ operand => operand.isIntegral symbols
  | .conditional _ _ _ | .sizeOfType _ | .verbatim _ => false

end

mutual

/-- The value of an expression over the unbounded integers. -/
def Expr.integerValue? (symbols : SymbolTable) : Expr → Option Int
  | ⟨kind, _⟩ => kind.integerValue? symbols

/-- The value of a form of expression over the unbounded integers. -/
def ExprKind.integerValue? (symbols : SymbolTable) : ExprKind → Option Int
  | .literal value => (Value.ofLiteral value).integer?
  | .ident name => (symbols.value? name).bind Value.integer?
  | .paren inner => inner.integerValue? symbols
  | .unary op operand => op.onIntegers?.bind fun f => (operand.integerValue? symbols).map f
  | .binary op lhs rhs =>
      op.onIntegers?.bind fun f =>
        (lhs.integerValue? symbols).bind fun m => (rhs.integerValue? symbols).map (f m)
  | .cast _ operand => operand.integerValue? symbols
  | .conditional _ _ _ | .sizeOfType _ | .verbatim _ => none

end

/-! ### Wrapping at each step -/

/-- Both evaluations give a value, and the one over words is what the exact one wraps to. -/
def WrapsTo (exact : Option Int) (folded : Option Value) : Prop :=
  ∃ n v, exact = some n ∧ folded = some v ∧ v.int? = some (.ofInt n)

namespace WrapsTo

theorem value {v : Value} (hValue : v.integer?.isSome) : WrapsTo v.integer? (some v) := by
  cases v with
  | int n => exact ⟨n.toInt, _, rfl, rfl, congrArg some (Int64.ofInt_toInt n).symm⟩
  | char c => exact ⟨c.toNat, _, rfl, rfl, congrArg some Int64.ofInt_eq_ofNat.symm⟩
  | float x => cases hValue
  | str s => cases hValue

theorem unary {op : UnaryOp} {exact : Option Int} {folded : Option Value}
    (hOp : op.onIntegers?.isSome) (hOperand : WrapsTo exact folded) :
    WrapsTo (op.onIntegers?.bind fun f => exact.map f) (folded.bind op.onValue) := by
  obtain ⟨f, hOp⟩ := Option.isSome_iff_exists.mp hOp
  obtain ⟨n, v, rfl, rfl, hInt⟩ := hOperand
  refine ⟨f n, .int (.ofInt (f n)), by rw [hOp]; rfl, ?_, rfl⟩
  rw [Option.bind_some, UnaryOp.onValue_of_int? hInt, UnaryOp.onInt_ofInt hOp]

theorem binary {op : BinaryOp} {exact exact' : Option Int} {folded folded' : Option Value}
    (hOp : op.onIntegers?.isSome) (hLhs : WrapsTo exact folded) (hRhs : WrapsTo exact' folded') :
    WrapsTo (op.onIntegers?.bind fun f => exact.bind fun m => exact'.map (f m))
      (folded.bind fun a => op.apply a folded') := by
  obtain ⟨f, hOp⟩ := Option.isSome_iff_exists.mp hOp
  obtain ⟨m, a, rfl, rfl, hLeft⟩ := hLhs
  obtain ⟨n, b, rfl, rfl, hRight⟩ := hRhs
  refine ⟨f m n, .int (.ofInt (f m n)), by rw [hOp]; rfl, ?_, rfl⟩
  rw [Option.bind_some, BinaryOp.apply_eq_bind (BinaryOp.isLazy_of_onIntegers? hOp),
    Option.bind_some, BinaryOp.onValues_of_int? hLeft hRight, BinaryOp.onInts_ofInt hOp,
    Option.map_some]

end WrapsTo

mutual

/-- The exact value of an expression wraps to its value, which has wrapped at each operator. -/
theorem Expr.eval_wrapsTo {symbols : SymbolTable} : ∀ e : Expr, e.isIntegral symbols = true →
    WrapsTo (e.integerValue? symbols) (e.eval symbols)
  | ⟨kind, _⟩, hIntegral => by
      rw [Expr.isIntegral] at hIntegral
      rw [Expr.integerValue?, Expr.eval]
      exact kind.eval_wrapsTo hIntegral

theorem ExprKind.eval_wrapsTo {symbols : SymbolTable} : ∀ kind : ExprKind,
    kind.isIntegral symbols = true → WrapsTo (kind.integerValue? symbols) (kind.eval symbols)
  | .literal value, hIntegral => by
      rw [ExprKind.isIntegral] at hIntegral
      rw [ExprKind.integerValue?, ExprKind.eval]
      exact .value hIntegral
  | .ident name, hIntegral => by
      rw [ExprKind.isIntegral] at hIntegral
      rw [ExprKind.integerValue?, ExprKind.eval]
      cases hValue : symbols.value? name with
      | none =>
          rw [hValue] at hIntegral
          cases hIntegral
      | some v =>
          rw [hValue] at hIntegral
          exact .value hIntegral
  | .paren inner, hIntegral => by
      rw [ExprKind.isIntegral] at hIntegral
      rw [ExprKind.integerValue?, ExprKind.eval]
      exact inner.eval_wrapsTo hIntegral
  | .unary op operand, hIntegral => by
      rw [ExprKind.isIntegral, Bool.and_eq_true] at hIntegral
      rw [ExprKind.integerValue?, ExprKind.eval]
      exact .unary hIntegral.1 (operand.eval_wrapsTo hIntegral.2)
  | .binary op lhs rhs, hIntegral => by
      rw [ExprKind.isIntegral, Bool.and_eq_true, Bool.and_eq_true] at hIntegral
      obtain ⟨⟨hOp, hLhs⟩, hRhs⟩ := hIntegral
      rw [ExprKind.integerValue?, ExprKind.eval]
      exact .binary hOp (lhs.eval_wrapsTo hLhs) (rhs.eval_wrapsTo hRhs)
  | .cast typeName operand, hIntegral => by
      rw [ExprKind.isIntegral] at hIntegral
      rw [ExprKind.integerValue?, ExprKind.eval]
      exact operand.eval_wrapsTo hIntegral

end

/-- **Folding wraps once.**  An expression that is built from integers, characters and names of such
values by parentheses, casts, unary `+`, `-`, `~` and binary `+`, `-`, `*`, `&`, `|`, `^`, `<<` has an
exact value and a value.  As an integer the value is the one word that is congruent to the exact value
modulo `2 ^ 64`: it is the exact value wrapped once, at the end. -/
theorem folding_wraps_once (symbols : SymbolTable) (e : Expr)
    (hIntegral : e.isIntegral symbols = true) :
    ∃ n v, e.integerValue? symbols = some n ∧ e.eval symbols = some v ∧ v.int? = some (.ofInt n) ∧
      ∀ w : Int64, v.int? = some w ↔ w.toInt ≡ n [ZMOD 2 ^ 64] := by
  obtain ⟨n, v, hExact, hEval, hInt⟩ := e.eval_wrapsTo hIntegral
  refine ⟨n, v, hExact, hEval, hInt, fun w => ?_⟩
  rw [hInt, Option.some_inj, eq_comm]
  exact Word.eq_ofInt_iff

/-- The expression `~(x * x + 'A') << (1 - c) ^ (long) -x`. -/
def Expr.overflowing : Expr :=
  .binary .bitXor
    (.binary .shiftLeft
      (.unary .bitNot (.paren (.binary .add (.binary .mul (.ident "x") (.ident "x"))
        (.ofKind (.literal (.char 'A'))))))
      (.paren (.binary .sub (.int 1) (.ident "c"))))
    (.ofKind (.cast "long" (.unary .minus (.ident "x"))))

/-- The greatest word for `x`, and a letter for `c`. -/
def SymbolTable.greatest : SymbolTable :=
  (Table.empty.insert "x" (some (.int Int64.maxValue))).insert "c" (some (.char 'é'))

/-- The product overflows, the amount of the shift is `1 - 233`, and the exact value is far out of
range.  Wrapped once it is the value. -/
theorem overflowing_wraps :
    Expr.overflowing.isIntegral .greatest = true ∧
    Expr.overflowing.integerValue? .greatest = some 1427247692705959880748800968851522103388667905 ∧
    Expr.overflowing.eval .greatest = some (.int 9223372035730702337) ∧
    9223372035730702337 ≡ 1427247692705959880748800968851522103388667905 [ZMOD 2 ^ 64] := by
  have hIntegral : Expr.overflowing.isIntegral .greatest = true := by cbv
  have hExact : Expr.overflowing.integerValue? .greatest =
      some 1427247692705959880748800968851522103388667905 := by cbv
  have hEval : Expr.overflowing.eval .greatest = some (.int 9223372035730702337) := by cbv
  obtain ⟨n, v, hExact', hEval', -, hUnique⟩ :=
    folding_wraps_once .greatest .overflowing hIntegral
  obtain rfl := Option.some.inj (hExact.symm.trans hExact')
  obtain rfl := Option.some.inj (hEval.symm.trans hEval')
  exact ⟨hIntegral, hExact, hEval, (hUnique 9223372035730702337).mp rfl⟩

end CDecl
