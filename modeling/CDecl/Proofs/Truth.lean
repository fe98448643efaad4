import CDecl.Constant.Eval

/-!
# Negation and truth

`&&`, `||` and `?:` ask whether a value is true.  A number or a character is true unless it is zero,
and a text is true.  `!` agrees with them on numbers and characters, but it has no value for a text
(`UnaryOp.onValue_logicNot`), so that a text counts as true and cannot be negated.

The main statement, `negation_laws`, says what follows for the laws that lead `!` past the other logical
operators.  They hold for operands of all kinds, and for operands without a value, unless a text is
reached; `negated_text_differs` has a text for which all of them fail.
-/

namespace CDecl

/-! ### One value -/

namespace Value

/-- Whether a value is a text. -/
def isText : Value → Bool
  | .str _ => true
  | .int _ | .float _ | .char _ => false

/-- The value that is true exactly if a value is false; texts have none. -/
def negated? (v : Value) : Option Value :=
  if v.isText then none else some (.ofBool !v.isTrue)

theorem negated?_of_isText {v : Value} (hText : v.isText = true) : v.negated? = none := if_pos hText

theorem negated?_of_not_isText {v : Value} (hText : v.isText = false) :
    v.negated? = some (.ofBool !v.isTrue) := by
  rw [negated?, hText, if_neg Bool.false_ne_true]

@[simp] theorem isText_ofBool (b : Bool) : (ofBool b).isText = false := rfl

@[simp] theorem isTrue_ofBool (b : Bool) : (ofBool b).isTrue = b := by
  cases b <;> rfl

@[simp] theorem negated?_ofBool (b : Bool) : (ofBool b).negated? = some (.ofBool !b) := by
  rw [negated?_of_not_isText (isText_ofBool b), isTrue_ofBool]

/-- What counts as an integer is true unless it is zero, and is no text. -/
theorem truth_of_int? {v : Value} {n : Int64} (hInt : v.int? = some n) :
    v.isText = false ∧ v.isTrue = (n != 0) := by
  cases v with
  | int m =>
      cases hInt
      exact ⟨rfl, rfl⟩
  | char c =>
      cases hInt
      exact ⟨rfl, rfl⟩
  | float x => cases hInt
  | str s => cases hInt

/-- Texts are true, and all other values are true or false. -/
theorem truth_cases (v : Value) :
    (v.isText = true ∧ v.isTrue = true) ∨ (v.isText = false ∧ v.isTrue = true) ∨
      (v.isText = false ∧ v.isTrue = false) := by
  cases hText : v.isText with
  | true =>
      cases v with
      | str s => exact .inl ⟨rfl, rfl⟩
      | int n | float x | char c => cases hText
  | false =>
      right
      cases v.isTrue
      · exact .inr ⟨rfl, rfl⟩
      · exact .inl ⟨rfl, rfl⟩

end Value

/-- `!` turns the truth of a value around, unless the value is a text. -/
theorem UnaryOp.onValue_logicNot (v : Value) : UnaryOp.logicNot.onValue v = v.negated? := by
  cases hInt : v.int? with
  | some n =>
      obtain ⟨hText, hTrue⟩ := Value.truth_of_int? hInt
      rw [onValue_of_int? hInt, Value.negated?_of_not_isText hText, hTrue]
      by_cases hZero : n = 0 <;> simp [onInt, Value.ofBool, hZero]
  | none =>
      cases v with
      | str s => rfl
      | float x => simp [onValue, onFloat, Value.negated?, Value.isText, Value.isTrue, bne]
      | int n => cases hInt
      | char c => cases hInt

theorem BinaryOp.apply_logicAnd (a : Value) (b : Option Value) :
    BinaryOp.logicAnd.apply a b =
      if a.isTrue then b.map fun v => .ofBool v.isTrue else some (.ofBool false) := rfl

theorem BinaryOp.apply_logicOr (a : Value) (b : Option Value) :
    BinaryOp.logicOr.apply a b =
      if a.isTrue then some (.ofBool true) else b.map fun v => .ofBool v.isTrue := rfl

/-! ### The laws -/

namespace Expr

variable {symbols : SymbolTable}

/-- Whether the value of an expression is a text. -/
def IsText (symbols : SymbolTable) (e : Expr) : Prop :=
  ∃ v, e.eval symbols = some v ∧ v.isText = true

/-- Whether an expression has a value, and one that is true or false as given. -/
def Counts (symbols : SymbolTable) (e : Expr) (b : Bool) : Prop :=
  ∃ v, e.eval symbols = some v ∧ v.isTrue = b

theorem eval_not (e : Expr) :
    (unary .logicNot e).eval symbols = (e.eval symbols).bind Value.negated? := by
  rw [eval_unary, funext UnaryOp.onValue_logicNot]

/-- `!(a && b)` and `!a || !b` differ where `a` is true, `b` has a value and one of them is a text. -/
theorem not_and_eq_iff (a b : Expr) :
    (unary .logicNot (.paren (.binary .logicAnd a b))).eval symbols =
        (binary .logicOr (.unary .logicNot a) (.unary .logicNot b)).eval symbols ↔
      ¬(a.Counts symbols true ∧ (b.eval symbols).isSome ∧ (a.IsText symbols ∨ b.IsText symbols)) := by
  simp only [eval_not, eval_paren, eval_binary, Counts, IsText, BinaryOp.apply_logicAnd,
    BinaryOp.apply_logicOr]
  cases a.eval symbols with
  | none => simp
  | some u =>
      obtain ⟨hText, hTrue⟩ | ⟨hText, hTrue⟩ | ⟨hText, hTrue⟩ := u.truth_cases
      · -- `&&` goes on to `b`, but `!a` has no value.
        cases b.eval symbols <;> simp [Value.negated?_of_isText hText, hText, hTrue]
      · -- Both sides have the value of `!b`.
        cases b.eval symbols with
        | none => simp [Value.negated?_of_not_isText hText, hTrue]
        | some v =>
            cases hText' : v.isText with
            | true => simp [Value.negated?, hText, hTrue, hText']
            | false => simp [Value.negated?, hText, hTrue, hText']
      · -- Both sides leave `b` out.
        simp [Value.negated?_of_not_isText hText, hTrue]

/-- `!(a || b)` and `!a && !b` differ where `a` is a text, or false with a text for `b`. -/
theorem not_or_eq_iff (a b : Expr) :
    (unary .logicNot (.paren (.binary .logicOr a b))).eval symbols =
        (binary .logicAnd (.unary .logicNot a) (.unary .logicNot b)).eval symbols ↔
      ¬(a.IsText symbols ∨ a.Counts symbols false ∧ b.IsText symbols) := by
  simp only [eval_not, eval_paren, eval_binary, Counts, IsText, BinaryOp.apply_logicAnd,
    BinaryOp.apply_logicOr]
  cases a.eval symbols with
  | none => simp
  | some u =>
      obtain ⟨hText, hTrue⟩ | ⟨hText, hTrue⟩ | ⟨hText, hTrue⟩ := u.truth_cases
      · -- `||` leaves `b` out, but `!a` has no value.
        simp [Value.negated?_of_isText hText, hText, hTrue]
      · -- Both sides leave `b` out.
        simp [Value.negated?_of_not_isText hText, hText, hTrue]
      · -- Both sides have the value of `!b`.
        cases b.eval symbols with
        | none => simp [Value.negated?_of_not_isText hText, hText, hTrue]
        | some v =>
            cases hText' : v.isText with
            | true => simp [Value.negated?, hText, hTrue, hText']
            | false => simp [Value.negated?, hText, hTrue, hText']

/-- `!c ? x : y` and `c ? y : x` differ where `c` is a text and `y` has a value. -/
theorem not_conditional_eq_iff (c x y : Expr) :
    (ofKind (.conditional (.unary .logicNot c) x y)).eval symbols =
        (ofKind (.conditional c y x)).eval symbols ↔
      ¬(c.IsText symbols ∧ (y.eval symbols).isSome) := by
  simp only [eval_ofKind, ExprKind.eval, eval_not, IsText]
  cases c.eval symbols with
  | none => simp
  | some u =>
      obtain ⟨hText, hTrue⟩ | ⟨hText, hTrue⟩ | ⟨hText, hTrue⟩ := u.truth_cases
      · -- `c` alone chooses `y`.
        cases y.eval symbols <;> simp [Value.negated?_of_isText hText, hText, hTrue]
      · simp [Value.negated?_of_not_isText hText, hText, hTrue]
      · simp [Value.negated?_of_not_isText hText, hText, hTrue]

end Expr

/-- **Laws of negation.**  Whatever the values of the operands are, and also where they have none,
`!(a && b)` and `!a || !b` have the same result, `!(a || b)` and `!a && !b` have the same result, and
`!c ? x : y` and `c ? y : x` have the same result, unless a text is reached.  For the first law this is
where `a` is true, `b` has a value and one of them is a text; for the second one where `a` is a text, or
is false with a text for `b`; and for the third one where `c` is a text and `y` has a value.  There the
results do differ. -/
theorem negation_laws (symbols : SymbolTable) (a b c x y : Expr) :
    ((Expr.unary .logicNot (.paren (.binary .logicAnd a b))).eval symbols =
        (Expr.binary .logicOr (.unary .logicNot a) (.unary .logicNot b)).eval symbols ↔
      ¬(a.Counts symbols true ∧ (b.eval symbols).isSome ∧ (a.IsText symbols ∨ b.IsText symbols))) ∧
    ((Expr.unary .logicNot (.paren (.binary .logicOr a b))).eval symbols =
        (Expr.binary .logicAnd (.unary .logicNot a) (.unary .logicNot b)).eval symbols ↔
      ¬(a.IsText symbols ∨ a.Counts symbols false ∧ b.IsText symbols)) ∧
    ((Expr.ofKind (.conditional (.unary .logicNot c) x y)).eval symbols =
        (Expr.ofKind (.conditional c y x)).eval symbols ↔
      ¬(c.IsText symbols ∧ (y.eval symbols).isSome)) :=
  ⟨a.not_and_eq_iff b, a.not_or_eq_iff b, c.not_conditional_eq_iff x y⟩

/-- With the text `"s"` for `a` and `c`, and `1` and `2` for the other operands, one side of each law has
a value and the other one has none. -/
theorem negated_text_differs :
    (Expr.unary .logicNot (.paren (.binary .logicAnd (.string "s") (.int 1)))).eval .empty =
        some (.int 0) ∧
      (Expr.binary .logicOr (.unary .logicNot (.string "s")) (.unary .logicNot (.int 1))).eval .empty =
        none ∧
      (Expr.unary .logicNot (.paren (.binary .logicOr (.string "s") (.int 1)))).eval .empty =
        some (.int 0) ∧
      (Expr.binary .logicAnd (.unary .logicNot (.string "s")) (.unary .logicNot (.int 1))).eval .empty =
        none ∧
      (Expr.ofKind (.conditional (.string "s") (.int 2) (.int 1))).eval .empty = some (.int 2) ∧
      (Expr.ofKind (.conditional (.unary .logicNot (.string "s")) (.int 1) (.int 2))).eval .empty =
        none := by
  refine ⟨?_, ?_, ?_, ?_, ?_, ?_⟩ <;> rfl

end CDecl
