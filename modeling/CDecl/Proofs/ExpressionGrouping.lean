import CDecl.Constant.Eval
import CDecl.Proofs.ExpressionLexemes

/-!
# The grouping of expressions

The text of an expression shows the parentheses that its tree has.  Where the tree has them at every
operand that does not bind tightly enough for its place in C (`Expr.Grouped`), the text tells the tree:
at the outermost level of parentheses and conditionals, every operator binds at least as tightly as the
one at the root, and more tightly to the right of it (`Expr.Grouped.level_le`).

Other trees are written like a grouped one (`Expr.Plain.exists_grouped`), which is what C reads in their
text and which may have another value (`sameText_values`).  Two signs that are operators in front of one
operand are read one by one here, where C would take `--` for a single sign.
-/

namespace CDecl

/-! ### Grouped expressions -/

/-- How tightly an operator binds its operands. -/
def BinaryOp.precedence : BinaryOp → Nat
  | .mul | .div | .mod => 10
  | .add | .sub => 9
  | .shiftLeft | .shiftRight => 8
  | .less | .lessEqual | .greater | .greaterEqual => 7
  | .equal | .notEqual => 6
  | .bitAnd => 5
  | .bitXor => 4
  | .bitOr => 3
  | .logicAnd => 2
  | .logicOr => 1

theorem BinaryOp.precedence_bounds (op : BinaryOp) : 1 ≤ op.precedence ∧ op.precedence ≤ 10 := by
  cases op <;> decide

/-- How tightly the outermost form of an expression binds. -/
def Expr.level (e : Expr) : Nat :=
  match e.kind with
  | .conditional _ _ _ => 0
  | .binary op _ _ => op.precedence
  | .unary _ _ => 11
  | _ => 12

namespace Expr

variable (span : Span)

@[simp] theorem level_literal (value : Literal) : level ⟨.literal value, span⟩ = 12 := rfl

@[simp] theorem level_ident (name : String) : level ⟨.ident name, span⟩ = 12 := rfl

@[simp] theorem level_paren (inner : Expr) : level ⟨.paren inner, span⟩ = 12 := rfl

@[simp] theorem level_unary (op : UnaryOp) (operand : Expr) : level ⟨.unary op operand, span⟩ = 11 := rfl

@[simp] theorem level_binary (op : BinaryOp) (lhs rhs : Expr) :
    level ⟨.binary op lhs rhs, span⟩ = op.precedence := rfl

@[simp] theorem level_conditional (condition thenExpr elseExpr : Expr) :
    level ⟨.conditional condition thenExpr elseExpr, span⟩ = 0 := rfl

end Expr

/-- Plain expressions in which every operand binds tightly enough for its place.  Operators of one
precedence group to the left, and conditionals to the right. -/
inductive Expr.Grouped : Expr → Prop
  | int {n : Int64} (span : Span) (hNonneg : 0 ≤ n.toInt) : Grouped ⟨.literal (.int n), span⟩
  | ident {name : String} (span : Span) (hName : IsIdentifier name) : Grouped ⟨.ident name, span⟩
  | paren {inner : Expr} (span : Span) (hInner : Grouped inner) : Grouped ⟨.paren inner, span⟩
  | unary (op : UnaryOp) {operand : Expr} (span : Span) (hOperand : Grouped operand)
      (hLevel : 11 ≤ operand.level) : Grouped ⟨.unary op operand, span⟩
  | binary (op : BinaryOp) {lhs rhs : Expr} (span : Span) (hLhs : Grouped lhs) (hRhs : Grouped rhs)
      (hLeft : op.precedence ≤ lhs.level) (hRight : op.precedence < rhs.level) :
      Grouped ⟨.binary op lhs rhs, span⟩
  | conditional {condition thenExpr elseExpr : Expr} (span : Span) (hCondition : Grouped condition)
      (hThen : Grouped thenExpr) (hElse : Grouped elseExpr) (hLevel : 1 ≤ condition.level) :
      Grouped ⟨.conditional condition thenExpr elseExpr, span⟩

theorem Expr.Grouped.plain {e : Expr} (h : e.Grouped) : e.Plain := by
  induction h with
  | int span hNonneg => exact .int span hNonneg
  | ident span hName => exact .ident span hName
  | paren span _ ih => exact .paren span ih
  | unary op span _ _ ih => exact .unary op span ih
  | binary op span _ _ _ _ ihLhs ihRhs => exact .binary op span ihLhs ihRhs
  | conditional span _ _ _ _ ihCondition ihThen ihElse =>
      exact .conditional span ihCondition ihThen ihElse

/-! ### Depth -/

/-- Parentheses go down a level and up again, and so do the signs of a conditional. -/
def Lexeme.step : Lexeme → Int
  | .opening | .between .question => 1
  | .closing | .between .colon => -1
  | _ => 0

namespace Lexeme

@[simp] theorem step_leading (op : UnaryOp) : (leading op).step = 0 := rfl

@[simp] theorem step_operator (op : BinaryOp) : (between (.operator op)).step = 0 := rfl

@[simp] theorem step_opening : opening.step = 1 := rfl

@[simp] theorem step_colon : (between .colon).step = -1 := rfl

end Lexeme

/-- How deep lexemes lead. -/
def depth (lexemes : List Lexeme) : Int := (lexemes.map Lexeme.step).sum

@[simp] theorem depth_nil : depth [] = 0 := rfl

@[simp] theorem depth_cons (t : Lexeme) (rest : List Lexeme) :
    depth (t :: rest) = t.step + depth rest := by
  simp [depth]

@[simp] theorem depth_append (first second : List Lexeme) :
    depth (first ++ second) = depth first + depth second := by
  simp [depth]

/-- Lexemes that lead back to where they start, and never above it. -/
structure Balanced (lexemes : List Lexeme) : Prop where
  total : depth lexemes = 0
  nonneg : ∀ first second, lexemes = first ++ second → 0 ≤ depth first

/-- A list is cut inside its first part or behind it. -/
theorem append_eq_append_cases {α : Type} {a b first second : List α} (h : a ++ b = first ++ second) :
    (∃ rest, a = first ++ rest) ∨ ∃ rest, first = a ++ rest ∧ b = rest ++ second := by
  rcases List.append_eq_append_iff.mp h with ⟨rest, hFirst, hSecond⟩ | ⟨rest, hFirst, -⟩
  · exact .inr ⟨rest, hFirst, hSecond⟩
  · exact .inl ⟨rest, hFirst⟩

/-- An element of two lists behind each other is in the first or in the second. -/
theorem append_eq_append_cons_cases {α : Type} {a b first second : List α} {x : α}
    (h : a ++ b = first ++ x :: second) :
    (∃ rest, a = first ++ x :: rest) ∨ ∃ rest, first = a ++ rest ∧ b = rest ++ x :: second := by
  rcases List.append_eq_append_iff.mp h with ⟨rest, hFirst, hSecond⟩ | ⟨rest, hFirst, hSecond⟩
  · exact .inr ⟨rest, hFirst, hSecond⟩
  · cases rest with
    | nil => exact .inr ⟨[], by simpa using hFirst.symm, by simpa using hSecond.symm⟩
    | cons y rest =>
        obtain ⟨rfl, -⟩ := List.cons.inj hSecond
        exact .inl ⟨rest, hFirst⟩

/-- Where two lists are divided by an element each, they are divided at the same place, or one element is
in a part of the other division. -/
theorem append_cons_cases {α : Type} {a a' b b' : List α} {x x' : α} (h : a ++ x :: b = a' ++ x' :: b') :
    (a = a' ∧ x = x' ∧ b = b') ∨ (∃ c, a' = a ++ x :: c ∧ b = c ++ x' :: b') ∨
      ∃ c, a = a' ++ x' :: c ∧ b' = c ++ x :: b := by
  rcases append_eq_append_cons_cases h with ⟨c, rfl⟩ | ⟨c, rfl, hTail⟩
  · rw [List.append_assoc, List.cons_append] at h
    exact .inr (.inr ⟨c, rfl, (List.cons.inj (List.append_cancel_left h)).2.symm⟩)
  · cases c with
    | nil =>
        obtain ⟨rfl, rfl⟩ := List.cons.inj hTail
        exact .inl ⟨(List.append_nil a).symm, rfl, rfl⟩
    | cons y c =>
        obtain ⟨rfl, hRest⟩ := List.cons.inj hTail
        exact .inr (.inl ⟨c, rfl, hRest⟩)

namespace Balanced

theorem append {first second : List Lexeme} (hFirst : Balanced first) (hSecond : Balanced second) :
    Balanced (first ++ second) := by
  refine ⟨by simp [hFirst.total, hSecond.total], fun start rest h => ?_⟩
  rcases append_eq_append_cases h with ⟨rest', hStart⟩ | ⟨start', rfl, hStart⟩
  · exact hFirst.nonneg start rest' hStart
  · have hNonneg := hSecond.nonneg start' rest hStart
    rw [depth_append, hFirst.total]
    omega

/-- A lexeme in front that stays on its level. -/
theorem cons {t : Lexeme} {rest : List Lexeme} (hStep : t.step = 0) (hRest : Balanced rest) :
    Balanced (t :: rest) := by
  refine ⟨by simp [hStep, hRest.total], fun start tail h => ?_⟩
  cases start with
  | nil => exact le_rfl
  | cons t' start =>
      obtain ⟨rfl, hStart⟩ := List.cons.inj h
      have hNonneg := hRest.nonneg start tail hStart
      rw [depth_cons, hStep]
      omega

/-- Lexemes on a level below. -/
theorem enclosed {t u : Lexeme} {inner : List Lexeme} (hDown : t.step = 1) (hUp : u.step = -1)
    (hInner : Balanced inner) : Balanced (t :: (inner ++ [u])) := by
  refine ⟨by simp [hDown, hUp, hInner.total], fun start tail h => ?_⟩
  cases start with
  | nil => exact le_rfl
  | cons t'' start =>
      obtain ⟨rfl, hStart⟩ := List.cons.inj h
      rw [depth_cons, hDown]
      rcases append_eq_append_cases hStart with ⟨rest, hFirst⟩ | ⟨rest, rfl, hLast⟩
      · have hNonneg := hInner.nonneg start rest hFirst
        omega
      · rw [depth_append, hInner.total]
        cases rest with
        | nil => simp
        | cons t'' rest =>
            obtain ⟨rfl, hNil⟩ := List.cons.inj hLast
            obtain ⟨rfl, rfl⟩ := List.append_eq_nil_iff.mp hNil.symm
            simp [hUp]

/-- Lexemes on a level below are reached from the outermost level only at their start. -/
theorem eq_nil_of_enclosed {t u x : Lexeme} {inner first second : List Lexeme} (hDown : t.step = 1)
    (hInner : Balanced inner) (h : t :: (inner ++ [u]) = first ++ x :: second) (hDepth : depth first = 0) :
    first = [] := by
  cases first with
  | nil => rfl
  | cons t' first =>
      obtain ⟨rfl, hTail⟩ := List.cons.inj h
      rw [depth_cons, hDown] at hDepth
      rcases append_eq_append_cases hTail with ⟨rest, hInside⟩ | ⟨rest, rfl, hLast⟩
      · have hNonneg := hInner.nonneg first rest hInside
        omega
      · rw [depth_append, hInner.total] at hDepth
        cases rest with
        | nil => simp at hDepth
        | cons t' rest => simp at hLast

end Balanced

theorem Expr.Plain.balanced {e : Expr} (h : e.Plain) : Balanced e.lexemes := by
  have hWord (text : String) : Balanced [.word text] := .cons rfl ⟨rfl, by
    intro first second hNil
    rw [(List.append_eq_nil_iff.mp hNil.symm).1]
    exact le_rfl⟩
  induction h with
  | int span hNonneg => exact hWord _
  | ident span hName => exact hWord _
  | paren span hInner ih => exact ih.enclosed rfl rfl
  | unary op span hOperand ih => exact ih.cons rfl
  | binary op span hLhs hRhs ihLhs ihRhs => exact ihLhs.append (ihRhs.cons rfl)
  | conditional span hCondition hThen hElse ihCondition ihThen ihElse =>
      have hAll := ihCondition.append ((ihThen.enclosed (t := .between .question)
        (u := .between .colon) rfl rfl).append ihElse)
      simpa [lexemes, ExprKind.lexemes] using hAll

/-! ### What binds at the outermost level -/

/-- How tightly an operator or the sign of a conditional binds. -/
def Lexeme.level? : Lexeme → Option Nat
  | .between (.operator op) => some op.precedence
  | .between .question => some 0
  | _ => none

namespace Expr.Grouped

/-- At the outermost level of parentheses and conditionals, nothing binds less tightly than the root. -/
theorem level_le {e : Expr} (h : e.Grouped) : ∀ {first second : List Lexeme} {t : Lexeme} {level : Nat},
    e.lexemes = first ++ t :: second → depth first = 0 → t.level? = some level → e.level ≤ level := by
  have hWord {text : String} {first second : List Lexeme} {t : Lexeme} {level : Nat}
      (hSplit : [Lexeme.word text] = first ++ t :: second) : t.level? ≠ some level := by
    cases first with
    | nil =>
        obtain ⟨rfl, -⟩ := List.cons.inj hSplit
        exact nofun
    | cons t' first => simp at hSplit
  induction h with
  | int span hNonneg => exact fun hSplit _ hLevel => absurd hLevel (hWord hSplit)
  | ident span hName => exact fun hSplit _ hLevel => absurd hLevel (hWord hSplit)
  | paren span hInner ih =>
      intro first second t level hSplit hDepth hLevel
      obtain rfl := Balanced.eq_nil_of_enclosed rfl hInner.plain.balanced hSplit hDepth
      obtain ⟨rfl, -⟩ := List.cons.inj hSplit
      cases hLevel
  | @unary op operand span hOperand hOperandLevel ih =>
      intro first second t level hSplit hDepth hLevel
      cases first with
      | nil =>
          obtain ⟨rfl, -⟩ := List.cons.inj hSplit
          cases hLevel
      | cons t' first =>
          obtain ⟨rfl, hTail⟩ := List.cons.inj hSplit
          rw [depth_cons, Lexeme.step_leading, zero_add] at hDepth
          exact hOperandLevel.trans (ih hTail hDepth hLevel)
  | @binary op lhs rhs span hLhs hRhs hLeft hRight ihLhs ihRhs =>
      intro first second t level hSplit hDepth hLevel
      rcases append_eq_append_cons_cases hSplit with ⟨rest, hInside⟩ | ⟨rest, rfl, hTail⟩
      · exact hLeft.trans (ihLhs hInside hDepth hLevel)
      · rw [depth_append, hLhs.plain.balanced.total, zero_add] at hDepth
        cases rest with
        | nil =>
            obtain ⟨rfl, -⟩ := List.cons.inj hTail
            cases hLevel
            exact le_rfl
        | cons t' rest =>
            obtain ⟨rfl, hRest⟩ := List.cons.inj hTail
            rw [depth_cons, Lexeme.step_operator, zero_add] at hDepth
            exact hRight.le.trans (ihRhs hRest hDepth hLevel)
  | conditional => exact fun _ _ _ => Nat.zero_le _

/-- The operator at the root, or the sign of the conditional there, is at the outermost level. -/
theorem exists_root {e : Expr} (h : e.Grouped) (hLevel : e.level ≤ 10) :
    ∃ first t second, e.lexemes = first ++ t :: second ∧ depth first = 0 ∧
      t.level? = some e.level := by
  cases h with
  | int | ident | paren | unary => simp at hLevel
  | binary op span hLhs hRhs hLeft hRight => exact ⟨_, _, _, rfl, hLhs.plain.balanced.total, rfl⟩
  | conditional span hCondition hThen hElse hLevel =>
      exact ⟨_, _, _, rfl, hCondition.plain.balanced.total, rfl⟩

/-- Grouped expressions with the same lexemes bind equally tightly if there is an operator at the root. -/
theorem level_eq {e e' : Expr} (h : e.Grouped) (h' : e'.Grouped) (hSame : e.lexemes = e'.lexemes)
    (hLevel : e.level ≤ 10) : e'.level = e.level := by
  obtain ⟨first, t, second, hSplit, hDepth, hRoot⟩ := h.exists_root hLevel
  have hLe : e'.level ≤ e.level := h'.level_le (hSame ▸ hSplit) hDepth hRoot
  obtain ⟨first', t', second', hSplit', hDepth', hRoot'⟩ := h'.exists_root (hLe.trans hLevel)
  exact le_antisymm hLe (h.level_le (hSame.symm ▸ hSplit') hDepth' hRoot')

/-- Expressions without an operator at the root have other lexemes than those with one. -/
theorem tight_of_same {e e' : Expr} (h : e.Grouped) (h' : e'.Grouped) (hSame : e.lexemes = e'.lexemes)
    (hTight : 10 < e.level) : 10 < e'.level := by
  by_contra hLoose
  have hLevel := h'.level_eq h hSame.symm (not_lt.mp hLoose)
  omega

/-- An operator between operands that are grouped is told by the lexemes, and so are the operands. -/
theorem binary_inj {op op' : BinaryOp} {lhs lhs' rhs rhs' : Expr} {span span' : Span}
    (h : Grouped ⟨.binary op lhs rhs, span⟩) (h' : Grouped ⟨.binary op' lhs' rhs', span'⟩)
    (hSame : lhs.lexemes ++ .between (.operator op) :: rhs.lexemes =
      lhs'.lexemes ++ .between (.operator op') :: rhs'.lexemes) :
    lhs.lexemes = lhs'.lexemes ∧ op = op' ∧ rhs.lexemes = rhs'.lexemes := by
  have hLevel : op'.precedence = op.precedence := h.level_eq h' hSame op.precedence_bounds.2
  -- An operator as tight as the root is none of those in a right operand.
  have hInside {lhs lhs' rhs : Expr} {op op' : BinaryOp} {inner last : List Lexeme} (hLhs : lhs.Grouped)
      (hLhs' : lhs'.Grouped) (hRhs : rhs.Grouped) (hRight : op'.precedence < rhs.level)
      (hFirst : lhs'.lexemes = lhs.lexemes ++ .between (.operator op) :: inner) :
      rhs.lexemes ≠ inner ++ .between (.operator op') :: last := by
    intro hSecond
    have hTotal := hLhs'.plain.balanced.total
    rw [hFirst, depth_append, depth_cons, hLhs.plain.balanced.total, Lexeme.step_operator, zero_add,
      zero_add] at hTotal
    exact absurd (hRhs.level_le hSecond hTotal rfl) (not_le.mpr hRight)
  cases h with
  | binary _ _ hLhs hRhs _ hRight =>
      cases h' with
      | binary _ _ hLhs' hRhs' _ hRight' =>
          rcases append_cons_cases hSame with ⟨hFirst, hSign, hSecond⟩ | ⟨inner, hFirst, hSecond⟩ |
            ⟨inner, hFirst, hSecond⟩
          · cases hSign
            exact ⟨hFirst, rfl, hSecond⟩
          · exact absurd hSecond (hInside hLhs hLhs' hRhs (hLevel ▸ hRight) hFirst)
          · exact absurd hSecond (hInside hLhs' hLhs hRhs' (hLevel ▸ hRight') hFirst)

/-- The parts of a conditional are told by the lexemes. -/
theorem conditional_inj {condition condition' thenExpr thenExpr' elseExpr elseExpr' : Expr}
    {span span' : Span} (h : Grouped ⟨.conditional condition thenExpr elseExpr, span⟩)
    (h' : Grouped ⟨.conditional condition' thenExpr' elseExpr', span'⟩)
    (hSame : condition.lexemes ++ .between .question ::
        (thenExpr.lexemes ++ .between .colon :: elseExpr.lexemes) =
      condition'.lexemes ++ .between .question ::
        (thenExpr'.lexemes ++ .between .colon :: elseExpr'.lexemes)) :
    condition.lexemes = condition'.lexemes ∧ thenExpr.lexemes = thenExpr'.lexemes ∧
      elseExpr.lexemes = elseExpr'.lexemes := by
  -- A condition has no sign of a conditional at its outermost level.
  have hQuestion {c c' : Expr} {inner : List Lexeme} (hCondition : c.Grouped) (hCondition' : c'.Grouped)
      (hLevel : 1 ≤ c'.level) : c'.lexemes ≠ c.lexemes ++ .between .question :: inner := by
    intro hSplit
    exact absurd (hCondition'.level_le hSplit hCondition.plain.balanced.total rfl) (not_le.mpr hLevel)
  -- A colon would lead above the level of what is between the signs.
  have hColon {t t' : Expr} {inner : List Lexeme} (hThen : t.Grouped) (hThen' : t'.Grouped) :
      t'.lexemes ≠ t.lexemes ++ .between .colon :: inner := by
    intro hSplit
    have hNonneg := hThen'.plain.balanced.nonneg (t.lexemes ++ [.between .colon]) inner (by simp [hSplit])
    rw [depth_append, depth_cons, hThen.plain.balanced.total, Lexeme.step_colon, depth_nil] at hNonneg
    omega
  cases h with
  | conditional _ hCondition hThen hElse hLevel =>
      cases h' with
      | conditional _ hCondition' hThen' hElse' hLevel' =>
          rcases append_cons_cases hSame with ⟨hFirst, -, hRest⟩ | ⟨inner, hFirst, -⟩ |
            ⟨inner, hFirst, -⟩
          · rcases append_cons_cases hRest with ⟨hSecond, -, hLast⟩ | ⟨inner, hSecond, -⟩ |
              ⟨inner, hSecond, -⟩
            · exact ⟨hFirst, hSecond, hLast⟩
            · exact absurd hSecond (hColon hThen hThen')
            · exact absurd hSecond (hColon hThen' hThen)
          · exact absurd hFirst (hQuestion hCondition hCondition' hLevel')
          · exact absurd hFirst (hQuestion hCondition' hCondition hLevel)

end Expr.Grouped

/-! ### Reading a text back -/

mutual

/-- An expression that stands nowhere, and of which no part stands anywhere. -/
def Expr.bare : Expr → Expr
  | ⟨kind, _⟩ => ⟨kind.bare, .empty⟩

/-- A form of expression of which no part stands anywhere. -/
def ExprKind.bare : ExprKind → ExprKind
  | .literal value => .literal value
  | .ident name => .ident name
  | .paren inner => .paren inner.bare
  | .unary op operand => .unary op operand.bare
  | .binary op lhs rhs => .binary op lhs.bare rhs.bare
  | .conditional condition thenExpr elseExpr =>
      .conditional condition.bare thenExpr.bare elseExpr.bare
  | .cast typeName operand => .cast typeName operand.bare
  | .sizeOfType typeName => .sizeOfType typeName
  | .verbatim text => .verbatim text

end

mutual

/-- The value does not depend on where an expression stands. -/
theorem Expr.eval_bare (symbols : SymbolTable) : ∀ e : Expr, e.bare.eval symbols = e.eval symbols
  | ⟨kind, _⟩ => kind.eval_bare symbols

theorem ExprKind.eval_bare (symbols : SymbolTable) : ∀ kind : ExprKind,
    kind.bare.eval symbols = kind.eval symbols
  | .literal _ | .ident _ | .sizeOfType _ | .verbatim _ => rfl
  | .paren inner => inner.eval_bare symbols
  | .unary op operand => by
      rw [ExprKind.bare, ExprKind.eval, ExprKind.eval, operand.eval_bare symbols]
  | .binary op lhs rhs => by
      rw [ExprKind.bare, ExprKind.eval, ExprKind.eval, lhs.eval_bare symbols, rhs.eval_bare symbols]
  | .conditional condition thenExpr elseExpr => by
      rw [ExprKind.bare, ExprKind.eval, ExprKind.eval, condition.eval_bare symbols,
        thenExpr.eval_bare symbols, elseExpr.eval_bare symbols]
  | .cast _ operand => operand.eval_bare symbols

end

/-- A grouped expression that is a single word is an integer or an identifier. -/
theorem Expr.Grouped.word_cases {e : Expr} (h : e.Grouped) {text : String}
    (hLexemes : e.lexemes = [.word text]) :
    (∃ n : Int64, 0 ≤ n.toInt ∧ (Literal.int n).text = text ∧ e.bare = .int n) ∨
      (IsIdentifier text ∧ e.bare = .ident text) := by
  cases h with
  | @int n span hNonneg =>
      exact .inl ⟨n, hNonneg, Lexeme.word.inj (List.cons.inj hLexemes).1, rfl⟩
  | ident span hName =>
      obtain rfl := Lexeme.word.inj (List.cons.inj hLexemes).1
      exact .inr ⟨hName, rfl⟩
  | paren | unary => cases hLexemes
  | binary | conditional => simp [lexemes, ExprKind.lexemes, List.append_eq_cons_iff] at hLexemes

/-- A grouped expression is told by its lexemes. -/
theorem Expr.Grouped.bare_eq {e : Expr} (h : e.Grouped) : ∀ {e' : Expr}, e'.Grouped →
    e.lexemes = e'.lexemes → e.bare = e'.bare := by
  induction h with
  | @int n span hNonneg =>
      intro e' h' hSame
      rcases h'.word_cases hSame.symm with ⟨m, hNonneg', hText, hBare⟩ | ⟨hName, -⟩
      · rw [hBare, Literal.text_int_inj hNonneg' hNonneg hText]
        rfl
      · exact absurd rfl (Literal.text_int_ne hNonneg hName)
  | ident span hName =>
      intro e' h' hSame
      rcases h'.word_cases hSame.symm with ⟨m, hNonneg, hText, -⟩ | ⟨-, hBare⟩
      · exact absurd hText (Literal.text_int_ne hNonneg hName)
      · rw [hBare]
        rfl
  | @paren inner span hInner ih =>
      intro e' h' hSame
      have hTight := tight_of_same (.paren span hInner) h' hSame (by simp)
      cases h' with
      | int | ident | unary => cases hSame
      | paren span' hInner' =>
          have hBare := ih hInner' (List.append_cancel_right (List.cons.inj hSame).2)
          rw [bare, bare, ExprKind.bare, ExprKind.bare, hBare]
      | binary op => exact absurd hTight (not_lt.mpr op.precedence_bounds.2)
      | conditional => cases hTight
  | @unary op operand span hOperand hLevel ih =>
      intro e' h' hSame
      have hTight := tight_of_same (.unary op span hOperand hLevel) h' hSame (by simp)
      cases h' with
      | int | ident | paren => cases hSame
      | unary op' span' hOperand' hLevel' =>
          obtain ⟨hOp, hRest⟩ := List.cons.inj hSame
          have hBare := ih hOperand' hRest
          rw [bare, bare, ExprKind.bare, ExprKind.bare, hBare, Lexeme.leading.inj hOp]
      | binary op => exact absurd hTight (not_lt.mpr op.precedence_bounds.2)
      | conditional => cases hTight
  | @binary op lhs rhs span hLhs hRhs hLeft hRight ihLhs ihRhs =>
      intro e' h' hSame
      have hBinary := Grouped.binary op span hLhs hRhs hLeft hRight
      obtain ⟨hPositive, hLoose⟩ := op.precedence_bounds
      have hLevel : e'.level = op.precedence := hBinary.level_eq h' hSame hLoose
      cases h' with
      | int | ident | paren | unary => exact absurd (hLevel ▸ hLoose) (by simp)
      | conditional => exact absurd (hLevel ▸ hPositive) (by simp)
      | binary op' span' hLhs' hRhs' hLeft' hRight' =>
          obtain ⟨hFirst, rfl, hSecond⟩ :=
            hBinary.binary_inj (.binary op' span' hLhs' hRhs' hLeft' hRight') hSame
          rw [bare, bare, ExprKind.bare, ExprKind.bare, ihLhs hLhs' hFirst, ihRhs hRhs' hSecond]
  | @conditional condition thenExpr elseExpr span hCondition hThen hElse hLevel ihCondition ihThen
      ihElse =>
      intro e' h' hSame
      have hConditional := Grouped.conditional span hCondition hThen hElse hLevel
      have hRoot : e'.level = 0 := hConditional.level_eq h' hSame (Nat.zero_le _)
      cases h' with
      | int | ident | paren | unary => cases hRoot
      | binary op => exact absurd op.precedence_bounds.1 (not_le.mpr (Nat.lt_one_iff.mpr hRoot))
      | conditional span' hCondition' hThen' hElse' hLevel' =>
          obtain ⟨hFirst, hSecond, hLast⟩ :=
            hConditional.conditional_inj (.conditional span' hCondition' hThen' hElse' hLevel') hSame
          rw [bare, bare, ExprKind.bare, ExprKind.bare, ihCondition hCondition' hFirst,
            ihThen hThen' hSecond, ihElse hElse' hLast]

/-! ### What is read in a text

The lexemes of any plain expression are those of a grouped one, which has its operators in other places
where it is not the same. -/

namespace Expr.Grouped

/-- An operator in front of an expression belongs to its first operand. -/
theorem exists_leading (op : UnaryOp) {e : Expr} (h : e.Grouped) :
    ∃ g : Expr, g.Grouped ∧ g.lexemes = .leading op :: e.lexemes ∧ g.level = min 11 e.level := by
  induction h with
  | int span hNonneg => exact ⟨_, .unary op .empty (.int span hNonneg) (by simp), rfl, rfl⟩
  | ident span hName => exact ⟨_, .unary op .empty (.ident span hName) (by simp), rfl, rfl⟩
  | paren span hInner _ => exact ⟨_, .unary op .empty (.paren span hInner) (by simp), rfl, rfl⟩
  | unary op' span hOperand hLevel _ =>
      exact ⟨_, .unary op .empty (.unary op' span hOperand hLevel) (by simp), rfl, rfl⟩
  | binary op' span hLhs hRhs hLeft hRight ihLhs _ =>
      obtain ⟨g, hGrouped, hLexemes, hLevel⟩ := ihLhs
      have hBounds := op'.precedence_bounds
      refine ⟨⟨.binary op' g _, .empty⟩, .binary op' .empty hGrouped hRhs (by omega) hRight, ?_, ?_⟩
      · simp [lexemes, ExprKind.lexemes, hLexemes]
      · rw [level_binary, level_binary]
        omega
  | conditional span hCondition hThen hElse hLevel ihCondition _ _ =>
      obtain ⟨g, hGrouped, hLexemes, hConditionLevel⟩ := ihCondition
      refine ⟨⟨.conditional g _ _, .empty⟩, .conditional .empty hGrouped hThen hElse (by omega), ?_, ?_⟩
      · simp [lexemes, ExprKind.lexemes, hLexemes]
      · simp

end Expr.Grouped

/-- Whether an operator between two expressions is read as part of a grouped one. -/
def Joins (op : BinaryOp) (lhs rhs : Expr) : Prop :=
  ∃ g : Expr, g.Grouped ∧ g.lexemes = lhs.lexemes ++ .between (.operator op) :: rhs.lexemes ∧
    g.level = min op.precedence (min lhs.level rhs.level)

namespace Joins

variable {op : BinaryOp} {lhs rhs : Expr}

/-- An operator between operands that bind tightly enough. -/
theorem of_fits (hLhs : lhs.Grouped) (hRhs : rhs.Grouped) (hLeft : op.precedence ≤ lhs.level)
    (hRight : op.precedence < rhs.level) : Joins op lhs rhs := by
  refine ⟨_, .binary op .empty hLhs hRhs hLeft hRight, rfl, ?_⟩
  rw [Expr.level_binary]
  omega

/-- An operator behind a looser expression belongs to the last operand of that expression. -/
theorem of_left (hLhs : lhs.Grouped) (hLoose : lhs.level = 0 ∨ lhs.level < rhs.level)
    (hFits : ¬(op.precedence ≤ lhs.level ∧ op.precedence < rhs.level))
    (ih : ∀ {last : Expr}, last.Grouped → last.lexemes.length < lhs.lexemes.length →
      Joins op last rhs) : Joins op lhs rhs := by
  have hBounds := op.precedence_bounds
  cases hLhs with
  | int | ident | paren | unary =>
      simp only [Expr.level_literal, Expr.level_ident, Expr.level_paren, Expr.level_unary] at hLoose hFits
      omega
  | @binary op' first last span hFirst hLast hLeft hRight =>
      obtain ⟨g, hGrouped, hLexemes, hLevel⟩ := ih hLast (by
        simp [Expr.lexemes, ExprKind.lexemes]
        omega)
      have hBounds' := op'.precedence_bounds
      rw [Expr.level_binary] at hLoose hFits
      refine ⟨_, .binary op' .empty hFirst hGrouped hLeft (by omega), ?_, ?_⟩
      · simp [Expr.lexemes, ExprKind.lexemes, hLexemes]
      · rw [Expr.level_binary, Expr.level_binary]
        omega
  | @conditional condition thenExpr elseExpr span hCondition hThen hElse hLevel =>
      obtain ⟨g, hGrouped, hLexemes, -⟩ := ih hElse (by
        simp [Expr.lexemes, ExprKind.lexemes]
        omega)
      refine ⟨_, .conditional .empty hCondition hThen hGrouped hLevel, ?_, ?_⟩
      · simp [Expr.lexemes, ExprKind.lexemes, hLexemes]
      · simp

/-- An operator in front of a looser expression belongs to the first operand of that expression. -/
theorem of_right (hRhs : rhs.Grouped) (hLoose : lhs.level ≠ 0 ∧ rhs.level ≤ lhs.level)
    (hFits : ¬(op.precedence ≤ lhs.level ∧ op.precedence < rhs.level))
    (ih : ∀ {first : Expr}, first.Grouped → first.lexemes.length < rhs.lexemes.length →
      Joins op lhs first) : Joins op lhs rhs := by
  have hBounds := op.precedence_bounds
  cases hRhs with
  | int | ident | paren | unary =>
      simp only [Expr.level_literal, Expr.level_ident, Expr.level_paren, Expr.level_unary] at hLoose hFits
      omega
  | @binary op' first last span hFirst hLast hLeft hRight =>
      obtain ⟨g, hGrouped, hLexemes, hLevel⟩ := ih hFirst (by
        simp [Expr.lexemes, ExprKind.lexemes])
      rw [Expr.level_binary] at hLoose hFits
      refine ⟨_, .binary op' .empty hGrouped hLast (by omega) hRight, ?_, ?_⟩
      · simp [Expr.lexemes, ExprKind.lexemes, hLexemes]
      · rw [Expr.level_binary, Expr.level_binary]
        omega
  | @conditional condition thenExpr elseExpr span hCondition hThen hElse hLevel =>
      obtain ⟨g, hGrouped, hLexemes, hConditionLevel⟩ := ih hCondition (by
        simp [Expr.lexemes, ExprKind.lexemes])
      refine ⟨_, .conditional .empty hGrouped hThen hElse (by omega), ?_, ?_⟩
      · simp [Expr.lexemes, ExprKind.lexemes, hLexemes]
      · simp

end Joins

/-- Grouped expressions with an operator between them are read as a grouped expression. -/
theorem Expr.Grouped.joins (op : BinaryOp) {lhs rhs : Expr} (hLhs : lhs.Grouped) (hRhs : rhs.Grouped) :
    Joins op lhs rhs := by
  induction hLength : lhs.lexemes.length + rhs.lexemes.length using Nat.strongRecOn
    generalizing lhs rhs with
  | ind n ih =>
      by_cases hFits : op.precedence ≤ lhs.level ∧ op.precedence < rhs.level
      · exact .of_fits hLhs hRhs hFits.1 hFits.2
      · by_cases hLoose : lhs.level = 0 ∨ lhs.level < rhs.level
        · exact .of_left hLhs hLoose hFits fun hLast hShorter => ih _ (by omega) hLast hRhs rfl
        · exact .of_right hRhs (by omega) hFits fun hFirst hShorter => ih _ (by omega) hLhs hFirst rfl

/-- A conditional whose condition is a conditional is read as part of the last operand of that one. -/
theorem Expr.Grouped.exists_conditional {condition thenExpr elseExpr : Expr}
    (hCondition : condition.Grouped) (hThen : thenExpr.Grouped) (hElse : elseExpr.Grouped) :
    ∃ g : Expr, g.Grouped ∧ g.lexemes = condition.lexemes ++ .between .question ::
      (thenExpr.lexemes ++ .between .colon :: elseExpr.lexemes) := by
  induction hCondition with
  | int span hNonneg => exact ⟨_, .conditional .empty (.int span hNonneg) hThen hElse (by simp), rfl⟩
  | ident span hName => exact ⟨_, .conditional .empty (.ident span hName) hThen hElse (by simp), rfl⟩
  | paren span hInner _ => exact ⟨_, .conditional .empty (.paren span hInner) hThen hElse (by simp), rfl⟩
  | unary op span hOperand hLevel _ =>
      exact ⟨_, .conditional .empty (.unary op span hOperand hLevel) hThen hElse (by simp), rfl⟩
  | binary op span hLhs hRhs hLeft hRight _ _ =>
      exact ⟨_, .conditional .empty (.binary op span hLhs hRhs hLeft hRight) hThen hElse
        op.precedence_bounds.1, rfl⟩
  | conditional span hFirst hSecond hLast hLevel _ _ ihLast =>
      obtain ⟨g, hGrouped, hLexemes⟩ := ihLast
      refine ⟨_, .conditional .empty hFirst hSecond hGrouped hLevel, ?_⟩
      simp [lexemes, ExprKind.lexemes, hLexemes]

/-- Every plain expression has the lexemes of a grouped one. -/
theorem Expr.Plain.exists_grouped {e : Expr} (h : e.Plain) :
    ∃ g : Expr, g.Grouped ∧ g.lexemes = e.lexemes := by
  induction h with
  | int span hNonneg => exact ⟨_, .int span hNonneg, rfl⟩
  | ident span hName => exact ⟨_, .ident span hName, rfl⟩
  | paren span hInner ih =>
      obtain ⟨g, hGrouped, hLexemes⟩ := ih
      refine ⟨_, .paren span hGrouped, ?_⟩
      rw [lexemes, ExprKind.lexemes, hLexemes, lexemes, ExprKind.lexemes]
  | unary op span hOperand ih =>
      obtain ⟨g, hGrouped, hLexemes⟩ := ih
      obtain ⟨g', hGrouped', hLexemes', -⟩ := hGrouped.exists_leading op
      exact ⟨g', hGrouped', by rw [hLexemes', hLexemes, lexemes, ExprKind.lexemes]⟩
  | binary op span hLhs hRhs ihLhs ihRhs =>
      obtain ⟨g, hGrouped, hLexemes⟩ := ihLhs
      obtain ⟨g', hGrouped', hLexemes'⟩ := ihRhs
      obtain ⟨joined, hJoined, hAll, -⟩ := hGrouped.joins op hGrouped'
      exact ⟨joined, hJoined, by rw [hAll, hLexemes, hLexemes', lexemes, ExprKind.lexemes]⟩
  | conditional span hCondition hThen hElse ihCondition ihThen ihElse =>
      obtain ⟨c, hC, hConditionLexemes⟩ := ihCondition
      obtain ⟨t, hT, hThenLexemes⟩ := ihThen
      obtain ⟨f, hF, hElseLexemes⟩ := ihElse
      obtain ⟨joined, hJoined, hAll⟩ := hC.exists_conditional hT hF
      exact ⟨joined, hJoined, by
        rw [hAll, hConditionLexemes, hThenLexemes, hElseLexemes, lexemes, ExprKind.lexemes]⟩

/-! ### Texts and values -/

/-- The text of a plain expression is the text of a grouped one, and of no other grouped one: all of them
are the same apart from where they stand, and have the same value. -/
theorem render_denotes_grouped {e : Expr} (hPlain : e.Plain) :
    (∃ g : Expr, g.Grouped ∧ g.render = e.render) ∧
    ∀ {g g' : Expr}, g.Grouped → g'.Grouped → g.render = e.render → g'.render = e.render →
      g.bare = g'.bare ∧ ∀ symbols : SymbolTable, g.eval symbols = g'.eval symbols := by
  refine ⟨?_, fun {g g'} hGrouped hGrouped' hText hText' => ?_⟩
  · obtain ⟨g, hGrouped, hLexemes⟩ := hPlain.exists_grouped
    exact ⟨g, hGrouped, (Expr.render_eq_iff hGrouped.plain hPlain).mpr hLexemes⟩
  · have hLexemes := (Expr.render_eq_iff hGrouped.plain hGrouped'.plain).mp (hText.trans hText'.symm)
    have hBare := hGrouped.bare_eq hGrouped' hLexemes
    exact ⟨hBare, fun symbols => by rw [← g.eval_bare, hBare, g'.eval_bare]⟩

/-- The product of `1 + 2` and `3`, without parentheses. -/
def Expr.productOfSum : Expr := .binary .mul (.binary .add (.int 1) (.int 2)) (.int 3)

/-- The sum of `1` and `2 * 3`. -/
def Expr.sumWithProduct : Expr := .binary .add (.int 1) (.binary .mul (.int 2) (.int 3))

theorem Expr.plain_productOfSum : productOfSum.Plain := by
  have hSum : Plain (.binary .add (.int 1) (.int 2)) :=
    .binary _ _ (.int _ (by decide)) (.int _ (by decide))
  exact .binary _ _ hSum (.int _ (by decide))

theorem Expr.grouped_sumWithProduct : sumWithProduct.Grouped := by
  have hProduct : Grouped (.binary .mul (.int 2) (.int 3)) :=
    .binary _ _ (.int _ (by decide)) (.int _ (by decide)) (by decide) (by decide)
  exact .binary _ _ (.int _ (by decide)) hProduct (by decide) (by decide)

/-- The text of the product is read as the sum, also by C: whatever is grouped and has this text has the
value 7. -/
theorem productOfSum_read : Expr.productOfSum.Plain ∧
    ∀ {g : Expr}, g.Grouped → g.render = Expr.productOfSum.render →
      ∀ symbols : SymbolTable, g.eval symbols = some (.int 7) := by
  refine ⟨Expr.plain_productOfSum, fun {g} hGrouped hText symbols => ?_⟩
  obtain ⟨-, hSame⟩ := render_denotes_grouped Expr.plain_productOfSum
  obtain ⟨-, hValue⟩ := hSame hGrouped Expr.grouped_sumWithProduct hText (by decide)
  rw [hValue symbols]
  rfl

/-- The product and the sum have the same text and different values. -/
theorem sameText_values :
    Expr.productOfSum.Plain ∧ Expr.sumWithProduct.Plain ∧
    Expr.productOfSum.render = "1 + 2 * 3" ∧ Expr.sumWithProduct.render = "1 + 2 * 3" ∧
    Expr.productOfSum.eval .empty = some (.int 9) ∧ Expr.sumWithProduct.eval .empty = some (.int 7) :=
  ⟨Expr.plain_productOfSum, Expr.grouped_sumWithProduct.plain, by decide, by decide, rfl, rfl⟩

end CDecl
