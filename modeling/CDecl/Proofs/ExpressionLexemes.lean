import Mathlib
import CDecl.Constant.Render
import CDecl.Text.Pieces

/-!
# Expressions as lexemes

The text of an expression consists of words, operators in front of an operand, parentheses, and signs
between operands with a blank on either side.  Two texts are the same only if they consist of the same
lexemes (`Expr.render_eq_iff`): no two words are next to each other, and every other lexeme is told by
its first character or by what stands between its blanks.
-/

namespace CDecl

/-! ### Plain expressions -/

/-- A word that does not start with a digit. -/
def IsIdentifier (s : String) : Prop := IsWord s ∧ ∀ c ∈ s.toList.head?, c.isDigit = false

/-- Expressions of integer literals that are not negative, identifiers, parentheses, operators and
conditionals. -/
inductive Expr.Plain : Expr → Prop
  | int {n : Int64} (span : Span) (hNonneg : 0 ≤ n.toInt) : Plain ⟨.literal (.int n), span⟩
  | ident {name : String} (span : Span) (hName : IsIdentifier name) : Plain ⟨.ident name, span⟩
  | paren {inner : Expr} (span : Span) (hInner : Plain inner) : Plain ⟨.paren inner, span⟩
  | unary (op : UnaryOp) {operand : Expr} (span : Span) (hOperand : Plain operand) :
      Plain ⟨.unary op operand, span⟩
  | binary (op : BinaryOp) {lhs rhs : Expr} (span : Span) (hLhs : Plain lhs) (hRhs : Plain rhs) :
      Plain ⟨.binary op lhs rhs, span⟩
  | conditional {condition thenExpr elseExpr : Expr} (span : Span) (hCondition : Plain condition)
      (hThen : Plain thenExpr) (hElse : Plain elseExpr) :
      Plain ⟨.conditional condition thenExpr elseExpr, span⟩

/-! ### Lexemes -/

/-- What stands between operands. -/
inductive Sign where
  | operator (op : BinaryOp)
  | question
  | colon
deriving DecidableEq

/-- How a sign is written, its blanks apart. -/
def Sign.text : Sign → String
  | .operator op => op.symbol
  | .question => "?"
  | .colon => ":"

/-- The pieces of the text of an expression. -/
inductive Lexeme where
  | word (text : String)
  | leading (op : UnaryOp)
  | opening
  | closing
  | between (sign : Sign)

/-- How a lexeme is written. -/
def Lexeme.text : Lexeme → List Char
  | .word text => text.toList
  | .leading op => op.symbol.toList
  | .opening => ['(']
  | .closing => [')']
  | .between sign => ' ' :: (sign.text.toList ++ [' '])

mutual

/-- The lexemes of an expression; forms that are kept as a text have none. -/
def Expr.lexemes : Expr → List Lexeme
  | ⟨kind, _⟩ => kind.lexemes

/-- The lexemes of a form of expression. -/
def ExprKind.lexemes : ExprKind → List Lexeme
  | .literal value => [.word value.text]
  | .ident name => [.word name]
  | .paren inner => .opening :: (inner.lexemes ++ [.closing])
  | .unary op operand => .leading op :: operand.lexemes
  | .binary op lhs rhs => lhs.lexemes ++ .between (.operator op) :: rhs.lexemes
  | .conditional condition thenExpr elseExpr =>
      condition.lexemes ++ .between .question ::
        (thenExpr.lexemes ++ .between .colon :: elseExpr.lexemes)
  | .cast _ _ | .sizeOfType _ | .verbatim _ => []

end

/-- The text that lexemes make up. -/
def lexemesText (lexemes : List Lexeme) : List Char := lexemes.flatMap Lexeme.text

theorem Expr.Plain.toList_render {e : Expr} (h : e.Plain) : e.render.toList = lexemesText e.lexemes := by
  induction h with
  | int span hNonneg => simp [render, ExprKind.render, lexemes, ExprKind.lexemes, lexemesText, Lexeme.text]
  | ident span hName => simp [render, ExprKind.render, lexemes, ExprKind.lexemes, lexemesText, Lexeme.text]
  | paren span hInner ih =>
      simp [render, ExprKind.render, lexemes, ExprKind.lexemes, ih, lexemesText, Lexeme.text]
  | unary op span hOperand ih =>
      simp [render, ExprKind.render, lexemes, ExprKind.lexemes, ih, lexemesText, Lexeme.text]
  | binary op span hLhs hRhs ihLhs ihRhs =>
      simp [render, ExprKind.render, lexemes, ExprKind.lexemes, ihLhs, ihRhs, lexemesText, Lexeme.text,
        Sign.text]
  | conditional span hCondition hThen hElse ihCondition ihThen ihElse =>
      simp [render, ExprKind.render, lexemes, ExprKind.lexemes, ihCondition, ihThen, ihElse, lexemesText,
        Lexeme.text, Sign.text]

/-! ### Words -/

theorem Literal.toList_text_int {n : Int64} (hNonneg : 0 ≤ n.toInt) :
    (Literal.int n).text.toList = Nat.toDigits 10 n.toInt.toNat := by
  have hText : (Literal.int n).text = toString n.toInt := rfl
  rw [hText, Int.toString_eq_repr, Int.repr_eq_if, if_pos hNonneg, Nat.toList_repr]

/-- An integer is written with at least one digit and nothing else. -/
theorem Literal.text_int_digits {n : Int64} (hNonneg : 0 ≤ n.toInt) :
    (Literal.int n).text.toList ≠ [] ∧ ∀ c ∈ (Literal.int n).text.toList, c.isDigit = true := by
  rw [toList_text_int hNonneg]
  exact ⟨Nat.toDigits_ne_nil, fun c hMem =>
    Nat.isDigit_of_mem_toDigits (b := 10) (by decide) (by decide) hMem⟩

theorem Literal.isWord_text_int {n : Int64} (hNonneg : 0 ≤ n.toInt) : IsWord (Literal.int n).text := by
  obtain ⟨hNonempty, hDigits⟩ := text_int_digits hNonneg
  refine ⟨fun hEmpty => hNonempty (String.toList_eq_nil_iff.mpr hEmpty), fun c hMem => .inl ?_⟩
  simp [Char.isAlphanum, hDigits c hMem]

theorem Literal.text_int_inj {n m : Int64} (hNonneg : 0 ≤ n.toInt) (hNonneg' : 0 ≤ m.toInt)
    (h : (Literal.int n).text = (Literal.int m).text) : n = m := by
  have hDigits := congrArg String.toList h
  rw [toList_text_int hNonneg, toList_text_int hNonneg'] at hDigits
  have hValue : n.toInt.toNat = m.toInt.toNat := toDigits_ten_inj hDigits
  exact Int64.toInt_inj.mp (by omega)

/-- No identifier is the text of an integer. -/
theorem Literal.text_int_ne {n : Int64} (hNonneg : 0 ≤ n.toInt) {name : String}
    (hName : IsIdentifier name) : (Literal.int n).text ≠ name := by
  rintro rfl
  obtain ⟨hNonempty, hDigits⟩ := text_int_digits hNonneg
  obtain ⟨c, rest, hChars⟩ := List.exists_cons_of_ne_nil hNonempty
  rw [hChars] at hDigits
  have hDigit := hDigits c (.head _)
  rw [hName.2 c (by rw [hChars]; rfl)] at hDigit
  exact Bool.noConfusion hDigit

/-! ### Reading lexemes -/

/-- Whether a lexeme is a word. -/
def Lexeme.isWord : Lexeme → Bool
  | .word _ => true
  | _ => false

/-- The words among lexemes are words, and no two of them are next to each other. -/
structure Separated (lexemes : List Lexeme) : Prop where
  isWord : ∀ text, .word text ∈ lexemes → IsWord text
  apart : lexemes.IsChain fun first second => first.isWord = false ∨ second.isWord = false

theorem Separated.tail {t : Lexeme} {rest : List Lexeme} (h : Separated (t :: rest)) : Separated rest :=
  ⟨fun text hMem => h.isWord text (.tail _ hMem), h.apart.tail⟩

theorem Separated.cons {t : Lexeme} {rest : List Lexeme} (h : Separated rest) (hWord : t.isWord = false) :
    Separated (t :: rest) := by
  refine ⟨fun text hMem => ?_, ?_⟩
  · rcases List.mem_cons.mp hMem with rfl | hMem
    · cases hWord
    · exact h.isWord text hMem
  · cases rest with
    | nil => exact .singleton _
    | cons t' rest => exact .cons_cons (.inl hWord) h.apart

theorem Separated.cons_word {text : String} (hText : IsWord text) {rest : List Lexeme}
    (h : Separated rest) (hRest : ∀ t ∈ rest.head?, t.isWord = false) : Separated (.word text :: rest) := by
  refine ⟨fun text' hMem => ?_, ?_⟩
  · rcases List.mem_cons.mp hMem with hSame | hMem
    · cases hSame
      exact hText
    · exact h.isWord text' hMem
  · cases rest with
    | nil => exact .singleton _
    | cons t' rest => exact .cons_cons (.inr (hRest t' rfl)) h.apart

/-- The lexemes of an expression are separated, also in front of separated lexemes that are no word. -/
theorem Expr.Plain.separated_append {e : Expr} (h : e.Plain) : ∀ {rest : List Lexeme}, Separated rest →
    (∀ t ∈ rest.head?, t.isWord = false) → Separated (e.lexemes ++ rest) := by
  have hNext {t : Lexeme} {rest : List Lexeme} (hWord : t.isWord = false) :
      ∀ t' ∈ (t :: rest).head?, t'.isWord = false := by
    rintro _ ⟨⟩
    exact hWord
  induction h with
  | int span hNonneg => exact fun hRest hHead => .cons_word (Literal.isWord_text_int hNonneg) hRest hHead
  | ident span hName => exact fun hRest hHead => .cons_word hName.1 hRest hHead
  | paren span hInner ih =>
      intro rest hRest _
      have hClosing : Separated (.closing :: rest) := hRest.cons rfl
      have hInside := (ih hClosing (hNext rfl)).cons (t := .opening) rfl
      simpa [lexemes, ExprKind.lexemes] using hInside
  | unary op span hOperand ih =>
      intro rest hRest hHead
      exact (ih hRest hHead).cons rfl
  | binary op span hLhs hRhs ihLhs ihRhs =>
      intro rest hRest hHead
      have hRight := (ihRhs hRest hHead).cons (t := .between (.operator op)) rfl
      have hBoth := ihLhs hRight (hNext rfl)
      simpa [lexemes, ExprKind.lexemes] using hBoth
  | conditional span hCondition hThen hElse ihCondition ihThen ihElse =>
      intro rest hRest hHead
      have hLast := (ihElse hRest hHead).cons (t := .between .colon) rfl
      have hMiddle := (ihThen hLast (hNext rfl)).cons (t := .between .question) rfl
      have hAll := ihCondition hMiddle (hNext rfl)
      simpa [lexemes, ExprKind.lexemes] using hAll

theorem Expr.Plain.separated {e : Expr} (h : e.Plain) : Separated e.lexemes := by
  have hNil : Separated [] := ⟨nofun, .nil⟩
  simpa using h.separated_append hNil nofun

/-- The kinds of lexemes, numbered. -/
def Lexeme.kind : Lexeme → Nat
  | .word _ => 0
  | .leading _ => 1
  | .opening => 2
  | .closing => 3
  | .between _ => 4

/-- The kind of the lexemes that start with a character. -/
def kindOfStart (c : Char) : Nat :=
  if IsWordChar c then 0 else if c = '(' then 2 else if c = ')' then 3 else if c = ' ' then 4 else 1

theorem Lexeme.exists_start {t : Lexeme} (h : ∀ text, t = .word text → IsWord text) :
    ∃ c rest, t.text = c :: rest ∧ kindOfStart c = t.kind := by
  cases t with
  | word text =>
      obtain ⟨c, rest, hChars, hWord⟩ := (h text rfl).exists_cons
      exact ⟨c, rest, hChars, if_pos hWord⟩
  | leading op => cases op <;> exact ⟨_, _, rfl, by decide⟩
  | opening | closing => exact ⟨_, _, rfl, by decide⟩
  | between sign => exact ⟨' ', _, rfl, rfl⟩

theorem UnaryOp.symbol_inj {op op' : UnaryOp} {rest rest' : List Char}
    (h : op.symbol.toList ++ rest = op'.symbol.toList ++ rest') : op = op' ∧ rest = rest' := by
  cases op <;> cases op' <;> simp_all [symbol]

theorem Sign.text_noBlank (sign : Sign) : ∀ c ∈ sign.text.toList, c ≠ ' ' := by
  cases sign with
  | operator op => cases op <;> simp [text, BinaryOp.symbol]
  | question | colon => simp [text]

theorem Sign.text_inj {sign sign' : Sign} (h : sign.text = sign'.text) : sign = sign' := by
  have hOperators : ∀ op op' : BinaryOp, op.symbol = op'.symbol → op = op' := by
    intro op op' hSymbol
    cases op <;> cases op' <;> first | rfl | exact absurd hSymbol (by decide)
  have hMarks : ∀ op : BinaryOp, op.symbol ≠ "?" ∧ op.symbol ≠ ":" := by
    intro op
    cases op <;> decide
  cases sign with
  | operator op =>
      cases sign' with
      | operator op' => rw [hOperators op op' h]
      | question => exact absurd h (hMarks op).1
      | colon => exact absurd h (hMarks op).2
  | question =>
      cases sign' with
      | operator op' => exact absurd h.symm (hMarks op').1
      | question => rfl
      | colon => exact absurd h (by decide)
  | colon =>
      cases sign' with
      | operator op' => exact absurd h.symm (hMarks op').2
      | question => exact absurd h (by decide)
      | colon => rfl

/-- The first lexeme of a text is told by the text, if a word is not followed by another one. -/
theorem Lexeme.text_inj {t t' : Lexeme} {rest rest' : List Char}
    (hWord : ∀ text, t = .word text → IsWord text ∧ Stops IsWordChar rest)
    (hWord' : ∀ text, t' = .word text → IsWord text ∧ Stops IsWordChar rest')
    (h : t.text ++ rest = t'.text ++ rest') : t = t' ∧ rest = rest' := by
  obtain ⟨c, chars, hStart, hKind⟩ := exists_start fun text ht => (hWord text ht).1
  obtain ⟨c', chars', hStart', hKind'⟩ := exists_start fun text ht => (hWord' text ht).1
  have hSame : t.kind = t'.kind := by
    rw [hStart, hStart'] at h
    rw [← hKind, ← hKind', (List.cons.inj h).1]
  cases t with
  | word text =>
      cases t' with
      | word text' =>
          obtain ⟨hText, hRest⟩ := pieces_inj IsWordChar (hWord text rfl).1.2 (hWord' text' rfl).1.2
            (hWord text rfl).2 (hWord' text' rfl).2 h
          exact ⟨by rw [String.toList_inj.mp hText], hRest⟩
      | _ => cases hSame
  | leading op =>
      cases t' with
      | leading op' =>
          obtain ⟨hOp, hRest⟩ := UnaryOp.symbol_inj h
          exact ⟨by rw [hOp], hRest⟩
      | _ => cases hSame
  | opening =>
      cases t' with
      | opening => exact ⟨rfl, (List.cons.inj h).2⟩
      | _ => cases hSame
  | closing =>
      cases t' with
      | closing => exact ⟨rfl, (List.cons.inj h).2⟩
      | _ => cases hSame
  | between sign =>
      cases t' with
      | between sign' =>
          have hInner : sign.text.toList ++ ' ' :: rest = sign'.text.toList ++ ' ' :: rest' := by
            simpa [text] using h
          obtain ⟨hText, hRest⟩ := pieces_inj (· ≠ ' ') sign.text_noBlank sign'.text_noBlank
            (stops_cons.mpr (by simp)) (stops_cons.mpr (by simp)) hInner
          exact ⟨by rw [Sign.text_inj (String.toList_inj.mp hText)], (List.cons.inj hRest).2⟩
      | _ => cases hSame

/-- What follows a word among separated lexemes starts with no letter of a word. -/
theorem Separated.stops {text : String} {rest : List Lexeme} (h : Separated (.word text :: rest)) :
    Stops IsWordChar (lexemesText rest) := by
  cases rest with
  | nil => exact stops_nil
  | cons t rest =>
      have hApart : t.isWord = false := by
        simpa [Lexeme.isWord] using (List.isChain_cons_cons.mp h.apart).1
      obtain ⟨c, chars, hStart, hKind⟩ := Lexeme.exists_start (t := t) fun text' ht => by
        rw [ht] at hApart
        cases hApart
      rw [lexemesText, List.flatMap_cons, hStart, List.cons_append, stops_cons]
      intro hChar
      rw [kindOfStart, if_pos hChar] at hKind
      cases t with
      | word text' => cases hApart
      | leading | opening | closing | between => cases hKind

/-- Separated lexemes are told by their text. -/
theorem lexemesText_inj : ∀ {lexemes lexemes' : List Lexeme}, Separated lexemes → Separated lexemes' →
    lexemesText lexemes = lexemesText lexemes' → lexemes = lexemes'
  | [], [], _, _, _ => rfl
  | [], t :: rest, _, hSeparated', h => by
      obtain ⟨c, chars, hStart, -⟩ := Lexeme.exists_start (t := t) fun text ht =>
        hSeparated'.isWord text (ht ▸ .head _)
      rw [lexemesText, lexemesText, List.flatMap_cons, hStart] at h
      cases h
  | t :: rest, [], hSeparated, _, h => by
      obtain ⟨c, chars, hStart, -⟩ := Lexeme.exists_start (t := t) fun text ht =>
        hSeparated.isWord text (ht ▸ .head _)
      rw [lexemesText, lexemesText, List.flatMap_cons, hStart] at h
      cases h
  | t :: rest, t' :: rest', hSeparated, hSeparated', h => by
      rw [lexemesText, lexemesText, List.flatMap_cons, List.flatMap_cons] at h
      obtain ⟨rfl, hRest⟩ := Lexeme.text_inj
        (fun text ht => ⟨hSeparated.isWord text (ht ▸ .head _), (ht ▸ hSeparated).stops⟩)
        (fun text ht => ⟨hSeparated'.isWord text (ht ▸ .head _), (ht ▸ hSeparated').stops⟩) h
      rw [lexemesText_inj hSeparated.tail hSeparated'.tail hRest]

/-- Plain expressions have the same text only if they have the same lexemes. -/
theorem Expr.render_eq_iff {e e' : Expr} (hPlain : e.Plain) (hPlain' : e'.Plain) :
    e.render = e'.render ↔ e.lexemes = e'.lexemes := by
  rw [← String.toList_inj, hPlain.toList_render, hPlain'.toList_render]
  exact ⟨lexemesText_inj hPlain.separated hPlain'.separated, fun h => by rw [h]⟩

end CDecl
