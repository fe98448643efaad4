import CDecl.Decimal.Format
import CDecl.Syntax.Expr
import CDecl.Table
import CDecl.Text.Quoted

/-!
# Constant values

The values that constant expressions have, how they count as integers, as floating numbers and as
truth values, and how they are written.
-/

namespace CDecl

/-- The value of a constant expression. -/
inductive Value where
  | int (n : Int64)
  | float (x : Float)
  | char (c : Char)
  | str (s : String)
deriving Inhabited

/-- The values recorded for names; a name may be known without a value. -/
abbrev SymbolTable := Table (Option Value)

namespace SymbolTable

/-- The value of a name, if it is known and has one. -/
def value? (symbols : SymbolTable) (name : String) : Option Value :=
  (symbols.find? name).bind id

end SymbolTable

namespace Value

/-- The value of a literal. -/
def ofLiteral : Literal → Value
  | .int n => .int n
  | .float x => .float x
  | .char c => .char c
  | .str s => .str s

/-- A truth value as an integer. -/
def ofBool (b : Bool) : Value := .int (if b then 1 else 0)

/-- The code point of a character. -/
def codePoint (c : Char) : Int64 := Int64.ofNat c.toNat

/-- The value as an integer; characters count as their code points. -/
def int? : Value → Option Int64
  | .int n => some n
  | .char c => some (codePoint c)
  | .float _ | .str _ => none

/-- The value as a floating number. -/
def float? : Value → Option Float
  | .int n => some n.toFloat
  | .float x => some x
  | .char c => some (codePoint c).toFloat
  | .str _ => none

/-- Whether a value counts as true; texts always do. -/
def isTrue : Value → Bool
  | .int n => n != 0
  | .float x => x != 0.0
  | .char c => codePoint c != 0
  | .str _ => true

/-- Floating constants from `0.0001` up to below `10 ^ 16` have no exponent; a tie goes up. -/
def floatFormat : Decimal.Format := ⟨-4, 15, false, .up⟩

/-- The text of a floating constant. -/
def floatText (x : Float) : String := floatFormat.text x

/-- How a value is written. -/
def text : Value → String
  | .int n => toString n.toInt
  | .float x => floatText x
  | .char c => Text.quoteChar c
  | .str s => Text.quoteString s

/-- How a value is written together with its kind. -/
def description : Value → String
  | .int n => "Int(" ++ text (.int n) ++ ")"
  | .float x => "Float(" ++ text (.float x) ++ ")"
  | .char c => "Char(" ++ text (.char c) ++ ")"
  | .str s => "Str(" ++ text (.str s) ++ ")"

/-- Whether two values are the same; floating numbers are compared as such, so that the zeros agree
and a NaN differs from itself. -/
def beq : Value → Value → Bool
  | .int m, .int n => m == n
  | .float x, .float y => x == y
  | .char c, .char d => c == d
  | .str s, .str t => s == t
  | _, _ => false

instance : BEq Value := ⟨beq⟩

end Value

end CDecl
