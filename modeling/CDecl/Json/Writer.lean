import CDecl.Decimal.Format
import CDecl.Json.Value

/-!
# Writing JSON documents

Two layouts of one document: `compact` without any blanks, and `pretty` with one item or entry a
line, indented by two blanks a level.  Texts escape the quote, the backslash and the control
characters; numbers that are not finite are written as `null`.
-/

namespace CDecl.Json

/-- Numbers from `10 ^ -5` up to below `10 ^ 16` have no exponent, and every exponent has a sign; a
tie goes to the even digit. -/
def numberFormat : Decimal.Format := ⟨-5, 15, true, .even⟩

/-- The text of a binary64 number. -/
def floatText (x : Float) : String :=
  if x.isFinite then numberFormat.text x else "null"

/-- The escape of a control character that has no letter of its own. -/
def controlEscape (c : Char) : String :=
  let digits := Nat.toDigits 16 c.toNat
  "\\u" ++ String.ofList (List.replicate (4 - digits.length) '0' ++ digits)

/-- A character as it stands inside a text. -/
def escape (c : Char) : String :=
  match c with
  | '"' => "\\\""
  | '\\' => "\\\\"
  | '\x08' => "\\b"
  | '\x0c' => "\\f"
  | '\n' => "\\n"
  | '\r' => "\\r"
  | '\t' => "\\t"
  | c => if c.toNat < 0x20 then controlEscape c else String.singleton c

/-- A text between quotes. -/
def quoted (s : String) : String := "\"" ++ String.join (s.toList.map escape) ++ "\""

mutual

/-- A document on one line, without blanks. -/
def compact : Json → String
  | .null => "null"
  | .bool b => if b then "true" else "false"
  | .int n => toString n
  | .float x => floatText x
  | .str s => quoted s
  | .arr items => "[" ++ ",".intercalate (compactItems items) ++ "]"
  | .obj entries => "\x7b" ++ ",".intercalate (compactEntries entries) ++ "\x7d"
  | .unreadable => "null"

/-- The items of a list, each on its own. -/
def compactItems : List Json → List String
  | [] => []
  | j :: rest => compact j :: compactItems rest

/-- The entries of an object, each on its own. -/
def compactEntries : List (String × Json) → List String
  | [] => []
  | (key, j) :: rest => (quoted key ++ ":" ++ compact j) :: compactEntries rest

end

/-- The lines of a list or object between its brackets. -/
def block (opening closing indent : String) (lines : List String) : String :=
  match lines with
  | [] => opening ++ closing
  | lines =>
      let inner := indent ++ "  "
      opening ++ "\n" ++ inner ++ (",\n" ++ inner).intercalate lines ++ "\n" ++ indent ++ closing

mutual

/-- A document with an item or entry a line; `indent` stands before its closing bracket. -/
def prettyAt (indent : String) : Json → String
  | .arr items => block "[" "]" indent (prettyItems (indent ++ "  ") items)
  | .obj entries => block "\x7b" "\x7d" indent (prettyEntries (indent ++ "  ") entries)
  | j => compact j

/-- The items of a list, each laid out on its own. -/
def prettyItems (indent : String) : List Json → List String
  | [] => []
  | j :: rest => prettyAt indent j :: prettyItems indent rest

/-- The entries of an object, each laid out on its own. -/
def prettyEntries (indent : String) : List (String × Json) → List String
  | [] => []
  | (key, j) :: rest => (quoted key ++ ": " ++ prettyAt indent j) :: prettyEntries indent rest

end

/-- A document laid out over several lines. -/
def pretty (j : Json) : String := prettyAt "" j

end CDecl.Json
