import CDecl.Text.Visible

/-!
# Quoted characters and texts

The quoted form of a character stands between single quotes, that of a text between double quotes.
The quote itself and the backslash are escaped, and so is every hidden character: five of them by a
letter or digit of their own, the others by their code point in hexadecimal.
-/

namespace CDecl.Text

/-- The code point escape of a character, in lower case and without leading zeros. -/
def codePointEscape (c : Char) : String :=
  "\\u\x7b" ++ String.ofList (Nat.toDigits 16 c.toNat) ++ "\x7d"

/-- A character as it stands between two `quote` characters. -/
def escape (quote c : Char) : String :=
  if c = quote ∨ c = '\\' then String.ofList ['\\', c]
  else if c = '\x00' then "\\0"
  else if c = '\t' then "\\t"
  else if c = '\r' then "\\r"
  else if c = '\n' then "\\n"
  else if isVisible c then String.singleton c
  else codePointEscape c

/-- A character between single quotes. -/
def quoteChar (c : Char) : String := "'" ++ escape '\'' c ++ "'"

/-- A text between double quotes. -/
def quoteString (s : String) : String :=
  "\"" ++ String.join (s.toList.map (escape '"')) ++ "\""

end CDecl.Text
