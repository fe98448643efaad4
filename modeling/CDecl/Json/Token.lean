import CDecl.Decimal.Reading
import CDecl.Json.Value

/-!
# Tokens of JSON documents

A document is cut into tokens by a machine that takes one character at a time.  It refuses what no
JSON token allows: unknown words, malformed numbers, unknown escapes, control characters inside a
text, and anything but the four blanks between tokens.
-/

namespace CDecl.Json

/-- The pieces of a JSON document.  A text is `none` when it holds half a surrogate pair. -/
inductive Token where
  | openList
  | closeList
  | openObject
  | closeObject
  | colon
  | comma
  | text (s : Option String)
  | value (j : Json)

/-! ### Numbers -/

/-- A run of decimal digits as a whole number. -/
def digitsValue (digits : List Char) : Nat :=
  digits.foldl (fun n c => n * 10 + (c.toNat - '0'.toNat)) 0

/-- Whether digits may stand before a point: at least one, and no zero in front of another. -/
def isWholePart : List Char → Bool
  | [] => false
  | ['0'] => true
  | c :: _ => c != '0'

/-- The exponent at the end of a number, zero when there is none. -/
def readExponent : List Char → Option Int
  | [] => some 0
  | c :: rest =>
      if c != 'e' && c != 'E' then none
      else
        let (negative, digits) := match rest with
          | '-' :: digits => (true, digits)
          | '+' :: digits => (false, digits)
          | digits => (false, digits)
        if digits.isEmpty || !digits.all Char.isDigit then none
        else some (if negative then -(digitsValue digits : Int) else digitsValue digits)

/-- A numeral that has to become a binary64 number. -/
def floatValue (n : Decimal.Numeral) : Json :=
  match n.toFloat? with
  | some x => .float x
  | none => .unreadable

/-- The value of a numeral without point and exponent: a whole number when it fits 64 bits, and
otherwise, or when it is a negative zero, a binary64 number. -/
def wholeValue (negative : Bool) (digits : List Char) : Json :=
  let n := digitsValue digits
  -- Negative numbers have half the range, and a negative zero needs a sign of its own.
  let fits := if negative then 0 < n && n ≤ UInt64.size / 2 else n < UInt64.size
  if fits then .int (if negative then -(n : Int) else n)
  else floatValue ⟨negative, digits, [], 0⟩

/-- The value of a number token, if it is well formed. -/
def readNumber (chars : List Char) : Option Json :=
  let (negative, chars) := match chars with
    | '-' :: rest => (true, rest)
    | chars => (false, chars)
  let whole := chars.takeWhile Char.isDigit
  if !isWholePart whole then none
  else match chars.dropWhile Char.isDigit with
    | [] => some (wholeValue negative whole)
    | '.' :: rest =>
        let fraction := rest.takeWhile Char.isDigit
        if fraction.isEmpty then none
        else (readExponent (rest.dropWhile Char.isDigit)).map fun exponent =>
          floatValue ⟨negative, whole, fraction, exponent⟩
    | rest => (readExponent rest).map fun exponent =>
        floatValue ⟨negative, whole, [], exponent⟩

/-! ### Words -/

/-- The value of a word token. -/
def readWord (letters : List Char) : Option Json :=
  match String.ofList letters with
  | "null" => some .null
  | "true" => some (.bool true)
  | "false" => some (.bool false)
  | _ => none

/-! ### Texts -/

/-- How far an escape inside a text has been read. -/
inductive Escape where
  | outside
  | started
  | hex (left value : Nat)

/-- A text whose closing quote has not been met.  `chars` is reversed, `high` holds the first half
of a surrogate pair, and `sound` is lost with the first half pair that stays alone. -/
structure OpenText where
  chars : List Char := []
  sound : Bool := true
  high : Option Nat := none
  escape : Escape := .outside

namespace OpenText

/-- Appends a character that is no half of a pair. -/
def push (t : OpenText) (c : Char) : OpenText :=
  { chars := c :: t.chars, sound := t.sound && t.high.isNone }

/-- Appends the code unit of a completed four digit escape. -/
def pushUnit (t : OpenText) (unit : Nat) : OpenText :=
  if 0xD800 ≤ unit ∧ unit < 0xDC00 then
    { t with sound := t.sound && t.high.isNone, high := some unit, escape := .outside }
  else if 0xDC00 ≤ unit ∧ unit < 0xE000 then
    match t.high with
    | some high =>
        let code := 0x10000 + (high - 0xD800) * 0x400 + (unit - 0xDC00)
        { chars := Char.ofNat code :: t.chars, sound := t.sound }
    -- The second half of a pair whose first half is missing.
    | none => { t with sound := false, escape := .outside }
  else t.push (Char.ofNat unit)

/-- The value of a hexadecimal digit. -/
def hexValue? (c : Char) : Option Nat :=
  if '0' ≤ c ∧ c ≤ '9' then some (c.toNat - '0'.toNat)
  else if 'a' ≤ c ∧ c ≤ 'f' then some (c.toNat - 'a'.toNat + 10)
  else if 'A' ≤ c ∧ c ≤ 'F' then some (c.toNat - 'A'.toNat + 10)
  else none

/-- The character that a one letter escape stands for. -/
def escaped? : Char → Option Char
  | '"' => some '"'
  | '\\' => some '\\'
  | '/' => some '/'
  | 'b' => some '\x08'
  | 'f' => some '\x0c'
  | 'n' => some '\n'
  | 'r' => some '\r'
  | 't' => some '\t'
  | _ => none

/-- Takes one character other than the closing quote. -/
def step (t : OpenText) (c : Char) : Option OpenText :=
  match t.escape with
  | .outside =>
      if c = '\\' then some { t with escape := .started }
      else if c.toNat < 0x20 then none
      else some (t.push c)
  | .started =>
      if c = 'u' then some { t with escape := .hex 4 0 }
      else (escaped? c).map t.push
  | .hex left value =>
      (hexValue? c).map fun digit =>
        let value := value * 16 + digit
        if left ≤ 1 then t.pushUnit value else { t with escape := .hex (left - 1) value }

/-- Whether a quote would end the text here. -/
def mayClose (t : OpenText) : Bool :=
  match t.escape with
  | .outside => true
  | _ => false

/-- The finished text. -/
def close (t : OpenText) : Token :=
  .text (if t.sound && t.high.isNone then some (String.ofList t.chars.reverse) else none)

end OpenText

/-! ### The machine -/

/-- What the machine is reading; the characters of words and numbers are reversed. -/
inductive Mode where
  | between
  | word (letters : List Char)
  | number (chars : List Char)
  | text (t : OpenText)

/-- The tokens completed so far, and what is being read. -/
structure Scan where
  tokens : Array Token := #[]
  mode : Mode := .between

namespace Scan

/-- Whether a character belongs to a number that has begun. -/
def isNumberChar (c : Char) : Bool :=
  c.isDigit || c == '.' || c == 'e' || c == 'E' || c == '+' || c == '-'

/-- Adds a token and returns to the space between tokens. -/
def emit (s : Scan) (t : Token) : Scan := ⟨s.tokens.push t, .between⟩

/-- Begins a new token, or skips a blank. -/
def start (s : Scan) (c : Char) : Option Scan :=
  match c with
  | ' ' | '\t' | '\n' | '\r' => some { s with mode := .between }
  | '[' => some (s.emit .openList)
  | ']' => some (s.emit .closeList)
  | '\x7b' => some (s.emit .openObject)
  | '\x7d' => some (s.emit .closeObject)
  | ':' => some (s.emit .colon)
  | ',' => some (s.emit .comma)
  | '"' => some { s with mode := .text {} }
  | c =>
      if c.isDigit || c == '-' then some { s with mode := .number [c] }
      else if c.isLower then some { s with mode := .word [c] }
      else none

/-- Completes a word or number; a text cannot end here. -/
def finish (s : Scan) : Option Scan :=
  match s.mode with
  | .between => some s
  | .word letters => (readWord letters.reverse).map fun j => s.emit (.value j)
  | .number chars => (readNumber chars.reverse).map fun j => s.emit (.value j)
  | .text _ => none

/-- Takes one character. -/
def step (s : Scan) (c : Char) : Option Scan :=
  match s.mode with
  | .between => s.start c
  | .word letters =>
      if c.isLower then some { s with mode := .word (c :: letters) }
      else s.finish.bind (·.start c)
  | .number chars =>
      if isNumberChar c then some { s with mode := .number (c :: chars) }
      else s.finish.bind (·.start c)
  | .text t =>
      if c = '"' && t.mayClose then some (s.emit t.close)
      else (t.step c).map fun t => { s with mode := .text t }

end Scan

/-- The tokens of a document, or `none` when it is not made of tokens. -/
def tokens? (chars : List Char) : Option (List Token) :=
  ((chars.foldlM Scan.step {}).bind Scan.finish).map (·.tokens.toList)

end CDecl.Json
