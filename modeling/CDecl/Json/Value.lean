/-!
# JSON values

The values of JSON documents.  A number without fraction and exponent is kept as a whole number,
every other one as a binary64 number.  The entries of an object keep their order and their repeats.
-/

namespace CDecl

/-- A JSON value.  `unreadable` stands for a well-formed piece of a document that has no value: a
number too large for binary64, a text with half a surrogate pair, or a piece nested too deeply. -/
inductive Json where
  | null
  | bool (b : Bool)
  | int (n : Int)
  | float (x : Float)
  | str (s : String)
  | arr (items : List Json)
  | obj (entries : List (String × Json))
  | unreadable
deriving Inhabited

namespace Json

/-- Whether a value is `null`. -/
def isNull : Json → Bool
  | .null => true
  | _ => false

/-- An optional value, absence being `null`. -/
def ofOption {α : Type} (f : α → Json) : Option α → Json
  | none => .null
  | some a => f a

/-- A list of values. -/
def ofList {α : Type} (f : α → Json) (items : List α) : Json := .arr (items.map f)

end Json

end CDecl
