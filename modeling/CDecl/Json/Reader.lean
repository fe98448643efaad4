import CDecl.Json.Token

/-!
# Reading JSON documents

A document is a single value with nothing but blanks around it.  Its tokens are taken one by one
against a stack of the lists and objects that are still open.  A list or object with more than
`depthLimit` open ones, itself among them, is checked like any other but has no value.
-/

namespace CDecl.Json

/-- A list or object that is still open; what it holds so far is reversed.  The entries of an object
are gone once one of its keys has no value. -/
inductive Frame where
  | list (items : List Json)
  | object (entries : Option (List (String × Json))) (key : Option String)

/-- What the next token may be. -/
inductive Expected where
  | value
  | valueOrClose
  | key
  | keyOrClose
  | colon
  | commaOrClose
  | nothing (document : Json)

/-- A document that has been read up to some token. -/
structure Progress where
  stack : List Frame := []
  expected : Expected := .value

namespace Progress

/-- Adds a complete value to whatever is open. -/
def put (p : Progress) (j : Json) : Progress :=
  match p.stack with
  | [] => ⟨[], .nothing j⟩
  | .list items :: outer => ⟨.list (j :: items) :: outer, .commaOrClose⟩
  | .object entries key :: outer =>
      let entries := match entries, key with
        | some entries, some key => some ((key, j) :: entries)
        | _, _ => none
      ⟨.object entries none :: outer, .commaOrClose⟩

/-- The value of a frame that closes now. -/
def frameValue : Frame → Json
  | .list items => .arr items.reverse
  | .object (some entries) _ => .obj entries.reverse
  | .object none _ => .unreadable

/-- Closes the innermost frame. -/
def close (depthLimit : Nat) (p : Progress) (f : Frame) (outer : List Frame) : Progress :=
  let j := if p.stack.length ≤ depthLimit then frameValue f else .unreadable
  put ⟨outer, .value⟩ j

/-- Takes the key of the next entry. -/
def putKey (p : Progress) (key : Option String) : Option Progress :=
  match p.stack with
  | .object entries _ :: outer =>
      let entries := if key.isSome then entries else none
      some ⟨.object entries key :: outer, .colon⟩
  | _ => none

/-- Begins a value with its first token. -/
def beginValue (p : Progress) : Token → Option Progress
  | .openList => some ⟨.list [] :: p.stack, .valueOrClose⟩
  | .openObject => some ⟨.object (some []) none :: p.stack, .keyOrClose⟩
  | .text (some s) => some (p.put (.str s))
  | .text none => some (p.put .unreadable)
  | .value j => some (p.put j)
  | _ => none

/-- Takes a closing token, which has to fit the innermost frame. -/
def tryClose (depthLimit : Nat) (p : Progress) (t : Token) : Option Progress :=
  match t, p.stack with
  | .closeList, f@(.list _) :: outer => some (p.close depthLimit f outer)
  | .closeObject, f@(.object _ _) :: outer => some (p.close depthLimit f outer)
  | _, _ => none

/-- What follows a comma in the innermost frame. -/
def afterComma (p : Progress) : Option Progress :=
  match p.stack with
  | .list _ :: _ => some { p with expected := .value }
  | .object _ _ :: _ => some { p with expected := .key }
  | [] => none

/-- Takes one token. -/
def step (depthLimit : Nat) (p : Progress) (t : Token) : Option Progress :=
  match p.expected, t with
  | .value, t => p.beginValue t
  | .valueOrClose, .closeList => p.tryClose depthLimit .closeList
  | .valueOrClose, t => p.beginValue t
  | .key, .text s => p.putKey s
  | .keyOrClose, .text s => p.putKey s
  | .keyOrClose, .closeObject => p.tryClose depthLimit .closeObject
  | .colon, .colon => some { p with expected := .value }
  | .commaOrClose, .comma => p.afterComma
  | .commaOrClose, t => p.tryClose depthLimit t
  | _, _ => none

/-- The document, once it is complete. -/
def document? (p : Progress) : Option Json :=
  match p.expected with
  | .nothing document => some document
  | _ => none

end Progress

/-- The value of a document, or `none` when it is not JSON. -/
def read (depthLimit : Nat) (document : String) : Option Json := do
  let tokens ← tokens? document.toList
  let p ← tokens.foldlM (Progress.step depthLimit) {}
  p.document?

end CDecl.Json
