import CDecl.Syntax.Shape

/-!
# Reading trees from documents

A document is read from the leaves up: each value becomes a `View`, the function that reads it as
any shape, and the view of a list or object is made of the views inside it.  `Form.read` holds the
rules.

* A record is an object whose keys are fields, in any order, each at most once; unknown keys are
  skipped.  It may also be the list of its fields in their order, where fields with a fallback may
  be left out at the end.
* A tuple is a list of exactly its parts.
* A variant is an object with its name as the only key.  A bare variant may also be its name alone.
* The body of a variant is an object like a record.  Whether it may also be the list of its fields
  is up to the `BodyForm` of the document.
-/

namespace CDecl

/-- A value that can be read as any shape. -/
abbrev View := (s : Shape) → Option s.Value

/-- The forms that the body of a variant may take. -/
inductive BodyForm where
  | object
  | objectOrList
deriving DecidableEq, Inhabited

/-- One level of a document: a value whose parts are views. -/
inductive Form where
  | atom (j : Json)
  | list (items : List View)
  | object (entries : List (String × View))

namespace Form

/-- Reads every item of a list as one shape. -/
def readItems (s : Shape) : List View → Option (List s.Value)
  | [] => some []
  | view :: views => do
      let first ← view s
      let rest ← readItems s views
      return first :: rest

/-- Reads the parts of a tuple, leaving none over. -/
def readParts : (parts : List Shape) → List View → Option (Parts parts)
  | [], [] => some ()
  | s :: parts, view :: views => do
      let first ← view s
      let rest ← readParts parts views
      return (first, rest)
  | _, _ => none

/-- Reads the fields of a record in their order; missing ones take their fallback. -/
def readInOrder : (fields : List Field) → List View → Option (Values fields)
  | [], [] => some ()
  | [], _ :: _ => none
  | f :: fields, [] => do
      let first ← f.fallback
      let rest ← readInOrder fields []
      return (first, rest)
  | f :: fields, view :: views => do
      let first ← view f.shape
      let rest ← readInOrder fields views
      return (first, rest)

/-- The views at a key. -/
def viewsAt (name : String) (entries : List (String × View)) : List View :=
  (entries.filter fun entry => entry.1 == name).map (·.2)

/-- Reads the fields of a record by their names; missing ones take their fallback. -/
def readByName (entries : List (String × View)) : (fields : List Field) → Option (Values fields)
  | [] => some ()
  | f :: fields => do
      let first ← match viewsAt f.name entries with
        | [] => f.fallback
        | [view] => view f.shape
        | _ => none
      let rest ← readByName entries fields
      return (first, rest)

/-- Reads the value of a variant. -/
def readVariant {α : Type} (view : View) : Variant α → Option α
  | .bare value => (view .nothing).map fun _ => value
  | .carrying s build => (view s).map build

/-- Reads a value along a layout. -/
def readLayout {α : Type} (bodies : BodyForm) : Form → Layout α → Option α
  | .atom j, .atom read => read j
  | .atom (.str name), .choice variants =>
      match variants.lookup name with
      | some (.bare value) => some value
      | _ => none
  | .list items, .record fields build => (readInOrder fields items).map build
  | .list items, .body fields build =>
      match bodies with
      | .object => none
      | .objectOrList => (readInOrder fields items).map build
  | .list items, .tuple parts build => (readParts parts items).map build
  | .object entries, .record fields build => (readByName entries fields).map build
  | .object entries, .body fields build => (readByName entries fields).map build
  | .object [(name, view)], .choice variants => (variants.lookup name).bind (readVariant view)
  | _, _ => none

/-- Reads a value as a shape. -/
def read (bodies : BodyForm) (form : Form) : View
  | .option s =>
      match form with
      | .atom .null => some none
      | form => (form.read bodies s).map some
  | .list s =>
      match form with
      | .list items => readItems s items
      | _ => none
  | s => form.readLayout bodies (.ofShape s)

end Form

namespace Json

mutual

/-- The view of a value. -/
def view (bodies : BodyForm) : Json → View
  | .arr items => Form.read bodies (.list (viewItems bodies items))
  | .obj entries => Form.read bodies (.object (viewEntries bodies entries))
  | .null => Form.read bodies (.atom .null)
  | .bool b => Form.read bodies (.atom (.bool b))
  | .int n => Form.read bodies (.atom (.int n))
  | .float x => Form.read bodies (.atom (.float x))
  | .str s => Form.read bodies (.atom (.str s))
  | .unreadable => Form.read bodies (.atom .unreadable)

/-- The views of the items of a list. -/
def viewItems (bodies : BodyForm) : List Json → List View
  | [] => []
  | j :: rest => view bodies j :: viewItems bodies rest

/-- The views of the entries of an object. -/
def viewEntries (bodies : BodyForm) : List (String × Json) → List (String × View)
  | [] => []
  | (key, j) :: rest => (key, view bodies j) :: viewEntries bodies rest

end

/-- Reads a value as a shape; the bodies of variants have to be objects. -/
def decode (s : Shape) (j : Json) : Option s.Value := j.view .object s

end Json

end CDecl
