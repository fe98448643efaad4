import CDecl.Json.Reader
import CDecl.Syntax.Decode

/-!
# Tree documents

The text of a document as a value of a shape.
-/

namespace CDecl

/-- The number of lists and objects that may be open at once in a tree document. -/
def Json.documentDepth : Nat := 127

/-- Reads a document as a shape, or `none` when it is not JSON or not of that shape.  The bodies of
variants may be lists of their fields. -/
def Shape.ofDocument? (s : Shape) (document : String) : Option s.Value :=
  (Json.read Json.documentDepth document).bind fun j => j.view .objectOrList s

end CDecl
