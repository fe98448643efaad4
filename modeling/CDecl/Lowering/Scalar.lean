import CDecl.Lowering.Context

/-!
# Putting a scalar together

Keywords and qualifiers are applied in the order in which they stand, each to what the ones before
it have built.  A later base replaces an earlier one, and the last qualifier alone decides about
`const`.
-/

namespace CDecl

/-- A scalar with one more keyword.  The second `long` makes the base `long`. -/
def Scalar.add (s : Scalar) : ScalarKeyword → Scalar
  | .void => { s with base := some .void }
  | .char => { s with base := some .char }
  | .short => { s with short := true }
  | .int => { s with base := some .int }
  | .long => if s.long then { s with base := some .long } else { s with long := true }
  | .float => { s with base := some .float }
  | .double => { s with base := some .double }
  | .signed => s
  | .unsigned => { s with unsigned := true }
  | .bool => { s with base := some .bool }
  | .complex => { s with base := some .complex }

namespace Lower

/-- Changes the scalar of a descriptor, which has to be one. -/
def changeScalar (change : Scalar → Scalar) (location : Span) : Descriptor → Lower Descriptor
  | .scalar s => pure (.scalar (change s))
  | d => throw ⟨d.kind, location⟩

/-- Applies a qualifier; on a record it has no effect. -/
def qualifier (q : TypeQualifier) (d : Descriptor) : Lower Descriptor := do
  if q.kind = .atomic then
    unsupported .atomicQualifier q.grammar q.span
  match d with
  | .scalar s => return .scalar { s with isConst := q.kind == .const }
  | d =>
      note (.qualifierIgnored q.kind d.kind)
      return d

end Lower

end CDecl
