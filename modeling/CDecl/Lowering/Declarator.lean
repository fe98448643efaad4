import CDecl.Lowering.Scalar

/-!
# Specifiers and declarators

A specifier list builds a descriptor, and each declarator behind it turns a copy of that descriptor
into an entity.

A declarator is read from the outside in.  Pointer markers add to the pointers of the entity built
so far, array brackets put their dimension in front of its dimensions, and a function suffix makes
all of it the return value of a function, with which the reading goes on.  The name ends it.  So
`int (*f(void))[3]` first gets the dimension 3, then a pointer, and then becomes what `f` returns.

The functions below call one another: specifiers hold records, records hold members, members and
parameters hold specifiers and declarators, and declarators hold parameter lists.
-/

namespace CDecl

/-- What a specifier list says: a descriptor and, if there is one, the last storage class. -/
structure Specified where
  descriptor : Descriptor := .scalar {}
  storage : Option StorageClass := none

namespace Lower

/-- Adds pointer markers to an entity. -/
def pointers (markers : List PointerMarker) (e : Entity) : Lower Entity :=
  match markers with
  | [] => pure e
  | markers => do
      let added := UInt32.ofNat markers.length
      let total := e.pointers + added
      note (.pointersAdded added total)
      return { e with pointers := total }

/-- The dimension of a bound: its value, or its text unless the value is an integer from zero on. -/
def boundDimension (ev : Evaluator) (bound : Expr) : Lower Dimension := do
  match (← evaluate ev bound).bind Value.int? with
  | some n => if 0 ≤ n then return .known n.toUInt64 else return .symbolic (ev.render bound)
  | none => return .symbolic (ev.render bound)

/-- The dimension of array brackets; `code` and `location` are those of the array. -/
def dimension (ev : Evaluator) (size : ArraySize) (code : GrammarCase) (location : Span) :
    Lower Dimension := do
  match size with
  | .sized none => return .unsized
  | .sized (some bound) => boundDimension ev bound
  | .static bound | .qualifiedStatic bound =>
      unsupported .staticArrayQualifier code location
      boundDimension ev bound
  | .star =>
      unsupported .variableLengthArray code location
      return .unsized

/-- Puts a dimension in front of those of an entity. -/
def prependDimension (d : Dimension) (e : Entity) : Lower Entity := do
  note (.dimensionAdded d)
  return { e with arrays := d :: e.arrays }

/-- The member that a member declaration without declarators declares: the untagged record that its
specifiers define, if they do. -/
def anonymousMember (base : Descriptor) (location : Span) : Lower (List Entity) := do
  match base with
  | .aggregate ⟨none, _, _⟩ => return [{ Entity.ofType base with span := location }]
  | _ =>
      remark "member declaration does not declare anything" location
      return []

mutual

/-- Applies the elements of a declaration's specifier list to what those before them built. -/
def specifiers (ev : Evaluator) : List DeclarationSpecifier → Specified → Lower Specified
  | [], built => pure built
  | .storageClass s :: rest, built => do
      note (.storageClass s.kind)
      specifiers ev rest { built with storage := some s.kind }
  | .type t :: rest, built => do
      let descriptor ← typeSpecifier ev t built.descriptor
      specifiers ev rest { built with descriptor }
  | .qualifier q :: rest, built => do
      let descriptor ← qualifier q built.descriptor
      specifiers ev rest { built with descriptor }
  | .function f :: rest, built => do
      unsupported .functionSpecifier (DeclarationSpecifier.function f).grammar f.span
      specifiers ev rest built

/-- Applies the elements of a member's specifier list to what those before them built. -/
def memberSpecifiers (ev : Evaluator) : List MemberSpecifier → Descriptor → Lower Descriptor
  | [], built => pure built
  | .type t :: rest, built => do
      let descriptor ← typeSpecifier ev t built
      memberSpecifiers ev rest descriptor
  | .qualifier q :: rest, built => do
      let descriptor ← qualifier q built
      memberSpecifiers ev rest descriptor

/-- Applies a type specifier.  A record takes the place of whatever was built before it. -/
def typeSpecifier (ev : Evaluator) : TypeSpecifier → Descriptor → Lower Descriptor
  | ⟨.keyword k, span⟩, built => changeScalar (·.add k) span built
  | ⟨.record r, _⟩, _ => do return .aggregate (← record ev r)
  | ⟨.enum e, span⟩, built => do
      unsupported .enumeration (TypeSpecifier.mk (.enum e) span).grammar span
      return built
  | ⟨.typedefName name, span⟩, built =>
      changeScalar (fun s => { s with base := some (.named name) }) span built

/-- The record of a record specifier.  A definition is recorded under its tag once its members are
complete; a bare reference is not. -/
def record (ev : Evaluator) : RecordSpecifier → Lower Aggregate
  | ⟨kind, tag, none, _⟩ => do
      let a : Aggregate := ⟨tag.map (·.name), kind == .union, []⟩
      note (.recordReferenced a)
      return a
  | ⟨kind, tag, some declarations, _⟩ => do
      let entities ← members ev declarations
      let a : Aggregate := ⟨tag.map (·.name), kind == .union, entities⟩
      -- Tagged records among the members have been recorded by now, so they come first.
      note (.recordDefined a)
      recordTag a
      return a

/-- The members of a record body. -/
def members (ev : Evaluator) : List MemberDeclaration → Lower (List Entity)
  | [] => pure []
  | ⟨specs, [], span⟩ :: rest => do
      let base ← memberSpecifiers ev specs (.scalar {})
      let here ← anonymousMember base span
      return here ++ (← members ev rest)
  | ⟨specs, d :: declarators, _⟩ :: rest => do
      let base ← memberSpecifiers ev specs (.scalar {})
      let here ← memberDeclarators ev base (d :: declarators)
      return here ++ (← members ev rest)

/-- The members that the declarators of one member declaration declare; bit-fields are left out. -/
def memberDeclarators (ev : Evaluator) (base : Descriptor) :
    List MemberDeclarator → Lower (List Entity)
  | [] => pure []
  | .declarator d :: rest => do
      let e ← declarator ev d (.ofType base)
      return e :: (← memberDeclarators ev base rest)
  | .bitField d width span :: rest => do
      unsupported .bitField (MemberDeclarator.bitField d width span).grammar span
      memberDeclarators ev base rest

/-- Applies a declarator to the entity built so far. -/
def declarator (ev : Evaluator) : Declarator → Entity → Lower Entity
  | ⟨markers, direct, _⟩, e => do
      let e ← pointers markers e
      directDeclarator ev direct e

/-- Applies a direct declarator to the entity built so far. -/
def directDeclarator (ev : Evaluator) : DirectDeclarator → Entity → Lower Entity
  | .identifier ⟨name, span⟩, e => do
      note (.nameReached name)
      return { e with name, span }
  | .paren inner, e => declarator ev inner { e with span := inner.span }
  | .array inner qualifiers size span, e => do
      let code := (DirectDeclarator.array inner qualifiers size span).grammar
      let d ← dimension ev size code span
      let e ← prependDimension d { e with span }
      directDeclarator ev inner e
  | .function inner suffix span, e => do
      -- All that has been read so far is what the function returns.
      let returns := { e with span }
      note (.functionWrapped returns)
      let (params, variadic) ← functionSuffix ev suffix span
      directDeclarator ev inner { Entity.ofType (.function ⟨returns, params, variadic⟩) with span }

/-- The parameters of a function suffix and whether more may follow; an old style list has none. -/
def functionSuffix (ev : Evaluator) : FunctionSuffix → Span → Lower (List Entity × Bool)
  | .parameters list, _ => do return (← parameterList ev list, list.variadic)
  | .identifiers names, location => do
      unsupported .oldStyleParameters (FunctionSuffix.identifiers names).grammar location
      return ([], false)

/-- The parameters of a parameter list; `(void)` has none. -/
def parameterList (ev : Evaluator) : ParameterTypeList → Lower (List Entity)
  | ⟨params, variadic, span⟩ =>
      if (ParameterTypeList.mk params variadic span).isVoid then pure []
      else parameters ev params

/-- The named parameters among those given; the others are reported and left out. -/
def parameters (ev : Evaluator) : List ParameterDeclaration → Lower (List Entity)
  | [] => pure []
  | .named specs d _ :: rest => do
      let built ← specifiers ev specs {}
      let e ← declarator ev d (.ofType built.descriptor)
      return { e with storage := built.storage } :: (← parameters ev rest)
  | .abstract specs d span :: rest => do
      unsupported .abstractDeclarator (ParameterDeclaration.abstract specs d span).grammar span
      parameters ev rest

end

end Lower

end CDecl
