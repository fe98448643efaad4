import CDecl.Lowering.Session

/-!
# The sites of a tree

Lowering walks through the tree in a fixed order.  It comes to the elements of specifier lists from
left to right and enters a record definition where it meets it; then it comes to the declarators, and
takes each of them from the outside in, with its pointer markers first and its parameters where it
meets a function suffix.  It never enters the inside of a bit-field, an enumeration, an abstract
parameter, the list `(void)`, an initializer or old style declarations.

`TranslationUnit.sites` lists the places of this walk.  It looks at nothing but the tree, so that what
goes wrong at a site (`Site.mismatch?`) and what is reported there (`Site.finding?`) do not depend on
symbols, tags or values.
-/

namespace CDecl

/-! ### Specifier lists -/

/-- An element of a member's specifier list as one of a declaration's. -/
def MemberSpecifier.toDeclarationSpecifier : MemberSpecifier → DeclarationSpecifier
  | .type t => .type t
  | .qualifier q => .qualifier q

namespace DeclarationSpecifier

/-- The record specifier in an element of a specifier list. -/
def record? : DeclarationSpecifier → Option RecordSpecifier
  | .type ⟨.record r, _⟩ => some r
  | _ => none

/-- Whether an element is a keyword or a typedef name, which only a scalar can take. -/
def asksForScalar : DeclarationSpecifier → Bool
  | .type ⟨.keyword _, _⟩ | .type ⟨.typedefName _, _⟩ => true
  | _ => false

end DeclarationSpecifier

/-- The last record specifier of a specifier list. -/
def lastRecord? (specs : List DeclarationSpecifier) : Option RecordSpecifier :=
  specs.reverse.findSome? DeclarationSpecifier.record?

/-- A further element takes the place of the last record if it is a record itself. -/
theorem lastRecord?_append_singleton (specs : List DeclarationSpecifier)
    (s : DeclarationSpecifier) :
    lastRecord? (specs ++ [s]) = s.record?.or (lastRecord? specs) := by
  simp only [lastRecord?, List.reverse_append, List.reverse_singleton, List.singleton_append,
    List.findSome?_cons]
  cases s.record? <;> rfl

/-- Whether a member declaration without declarators declares a member all the same: its specifiers
end up at a record without a tag. -/
def MemberDeclaration.isAnonymous (m : MemberDeclaration) : Bool :=
  match lastRecord? (m.specifiers.map MemberSpecifier.toDeclarationSpecifier) with
  | some r => r.tag.isNone
  | none => false

/-! ### Sites -/

/-- A place that lowering comes to.  An element of a specifier list comes with those before it; a
declaration, a definition and a member declaration stand for the place behind their specifiers. -/
inductive Site where
  | specifier (before : List DeclarationSpecifier) (s : DeclarationSpecifier)
  | marker (m : PointerMarker)
  | direct (d : DirectDeclarator)
  | parameter (p : ParameterDeclaration)
  | member (m : MemberDeclaration)
  | memberDeclarator (d : MemberDeclarator)
  | declaration (d : Declaration)
  | definition (d : FunctionDefinition)
  | initializer (i : Initializer)

mutual

/-- The sites of a declaration's specifier list that stands behind `before`. -/
def specifierSites (before : List DeclarationSpecifier) : List DeclarationSpecifier → List Site
  | [] => []
  | .type t :: rest =>
      .specifier before (.type t) :: typeSites t ++ specifierSites (before ++ [.type t]) rest
  | s :: rest => .specifier before s :: specifierSites (before ++ [s]) rest

/-- The sites of a member's specifier list that stands behind `before`. -/
def memberSpecifierSites (before : List DeclarationSpecifier) : List MemberSpecifier → List Site
  | [] => []
  | .type t :: rest =>
      .specifier before (.type t) :: typeSites t ++ memberSpecifierSites (before ++ [.type t]) rest
  | .qualifier q :: rest =>
      .specifier before (.qualifier q) :: memberSpecifierSites (before ++ [.qualifier q]) rest

/-- The sites inside a type specifier. -/
def typeSites : TypeSpecifier → List Site
  | ⟨.record r, _⟩ => recordSites r
  | ⟨.keyword _, _⟩ | ⟨.enum _, _⟩ | ⟨.typedefName _, _⟩ => []

/-- The sites inside a record specifier. -/
def recordSites : RecordSpecifier → List Site
  | ⟨_, _, none, _⟩ => []
  | ⟨_, _, some declarations, _⟩ => memberSites declarations

/-- The sites of member declarations. -/
def memberSites : List MemberDeclaration → List Site
  | [] => []
  | ⟨specs, declarators, span⟩ :: rest =>
      memberSpecifierSites [] specs ++
        .member ⟨specs, declarators, span⟩ :: memberDeclaratorSites declarators ++ memberSites rest

/-- The sites of member declarators. -/
def memberDeclaratorSites : List MemberDeclarator → List Site
  | [] => []
  | .declarator d :: rest =>
      .memberDeclarator (.declarator d) :: declaratorSites d ++ memberDeclaratorSites rest
  | .bitField d width span :: rest =>
      .memberDeclarator (.bitField d width span) :: memberDeclaratorSites rest

/-- The sites of a declarator. -/
def declaratorSites : Declarator → List Site
  | ⟨markers, direct, _⟩ => markers.map .marker ++ directSites direct

/-- The sites of a direct declarator, from the outside in. -/
def directSites : DirectDeclarator → List Site
  | .identifier name => [.direct (.identifier name)]
  | .paren inner => .direct (.paren inner) :: declaratorSites inner
  | .array inner qualifiers size span =>
      .direct (.array inner qualifiers size span) :: directSites inner
  | .function inner suffix span =>
      .direct (.function inner suffix span) :: suffixSites suffix ++ directSites inner

/-- The sites inside a function suffix. -/
def suffixSites : FunctionSuffix → List Site
  | .parameters list => parameterListSites list
  | .identifiers _ => []

/-- The sites of a parameter list. -/
def parameterListSites : ParameterTypeList → List Site
  | ⟨params, variadic, span⟩ =>
      if (ParameterTypeList.mk params variadic span).isVoid then [] else parameterSites params

/-- The sites of parameters. -/
def parameterSites : List ParameterDeclaration → List Site
  | [] => []
  | .named specs d span :: rest =>
      .parameter (.named specs d span) :: specifierSites [] specs ++ declaratorSites d ++
        parameterSites rest
  | .abstract specs d span :: rest =>
      .parameter (.abstract specs d span) :: parameterSites rest

end

/-- The sites of a declarator and its initializer. -/
def InitDeclarator.sites (d : InitDeclarator) : List Site :=
  declaratorSites d.declarator ++ (d.initializer.map Site.initializer).toList

/-- The sites of a declaration or a definition. -/
def ExternalDeclaration.sites : ExternalDeclaration → List Site
  | .declaration d =>
      specifierSites [] d.specifiers ++
        .declaration d :: d.initDeclarators.flatMap InitDeclarator.sites
  | .definition d =>
      specifierSites [] d.specifiers ++ .definition d :: declaratorSites d.declarator

/-- The sites of a unit and of every unit chained after it. -/
def TranslationUnit.sites (u : TranslationUnit) : List Site :=
  u.units.flatMap fun items => items.flatMap ExternalDeclaration.sites

/-! ### Mismatches and findings -/

/-- Something that is left out, or remarked on. -/
inductive Finding where
  | unsupported (construct : Unsupported) (code : GrammarCase) (location : Span)
  | remark (message : String) (location : Span)

namespace Finding

/-- The diagnostic of a finding under a policy, if it is collected. -/
def diagnostic? (policy : WarningPolicy) : Finding → Option Diagnostic
  | .unsupported construct code location =>
      policy.level?.map fun level => ⟨level, construct.message, location, some code⟩
  | .remark message location => some ⟨.note, message, location, none⟩

/-- The diagnostic of a finding when no warning option is given. -/
def diagnostic : Finding → Diagnostic
  | .unsupported construct code location => ⟨.warning, construct.message, location, some code⟩
  | .remark message location => ⟨.note, message, location, none⟩

/-- Without warning options every finding is collected. -/
theorem diagnostic?_default (f : Finding) : f.diagnostic? {} = some f.diagnostic := by
  cases f <;> rfl

end Finding

namespace Site

/-- The mismatch at a site: a keyword or typedef name behind a record in its list. -/
def mismatch? : Site → Option ShapeMismatch
  | .specifier before s =>
      if s.asksForScalar && before.any (·.record?.isSome) then some ⟨.aggregate, s.span⟩ else none
  | _ => none

/-- What is found at a site, if anything. -/
def finding? : Site → Option Finding
  | .specifier _ (.function f) =>
      some (.unsupported .functionSpecifier (DeclarationSpecifier.function f).grammar f.span)
  | .specifier _ (.type ⟨.enum e, span⟩) =>
      some (.unsupported .enumeration (TypeSpecifier.mk (.enum e) span).grammar span)
  | .specifier _ (.qualifier q) =>
      if q.kind = .atomic then some (.unsupported .atomicQualifier q.grammar q.span) else none
  | .member m =>
      if m.declarators.isEmpty && !m.isAnonymous then
        some (.remark "member declaration does not declare anything" m.span)
      else none
  | .memberDeclarator (.bitField d width span) =>
      some (.unsupported .bitField (MemberDeclarator.bitField d width span).grammar span)
  | .direct (.array inner qualifiers (.static bound) span) =>
      some (.unsupported .staticArrayQualifier
        (DirectDeclarator.array inner qualifiers (.static bound) span).grammar span)
  | .direct (.array inner qualifiers (.qualifiedStatic bound) span) =>
      some (.unsupported .staticArrayQualifier
        (DirectDeclarator.array inner qualifiers (.qualifiedStatic bound) span).grammar span)
  | .direct (.array inner qualifiers .star span) =>
      some (.unsupported .variableLengthArray
        (DirectDeclarator.array inner qualifiers .star span).grammar span)
  | .direct (.function _ (.identifiers names) span) =>
      some (.unsupported .oldStyleParameters (FunctionSuffix.identifiers names).grammar span)
  | .parameter (.abstract specs d span) =>
      some (.unsupported .abstractDeclarator
        (ParameterDeclaration.abstract specs d span).grammar span)
  | .declaration d =>
      if d.initDeclarators.isEmpty then
        some (.remark "declaration does not declare an identifier" d.span)
      else none
  | .definition d =>
      if d.declarations.isEmpty then none
      else some (.unsupported .oldStyleDeclarations d.grammar d.span)
  | .initializer (.list items trailingComma span) =>
      some (.unsupported .initializerList (Initializer.list items trailingComma span).grammar span)
  | _ => none

/-- The diagnostic at a site under a policy, if there is one. -/
def diagnostic? (policy : WarningPolicy) (site : Site) : Option Diagnostic :=
  site.finding?.bind (Finding.diagnostic? policy)

/-- Without warning options whatever is found has a diagnostic. -/
theorem diagnostic?_default (site : Site) :
    site.diagnostic? {} = site.finding?.map Finding.diagnostic := by
  rw [diagnostic?]
  cases site.finding? with
  | none => rfl
  | some f => exact f.diagnostic?_default

end Site

end CDecl
