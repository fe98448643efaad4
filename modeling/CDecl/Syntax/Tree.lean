import CDecl.Syntax.Expr

/-!
# The declaration tree

The parse tree of C declarations: specifiers, declarators, records, parameter lists and
initializers. It is assumed to come from a parser, so it may hold anything the grammar derives.

Pointer markers in front of a declarator are a list, read from left to right.  Translation units are
chained: each one holds its own items and, if there is one, the next unit.
-/

namespace CDecl

/-- A name and where it stands. -/
structure Identifier where
  name : String
  span : Span
deriving DecidableEq, Inhabited

/-! ### Leaves of a specifier list -/

/-- The storage classes. -/
inductive StorageClass where
  | typedef
  | external
  | static
  | auto
  | register
deriving DecidableEq, Inhabited

/-- How a storage class is written. -/
def StorageClass.keyword : StorageClass → String
  | .typedef => "typedef"
  | .external => "extern"
  | .static => "static"
  | .auto => "auto"
  | .register => "register"

/-- A storage class in a specifier list. -/
structure StorageClassSpecifier where
  kind : StorageClass
  span : Span
deriving DecidableEq, Inhabited

/-- The function specifiers. -/
inductive FunctionSpecifierKind where
  | inline
  | noreturn
deriving DecidableEq, Inhabited

/-- A function specifier in a specifier list. -/
structure FunctionSpecifier where
  kind : FunctionSpecifierKind
  span : Span
deriving DecidableEq, Inhabited

/-- The type qualifiers. -/
inductive QualifierKind where
  | const
  | restrict
  | volatile
  | atomic
deriving DecidableEq, Inhabited

/-- A type qualifier in a specifier list, behind a pointer marker or in array brackets. -/
structure TypeQualifier where
  kind : QualifierKind
  span : Span
deriving DecidableEq, Inhabited

/-- The keywords that a scalar type is put together from. -/
inductive ScalarKeyword where
  | void
  | char
  | short
  | int
  | long
  | float
  | double
  | signed
  | unsigned
  | bool
  | complex
deriving DecidableEq, Inhabited

/-- Whether a record keeps its members side by side or in one place. -/
inductive RecordKind where
  | struct
  | union
deriving DecidableEq, Inhabited

/-- A constant of an enumeration. -/
structure Enumerator where
  name : Identifier
  value : Option Expr
deriving Inhabited

/-- An enumeration specifier; without enumerators it is a bare reference. -/
structure EnumSpecifier where
  tag : Option Identifier
  enumerators : Option (List Enumerator)
  span : Span
deriving Inhabited

/-! ### Leaves of a declarator -/

/-- One `*` of a declarator with the qualifiers behind it. -/
structure PointerMarker where
  qualifiers : List TypeQualifier
  span : Span
deriving DecidableEq, Inhabited

/-- What stands between array brackets, qualifiers apart: `[e]` or `[]`, `[static e]`,
`[const static e]`, `[*]`. -/
inductive ArraySize where
  | sized (bound : Option Expr)
  | static (bound : Expr)
  | qualifiedStatic (bound : Expr)
  | star
deriving Inhabited

/-! ### Specifiers, declarators, records and parameters -/

mutual

/-- A type specifier and where it stands. -/
structure TypeSpecifier where
  kind : TypeSpecifierKind
  span : Span

/-- The forms of a type specifier. -/
inductive TypeSpecifierKind where
  | keyword (k : ScalarKeyword)
  | record (r : RecordSpecifier)
  | enum (e : EnumSpecifier)
  | typedefName (name : String)

/-- A structure or union specifier; without members it is a bare reference. -/
structure RecordSpecifier where
  kind : RecordKind
  tag : Option Identifier
  members : Option (List MemberDeclaration)
  span : Span

/-- A member declaration; without declarators it declares an anonymous member or nothing. -/
structure MemberDeclaration where
  specifiers : List MemberSpecifier
  declarators : List MemberDeclarator
  span : Span

/-- An element of the specifier list of a member declaration. -/
inductive MemberSpecifier where
  | type (t : TypeSpecifier)
  | qualifier (q : TypeQualifier)

/-- A member: an ordinary declarator, or a bit-field with or without one. -/
inductive MemberDeclarator where
  | declarator (d : Declarator)
  | bitField (declarator : Option Declarator) (width : Expr) (span : Span)

/-- A declarator: pointer markers in front of a direct declarator. -/
structure Declarator where
  pointer : List PointerMarker
  direct : DirectDeclarator
  span : Span

/-- A declarator without pointer markers of its own. -/
inductive DirectDeclarator where
  | identifier (name : Identifier)
  | paren (inner : Declarator)
  | array (inner : DirectDeclarator) (qualifiers : List TypeQualifier) (size : ArraySize)
      (span : Span)
  | function (inner : DirectDeclarator) (suffix : FunctionSuffix) (span : Span)

/-- What stands between function parentheses; `identifiers` is the old style `(a, b)` or `()`. -/
inductive FunctionSuffix where
  | parameters (list : ParameterTypeList)
  | identifiers (names : List Identifier)

/-- A parameter list. -/
structure ParameterTypeList where
  params : List ParameterDeclaration
  variadic : Bool
  span : Span

/-- A parameter with or without a name. -/
inductive ParameterDeclaration where
  | named (specifiers : List DeclarationSpecifier) (declarator : Declarator) (span : Span)
  | abstract (specifiers : List DeclarationSpecifier) (declarator : Option AbstractDeclarator)
      (span : Span)

/-- An element of the specifier list of a declaration. -/
inductive DeclarationSpecifier where
  | storageClass (s : StorageClassSpecifier)
  | type (t : TypeSpecifier)
  | qualifier (q : TypeQualifier)
  | function (f : FunctionSpecifier)

/-- A declarator without a name. -/
structure AbstractDeclarator where
  pointer : List PointerMarker
  direct : Option DirectAbstractDeclarator
  span : Span

/-- A declarator without a name and without pointer markers of its own. -/
inductive DirectAbstractDeclarator where
  | paren (inner : AbstractDeclarator)
  | array (inner : Option DirectAbstractDeclarator) (size : ArraySize)
  | function (inner : Option DirectAbstractDeclarator) (params : Option ParameterTypeList)

end

instance : Inhabited DirectDeclarator := ⟨.identifier default⟩

instance : Inhabited Declarator := ⟨⟨[], default, .empty⟩⟩

/-! ### Declarations -/

/-- An initializer: one expression or a brace list. -/
inductive Initializer where
  | expr (e : Expr)
  | list (items : List Initializer) (trailingComma : Bool) (span : Span)

/-- A declarator with its initializer. -/
structure InitDeclarator where
  declarator : Declarator
  initializer : Option Initializer

/-- A declaration; it may declare any number of names. -/
structure Declaration where
  specifiers : List DeclarationSpecifier
  initDeclarators : List InitDeclarator
  span : Span

/-- A function definition without its body.  `declarations` are the old style parameter
declarations between the declarator and the body. -/
structure FunctionDefinition where
  specifiers : List DeclarationSpecifier
  declarator : Declarator
  declarations : List Declaration
  span : Span

/-- An item of a translation unit. -/
inductive ExternalDeclaration where
  | definition (d : FunctionDefinition)
  | declaration (d : Declaration)

/-- A translation unit and the units chained after it. -/
structure TranslationUnit where
  items : List ExternalDeclaration
  next : Option TranslationUnit

namespace TranslationUnit

/-- The unit without items. -/
def empty : TranslationUnit := ⟨[], none⟩

instance : Inhabited TranslationUnit := ⟨empty⟩

/-- Appends `last` after every unit of a chain. -/
def chain : TranslationUnit → TranslationUnit → TranslationUnit
  | ⟨items, none⟩, last => ⟨items, some last⟩
  | ⟨items, some next⟩, last => ⟨items, some (next.chain last)⟩

/-- The items of each unit of a chain, in order. -/
def units : TranslationUnit → List (List ExternalDeclaration)
  | ⟨items, none⟩ => [items]
  | ⟨items, some next⟩ => items :: next.units

/-- The units of a chain one after the other are those of both parts. -/
theorem units_chain : ∀ u v : TranslationUnit, (u.chain v).units = u.units ++ v.units
  | ⟨items, none⟩, v => by simp [chain, units]
  | ⟨items, some next⟩, v => by simp [chain, units, units_chain next v]

end TranslationUnit

end CDecl
