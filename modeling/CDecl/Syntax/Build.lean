import CDecl.Syntax.Tree

/-!
# Building declaration trees

Shorthands for trees made by hand.  What they make stands nowhere: every span is empty.
-/

namespace CDecl

/-- A name. -/
def Identifier.ofName (name : String) : Identifier := ⟨name, .empty⟩

namespace DeclarationSpecifier

/-- A type specifier. -/
def ofType (kind : TypeSpecifierKind) : DeclarationSpecifier := .type ⟨kind, .empty⟩

/-- A type qualifier. -/
def ofQualifier (kind : QualifierKind) : DeclarationSpecifier := .qualifier ⟨kind, .empty⟩

/-- A storage class. -/
def ofStorageClass (kind : StorageClass) : DeclarationSpecifier := .storageClass ⟨kind, .empty⟩

/-- A function specifier. -/
def ofFunctionSpecifier (kind : FunctionSpecifierKind) : DeclarationSpecifier :=
  .function ⟨kind, .empty⟩

end DeclarationSpecifier

namespace MemberSpecifier

/-- A type specifier. -/
def ofType (kind : TypeSpecifierKind) : MemberSpecifier := .type ⟨kind, .empty⟩

/-- A type qualifier. -/
def ofQualifier (kind : QualifierKind) : MemberSpecifier := .qualifier ⟨kind, .empty⟩

end MemberSpecifier

namespace RecordSpecifier

/-- A record with its members. -/
def definition (kind : RecordKind) (tag : Option String) (members : List MemberDeclaration) :
    RecordSpecifier :=
  ⟨kind, tag.map .ofName, some members, .empty⟩

/-- A reference to a record defined elsewhere. -/
def reference (kind : RecordKind) (tag : String) : RecordSpecifier :=
  ⟨kind, some (.ofName tag), none, .empty⟩

end RecordSpecifier

/-- A member declaration. -/
def MemberDeclaration.ofParts (specifiers : List MemberSpecifier)
    (declarators : List MemberDeclarator) : MemberDeclaration :=
  ⟨specifiers, declarators, .empty⟩

namespace Declarator

/-- A direct declarator as a declarator. -/
def ofDirect (direct : DirectDeclarator) : Declarator := ⟨[], direct, .empty⟩

/-- The same declarator behind `depth` unqualified pointer markers, in place of its own. -/
def pointers (d : Declarator) (depth : Nat) : Declarator :=
  { d with pointer := List.replicate depth ⟨[], .empty⟩ }

end Declarator

namespace ParameterTypeList

/-- A parameter list of fixed length. -/
def ofParams (params : List ParameterDeclaration) : ParameterTypeList := ⟨params, false, .empty⟩

/-- The parameter list `(void)`. -/
def void : ParameterTypeList :=
  .ofParams [.abstract [.ofType (.keyword .void)] none .empty]

/-- The same parameter list followed by an ellipsis. -/
def withEllipsis (l : ParameterTypeList) : ParameterTypeList := { l with variadic := true }

end ParameterTypeList

namespace DirectDeclarator

/-- A name as a direct declarator. -/
def ofName (name : String) : DirectDeclarator := .identifier (.ofName name)

/-- An array of what `d` declares. -/
def arrayOf (d : DirectDeclarator) (size : ArraySize) : DirectDeclarator :=
  .array d [] size .empty

/-- A function suffix behind `d`. -/
def functionWith (d : DirectDeclarator) (suffix : FunctionSuffix) : DirectDeclarator :=
  .function d suffix .empty

end DirectDeclarator

/-- A declaration. -/
def Declaration.ofParts (specifiers : List DeclarationSpecifier)
    (initDeclarators : List InitDeclarator) : Declaration :=
  ⟨specifiers, initDeclarators, .empty⟩

/-- A function definition without old style declarations. -/
def FunctionDefinition.ofParts (specifiers : List DeclarationSpecifier) (declarator : Declarator) :
    FunctionDefinition :=
  ⟨specifiers, declarator, [], .empty⟩

end CDecl
