import CDecl.Syntax.Tree

/-!
# Grammar cases and spans of nodes

The nodes of the tree come from productions of the grammar, and a production has numbered
alternatives.  A `GrammarCase` names the alternative that a node was built by; reports carry it.
-/

namespace CDecl

/-- The productions with alternatives. -/
inductive Production where
  | declarationSpecifiers
  | specifierQualifierList
  | typeSpecifier
  | typeQualifier
  | structOrUnionSpecifier
  | structDeclarator
  | directDeclarator
  | functionSuffix
  | parameterDeclaration
  | initializer
  | functionDefinition
deriving DecidableEq, Inhabited

/-- The name of a production. -/
def Production.name : Production → String
  | .declarationSpecifiers => "DeclarationSpecifiers"
  | .specifierQualifierList => "SpecifierQualifierList"
  | .typeSpecifier => "TypeSpecifier"
  | .typeQualifier => "TypeQualifier"
  | .structOrUnionSpecifier => "StructOrUnionSpecifier"
  | .structDeclarator => "StructDeclarator"
  | .directDeclarator => "DirectDeclarator"
  | .functionSuffix => "FunctionSuffix"
  | .parameterDeclaration => "ParameterDeclaration"
  | .initializer => "Initializer"
  | .functionDefinition => "FunctionDefinition"

/-- An alternative of a production. -/
structure GrammarCase where
  production : Production
  case : UInt8
deriving DecidableEq, Inhabited

/-- How an alternative is named in reports. -/
def GrammarCase.text (g : GrammarCase) : String :=
  g.production.name ++ " case " ++ toString g.case

/-- The alternative of an element of a declaration's specifier list. -/
def DeclarationSpecifier.grammar (s : DeclarationSpecifier) : GrammarCase where
  production := .declarationSpecifiers
  case := match s with
    | .storageClass _ => 0
    | .type _ => 1
    | .qualifier _ => 2
    | .function _ => 3

/-- The alternative of an element of a member's specifier list. -/
def MemberSpecifier.grammar (s : MemberSpecifier) : GrammarCase where
  production := .specifierQualifierList
  case := match s with
    | .type _ => 0
    | .qualifier _ => 1

/-- The number of a keyword among the type specifiers. -/
def ScalarKeyword.case : ScalarKeyword → UInt8
  | .void => 0
  | .char => 1
  | .short => 2
  | .int => 3
  | .long => 4
  | .float => 5
  | .double => 6
  | .signed => 7
  | .unsigned => 8
  | .bool => 9
  | .complex => 10

/-- The alternative of a type specifier. -/
def TypeSpecifier.grammar (t : TypeSpecifier) : GrammarCase where
  production := .typeSpecifier
  case := match t.kind with
    | .keyword k => k.case
    | .record _ => 11
    | .enum _ => 12
    | .typedefName _ => 13

/-- The alternative of a qualifier. -/
def TypeQualifier.grammar (q : TypeQualifier) : GrammarCase where
  production := .typeQualifier
  case := match q.kind with
    | .const => 0
    | .restrict => 1
    | .volatile => 2
    | .atomic => 3

/-- The alternative of a record specifier: a definition or a bare reference. -/
def RecordSpecifier.grammar (r : RecordSpecifier) : GrammarCase where
  production := .structOrUnionSpecifier
  case := if r.members.isSome then 0 else 1

/-- The alternative of a member declarator. -/
def MemberDeclarator.grammar (d : MemberDeclarator) : GrammarCase where
  production := .structDeclarator
  case := match d with
    | .declarator _ => 0
    | .bitField .. => 1

/-- The alternative of a direct declarator; array brackets count by what they hold. -/
def DirectDeclarator.grammar (d : DirectDeclarator) : GrammarCase where
  production := .directDeclarator
  case := match d with
    | .identifier _ => 0
    | .paren _ => 1
    | .array _ _ (.sized _) _ => 2
    | .array _ _ (.static _) _ => 3
    | .array _ _ (.qualifiedStatic _) _ => 4
    | .array _ _ .star _ => 5
    | .function .. => 6

/-- The alternative of a function suffix. -/
def FunctionSuffix.grammar (s : FunctionSuffix) : GrammarCase where
  production := .functionSuffix
  case := match s with
    | .parameters _ => 0
    | .identifiers _ => 1

/-- Whether a parameter list is exactly `(void)`. -/
def ParameterTypeList.isVoid : ParameterTypeList → Bool
  | ⟨[.abstract [.type ⟨.keyword .void, _⟩] none _], false, _⟩ => true
  | _ => false

/-- The alternative of a parameter. -/
def ParameterDeclaration.grammar (p : ParameterDeclaration) : GrammarCase where
  production := .parameterDeclaration
  case := match p with
    | .named .. => 0
    | .abstract .. => 1

/-- The alternative of an initializer; a comma before the closing brace counts. -/
def Initializer.grammar (i : Initializer) : GrammarCase where
  production := .initializer
  case := match i with
    | .expr _ => 0
    | .list _ false _ => 1
    | .list _ true _ => 2

/-- The alternative of a function definition: without or with old style declarations. -/
def FunctionDefinition.grammar (d : FunctionDefinition) : GrammarCase where
  production := .functionDefinition
  case := if d.declarations.isEmpty then 0 else 1

/-- Where an element of a specifier list stands. -/
def DeclarationSpecifier.span : DeclarationSpecifier → Span
  | .storageClass s => s.span
  | .type t => t.span
  | .qualifier q => q.span
  | .function f => f.span

/-- Where a direct declarator stands; a parenthesised one stands where its content does. -/
def DirectDeclarator.span : DirectDeclarator → Span
  | .identifier name => name.span
  | .paren inner => inner.span
  | .array _ _ _ span => span
  | .function _ _ span => span

/-- Where a parameter stands. -/
def ParameterDeclaration.span : ParameterDeclaration → Span
  | .named _ _ span => span
  | .abstract _ _ span => span

/-- Where an initializer stands. -/
def Initializer.span : Initializer → Span
  | .expr e => e.span
  | .list _ _ span => span

end CDecl
