import CDecl.Syntax.Grammar
import CDecl.Json.Value

/-!
# Shapes of tree documents

A tree is stored as a JSON document, and a `Shape` says what a piece of the document has to be.
Every shape has a type of values and a layout: a record of named fields, a tuple, a choice of named
variants, or the body of a variant.  The layouts below are the whole description of the format;
reading follows them and nothing else.

Some variants carry several fields.  Such a body has a shape of its own, whose values are already
those of the type the variant belongs to.
-/

namespace CDecl

/-- The kinds of piece that a tree document is made of. -/
inductive Shape where
  | nothing
  | text
  | flag
  | byte
  | position
  | integer
  | number
  | character
  | option (s : Shape)
  | list (s : Shape)
  | span
  | identifier
  | production
  | grammarCase
  | unaryOp
  | binaryOp
  | literal
  | expr
  | exprKind
  | unaryOperation
  | binaryOperation
  | conditional
  | cast
  | storageClass
  | storageClassSpecifier
  | functionSpecifierKind
  | functionSpecifier
  | qualifierKind
  | typeQualifier
  | recordKind
  | enumerator
  | enumSpecifier
  | pointer
  | arraySize
  | typeSpecifier
  | typeSpecifierKind
  | recordSpecifier
  | memberDeclaration
  | memberSpecifier
  | memberDeclarator
  | bitField
  | declarator
  | directDeclarator
  | arrayDeclarator
  | functionDeclarator
  | functionSuffix
  | parameterTypeList
  | parameterDeclaration
  | namedParameter
  | abstractParameter
  | declarationSpecifier
  | abstractDeclarator
  | directAbstractDeclarator
  | abstractArray
  | abstractFunction
  | initializer
  | initializerList
  | initDeclarator
  | declaration
  | functionDefinition
  | externalDeclaration
  | translationUnit
deriving DecidableEq, Inhabited

/-- The values that a shape describes. -/
abbrev Shape.Value : Shape → Type
  | .nothing => Unit
  | .text => String
  | .flag => Bool
  | .byte => UInt8
  | .position => Position
  | .integer => Int64
  | .number => Float
  | .character => Char
  | .option s => Option s.Value
  | .list s => List s.Value
  | .span => Span
  | .identifier => Identifier
  | .production => Production
  | .grammarCase => GrammarCase
  | .unaryOp => UnaryOp
  | .binaryOp => BinaryOp
  | .literal => Literal
  | .expr => Expr
  | .exprKind => ExprKind
  | .unaryOperation => ExprKind
  | .binaryOperation => ExprKind
  | .conditional => ExprKind
  | .cast => ExprKind
  | .storageClass => StorageClass
  | .storageClassSpecifier => StorageClassSpecifier
  | .functionSpecifierKind => FunctionSpecifierKind
  | .functionSpecifier => FunctionSpecifier
  | .qualifierKind => QualifierKind
  | .typeQualifier => TypeQualifier
  | .recordKind => RecordKind
  | .enumerator => Enumerator
  | .enumSpecifier => EnumSpecifier
  | .pointer => List PointerMarker
  | .arraySize => ArraySize
  | .typeSpecifier => TypeSpecifier
  | .typeSpecifierKind => TypeSpecifierKind
  | .recordSpecifier => RecordSpecifier
  | .memberDeclaration => MemberDeclaration
  | .memberSpecifier => MemberSpecifier
  | .memberDeclarator => MemberDeclarator
  | .bitField => MemberDeclarator
  | .declarator => Declarator
  | .directDeclarator => DirectDeclarator
  | .arrayDeclarator => DirectDeclarator
  | .functionDeclarator => DirectDeclarator
  | .functionSuffix => FunctionSuffix
  | .parameterTypeList => ParameterTypeList
  | .parameterDeclaration => ParameterDeclaration
  | .namedParameter => ParameterDeclaration
  | .abstractParameter => ParameterDeclaration
  | .declarationSpecifier => DeclarationSpecifier
  | .abstractDeclarator => AbstractDeclarator
  | .directAbstractDeclarator => DirectAbstractDeclarator
  | .abstractArray => DirectAbstractDeclarator
  | .abstractFunction => DirectAbstractDeclarator
  | .initializer => Initializer
  | .initializerList => Initializer
  | .initDeclarator => InitDeclarator
  | .declaration => Declaration
  | .functionDefinition => FunctionDefinition
  | .externalDeclaration => ExternalDeclaration
  | .translationUnit => TranslationUnit

/-- A field of a record; one with a fallback may be missing. -/
structure Field where
  name : String
  shape : Shape
  fallback : Option shape.Value

namespace Field

/-- A field that has to be present. -/
abbrev required (name : String) (shape : Shape) : Field := ⟨name, shape, none⟩

/-- A field that may be missing or `null`. -/
abbrev optional (name : String) (shape : Shape) : Field := ⟨name, .option shape, some none⟩

/-- A list that is empty when it is missing. -/
abbrev items (name : String) (shape : Shape) : Field := ⟨name, .list shape, some []⟩

/-- A flag that is off when it is missing. -/
abbrev flag (name : String) : Field := ⟨name, .flag, some false⟩

/-- The place of a node, empty when it is missing. -/
abbrev span : Field := ⟨"span", .span, some .empty⟩

end Field

/-- A value for each field of a record. -/
abbrev Values : List Field → Type
  | [] => Unit
  | f :: fields => f.shape.Value × Values fields

/-- A value for each part of a tuple. -/
abbrev Parts : List Shape → Type
  | [] => Unit
  | s :: shapes => s.Value × Parts shapes

/-- A variant of a choice: a mere name, or a name with a value. -/
inductive Variant (α : Type) where
  | bare (value : α)
  | carrying (shape : Shape) (build : shape.Value → α)

/-- How the values of a shape are laid out.  `atom` is read from a value without parts, and `body`
is the record that a variant carries. -/
inductive Layout (α : Type) where
  | atom (read : Json → Option α)
  | record (fields : List Field) (build : Values fields → α)
  | body (fields : List Field) (build : Values fields → α)
  | tuple (parts : List Shape) (build : Parts parts → α)
  | choice (variants : List (String × Variant α))

namespace Layout

/-! ### Atoms -/

/-- A whole number within bounds. -/
def readWithin (low high : Int) : Json → Option Int
  | .int n => if low ≤ n ∧ n ≤ high then some n else none
  | _ => none

/-- Any number, a whole one rounded to binary64. -/
def readNumber : Json → Option Float
  | .float x => some x
  | .int n =>
      let magnitude := (UInt64.ofNat n.natAbs).toFloat
      some (if n < 0 then -magnitude else magnitude)
  | _ => none

/-- A text of exactly one character. -/
def readCharacter : Json → Option Char
  | .str s => match s.toList with
    | [c] => some c
    | _ => none
  | _ => none

/-- A text. -/
def readText : Json → Option String
  | .str s => some s
  | _ => none

/-- A truth value. -/
def readFlag : Json → Option Bool
  | .bool b => some b
  | _ => none

/-- The value `null`. -/
def readNothing (j : Json) : Option Unit := if j.isNull then some () else none

/-! ### Layouts -/

/-- A choice between names. -/
def names {α : Type} (variants : List (String × α)) : Layout α :=
  .choice (variants.map fun (name, value) => (name, .bare value))

/-- A record of a kind and its place. -/
abbrev kindFields (kind : Shape) : List Field := [.required "kind" kind, .span]

/-- The layout of each shape.  Options and lists are read before any layout is asked for, so theirs
reads nothing. -/
def ofShape : (s : Shape) → Layout s.Value
  | .nothing => .atom readNothing
  | .text => .atom readText
  | .flag => .atom readFlag
  | .byte => .atom fun j => (readWithin 0 255 j).map UInt8.ofInt
  | .position => .atom fun j => (readWithin 0 4294967295 j).map fun n => ⟨UInt32.ofInt n⟩
  | .integer => .atom fun j =>
      (readWithin (-9223372036854775808) 9223372036854775807 j).map Int64.ofInt
  | .number => .atom readNumber
  | .character => .atom readCharacter
  | .option _ => .atom fun _ => none
  | .list _ => .atom fun _ => none
  | .span => .record [.required "start" .position, .required "end" .position]
      fun (start, stop, _) => ⟨start, stop⟩
  | .identifier => .record [.required "name" .text, .span] fun (name, span, _) => ⟨name, span⟩
  | .production => names [
      ("DeclarationSpecifiers", .declarationSpecifiers),
      ("SpecifierQualifierList", .specifierQualifierList),
      ("TypeSpecifier", .typeSpecifier),
      ("TypeQualifier", .typeQualifier),
      ("StructOrUnionSpecifier", .structOrUnionSpecifier),
      ("StructDeclarator", .structDeclarator),
      ("DirectDeclarator", .directDeclarator),
      ("FunctionSuffix", .functionSuffix),
      ("ParameterDeclaration", .parameterDeclaration),
      ("Initializer", .initializer),
      ("FunctionDefinition", .functionDefinition)]
  | .grammarCase => .record [.required "production" .production, .required "case" .byte]
      fun (production, case, _) => ⟨production, case⟩
  | .unaryOp => names [
      ("Plus", .plus), ("Minus", .minus), ("BitNot", .bitNot), ("LogicNot", .logicNot)]
  | .binaryOp => names [
      ("Add", .add), ("Sub", .sub), ("Mul", .mul), ("Div", .div), ("Mod", .mod),
      ("LShift", .shiftLeft), ("RShift", .shiftRight),
      ("Less", .less), ("LessEqual", .lessEqual), ("Greater", .greater),
      ("GreaterEqual", .greaterEqual), ("Equal", .equal), ("NotEqual", .notEqual),
      ("BitAnd", .bitAnd), ("BitXor", .bitXor), ("BitOr", .bitOr),
      ("LogicAnd", .logicAnd), ("LogicOr", .logicOr)]
  | .literal => .choice [
      ("Int", .carrying .integer .int),
      ("Float", .carrying .number .float),
      ("Char", .carrying .character .char),
      ("Str", .carrying .text .str)]
  | .expr => .record (kindFields .exprKind) fun (kind, span, _) => ⟨kind, span⟩
  | .exprKind => .choice [
      ("Literal", .carrying .literal .literal),
      ("Ident", .carrying .text .ident),
      ("Paren", .carrying .expr .paren),
      ("Unary", .carrying .unaryOperation id),
      ("Binary", .carrying .binaryOperation id),
      ("Conditional", .carrying .conditional id),
      ("Cast", .carrying .cast id),
      ("SizeOfType", .carrying .text .sizeOfType),
      ("Opaque", .carrying .text .verbatim)]
  | .unaryOperation => .tuple [.unaryOp, .expr] fun (op, operand, _) => .unary op operand
  | .binaryOperation => .tuple [.binaryOp, .expr, .expr]
      fun (op, lhs, rhs, _) => .binary op lhs rhs
  | .conditional => .tuple [.expr, .expr, .expr]
      fun (condition, thenExpr, elseExpr, _) => .conditional condition thenExpr elseExpr
  | .cast => .tuple [.text, .expr] fun (typeName, operand, _) => .cast typeName operand
  | .storageClass => names [
      ("Typedef", .typedef), ("Extern", .external), ("Static", .static), ("Auto", .auto),
      ("Register", .register)]
  | .storageClassSpecifier => .record (kindFields .storageClass)
      fun (kind, span, _) => ⟨kind, span⟩
  | .functionSpecifierKind => names [("Inline", .inline), ("Noreturn", .noreturn)]
  | .functionSpecifier => .record (kindFields .functionSpecifierKind)
      fun (kind, span, _) => ⟨kind, span⟩
  | .qualifierKind => names [
      ("Const", .const), ("Restrict", .restrict), ("Volatile", .volatile), ("Atomic", .atomic)]
  | .typeQualifier => .record (kindFields .qualifierKind) fun (kind, span, _) => ⟨kind, span⟩
  | .recordKind => names [("Struct", .struct), ("Union", .union)]
  | .enumerator => .record [.required "name" .identifier, .optional "value" .expr]
      fun (name, value, _) => ⟨name, value⟩
  | .enumSpecifier => .record
      [.optional "tag" .identifier, .optional "enumerators" (.list .enumerator), .span]
      fun (tag, enumerators, span, _) => ⟨tag, enumerators, span⟩
  | .pointer => .record
      [.items "qualifiers" .typeQualifier, .optional "next" .pointer, .span]
      fun (qualifiers, next, span, _) => ⟨qualifiers, span⟩ :: next.getD []
  | .arraySize => .choice [
      ("Sized", .carrying (.option .expr) .sized),
      ("Static", .carrying .expr .static),
      ("QualifiedStatic", .carrying .expr .qualifiedStatic),
      ("Star", .bare .star)]
  | .typeSpecifier => .record (kindFields .typeSpecifierKind) fun (kind, span, _) => ⟨kind, span⟩
  | .typeSpecifierKind => .choice [
      ("Void", .bare (.keyword .void)),
      ("Char", .bare (.keyword .char)),
      ("Short", .bare (.keyword .short)),
      ("Int", .bare (.keyword .int)),
      ("Long", .bare (.keyword .long)),
      ("Float", .bare (.keyword .float)),
      ("Double", .bare (.keyword .double)),
      ("Signed", .bare (.keyword .signed)),
      ("Unsigned", .bare (.keyword .unsigned)),
      ("Bool", .bare (.keyword .bool)),
      ("Complex", .bare (.keyword .complex)),
      ("StructOrUnion", .carrying .recordSpecifier .record),
      ("Enum", .carrying .enumSpecifier .enum),
      ("TypedefName", .carrying .text .typedefName)]
  | .recordSpecifier => .record
      [.required "kind" .recordKind, .optional "tag" .identifier,
        .optional "members" (.list .memberDeclaration), .span]
      fun (kind, tag, members, span, _) => ⟨kind, tag, members, span⟩
  | .memberDeclaration => .record
      [.required "specifiers" (.list .memberSpecifier), .items "declarators" .memberDeclarator,
        .span]
      fun (specifiers, declarators, span, _) => ⟨specifiers, declarators, span⟩
  | .memberSpecifier => .choice [
      ("TypeSpecifier", .carrying .typeSpecifier .type),
      ("TypeQualifier", .carrying .typeQualifier .qualifier)]
  | .memberDeclarator => .choice [
      ("Declarator", .carrying .declarator .declarator),
      ("BitField", .carrying .bitField id)]
  | .bitField => .body
      [.optional "declarator" .declarator, .required "width" .expr, .span]
      fun (declarator, width, span, _) => .bitField declarator width span
  | .declarator => .record
      [.optional "pointer" .pointer, .required "direct" .directDeclarator, .span]
      fun (pointer, direct, span, _) => ⟨pointer.getD [], direct, span⟩
  | .directDeclarator => .choice [
      ("Identifier", .carrying .identifier .identifier),
      ("Paren", .carrying .declarator .paren),
      ("Array", .carrying .arrayDeclarator id),
      ("Function", .carrying .functionDeclarator id)]
  | .arrayDeclarator => .body
      [.required "inner" .directDeclarator, .items "qualifiers" .typeQualifier,
        .required "size" .arraySize, .span]
      fun (inner, qualifiers, size, span, _) => .array inner qualifiers size span
  | .functionDeclarator => .body
      [.required "inner" .directDeclarator, .required "suffix" .functionSuffix, .span]
      fun (inner, suffix, span, _) => .function inner suffix span
  | .functionSuffix => .choice [
      ("Parameters", .carrying .parameterTypeList .parameters),
      ("Identifiers", .carrying (.list .identifier) .identifiers)]
  | .parameterTypeList => .record
      [.items "params" .parameterDeclaration, .flag "variadic", .span]
      fun (params, variadic, span, _) => ⟨params, variadic, span⟩
  | .parameterDeclaration => .choice [
      ("Named", .carrying .namedParameter id),
      ("Abstract", .carrying .abstractParameter id)]
  | .namedParameter => .body
      [.required "specifiers" (.list .declarationSpecifier), .required "declarator" .declarator,
        .span]
      fun (specifiers, declarator, span, _) => .named specifiers declarator span
  | .abstractParameter => .body
      [.required "specifiers" (.list .declarationSpecifier),
        .optional "declarator" .abstractDeclarator, .span]
      fun (specifiers, declarator, span, _) => .abstract specifiers declarator span
  | .declarationSpecifier => .choice [
      ("StorageClass", .carrying .storageClassSpecifier .storageClass),
      ("TypeSpecifier", .carrying .typeSpecifier .type),
      ("TypeQualifier", .carrying .typeQualifier .qualifier),
      ("FunctionSpecifier", .carrying .functionSpecifier .function)]
  | .abstractDeclarator => .record
      [.optional "pointer" .pointer, .optional "direct" .directAbstractDeclarator, .span]
      fun (pointer, direct, span, _) => ⟨pointer.getD [], direct, span⟩
  | .directAbstractDeclarator => .choice [
      ("Paren", .carrying .abstractDeclarator .paren),
      ("Array", .carrying .abstractArray id),
      ("Function", .carrying .abstractFunction id)]
  | .abstractArray => .body
      [.optional "inner" .directAbstractDeclarator, .required "size" .arraySize]
      fun (inner, size, _) => .array inner size
  | .abstractFunction => .body
      [.optional "inner" .directAbstractDeclarator, .optional "params" .parameterTypeList]
      fun (inner, params, _) => .function inner params
  | .initializer => .choice [
      ("Expr", .carrying .expr .expr),
      ("List", .carrying .initializerList id)]
  | .initializerList => .body
      [.required "items" (.list .initializer), .flag "trailing_comma", .span]
      fun (items, trailingComma, span, _) => .list items trailingComma span
  | .initDeclarator => .record
      [.required "declarator" .declarator, .optional "initializer" .initializer]
      fun (declarator, initializer, _) => ⟨declarator, initializer⟩
  | .declaration => .record
      [.required "specifiers" (.list .declarationSpecifier),
        .items "init_declarators" .initDeclarator, .span]
      fun (specifiers, initDeclarators, span, _) => ⟨specifiers, initDeclarators, span⟩
  | .functionDefinition => .record
      [.required "specifiers" (.list .declarationSpecifier), .required "declarator" .declarator,
        .items "declarations" .declaration, .span]
      fun (specifiers, declarator, declarations, span, _) =>
        ⟨specifiers, declarator, declarations, span⟩
  | .externalDeclaration => .choice [
      ("FunctionDefinition", .carrying .functionDefinition .definition),
      ("Declaration", .carrying .declaration .declaration)]
  | .translationUnit => .record
      [.items "items" .externalDeclaration, .optional "next" .translationUnit]
      fun (items, next, _) => ⟨items, next⟩

end Layout

end CDecl
