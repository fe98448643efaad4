import CDecl.Syntax.Shape

/-!
# Writing trees as documents

Every field of a record is written, absent ones as `null`; a bare variant is its name.
-/

namespace CDecl

/-- A variant with its value. -/
def Json.tagged (name : String) (value : Json) : Json := .obj [(name, value)]

/-- A node of a kind and its place. -/
def Json.placed (kind span : Json) : Json := .obj [("kind", kind), ("span", span)]

/-! ### Leaves -/

/-- A position as its packed word. -/
def Position.encode (p : Position) : Json := .int p.packed.toNat

/-- A span as its two positions. -/
def Span.encode (s : Span) : Json :=
  .obj [("start", s.start.encode), ("end", s.stop.encode)]

/-- A name and its place. -/
def Identifier.encode (i : Identifier) : Json :=
  .obj [("name", .str i.name), ("span", i.span.encode)]

/-- A production by its name. -/
def Production.encode (p : Production) : Json := .str p.name

/-- A production and the number of its alternative. -/
def GrammarCase.encode (g : GrammarCase) : Json :=
  .obj [("production", g.production.encode), ("case", .int g.case.toNat)]

/-- An operator by its name. -/
def UnaryOp.encode : UnaryOp → Json
  | .plus => .str "Plus"
  | .minus => .str "Minus"
  | .bitNot => .str "BitNot"
  | .logicNot => .str "LogicNot"

/-- An operator by its name. -/
def BinaryOp.encode : BinaryOp → Json
  | .add => .str "Add"
  | .sub => .str "Sub"
  | .mul => .str "Mul"
  | .div => .str "Div"
  | .mod => .str "Mod"
  | .shiftLeft => .str "LShift"
  | .shiftRight => .str "RShift"
  | .less => .str "Less"
  | .lessEqual => .str "LessEqual"
  | .greater => .str "Greater"
  | .greaterEqual => .str "GreaterEqual"
  | .equal => .str "Equal"
  | .notEqual => .str "NotEqual"
  | .bitAnd => .str "BitAnd"
  | .bitXor => .str "BitXor"
  | .bitOr => .str "BitOr"
  | .logicAnd => .str "LogicAnd"
  | .logicOr => .str "LogicOr"

/-- A literal by its kind; a character is a text of its own. -/
def Literal.encode : Literal → Json
  | .int n => .tagged "Int" (.int n.toInt)
  | .float x => .tagged "Float" (.float x)
  | .char c => .tagged "Char" (.str (String.singleton c))
  | .str s => .tagged "Str" (.str s)

/-- A storage class by its name. -/
def StorageClass.encode : StorageClass → Json
  | .typedef => .str "Typedef"
  | .external => .str "Extern"
  | .static => .str "Static"
  | .auto => .str "Auto"
  | .register => .str "Register"

/-- A storage class and its place. -/
def StorageClassSpecifier.encode (s : StorageClassSpecifier) : Json :=
  .placed s.kind.encode s.span.encode

/-- A function specifier by its name. -/
def FunctionSpecifierKind.encode : FunctionSpecifierKind → Json
  | .inline => .str "Inline"
  | .noreturn => .str "Noreturn"

/-- A function specifier and its place. -/
def FunctionSpecifier.encode (f : FunctionSpecifier) : Json :=
  .placed f.kind.encode f.span.encode

/-- The name of a qualifier, which is also how a document spells it. -/
def QualifierKind.name : QualifierKind → String
  | .const => "Const"
  | .restrict => "Restrict"
  | .volatile => "Volatile"
  | .atomic => "Atomic"

/-- A qualifier by its name. -/
def QualifierKind.encode (k : QualifierKind) : Json := .str k.name

/-- A qualifier and its place. -/
def TypeQualifier.encode (q : TypeQualifier) : Json := .placed q.kind.encode q.span.encode

/-- A keyword by its name. -/
def ScalarKeyword.encode : ScalarKeyword → Json
  | .void => .str "Void"
  | .char => .str "Char"
  | .short => .str "Short"
  | .int => .str "Int"
  | .long => .str "Long"
  | .float => .str "Float"
  | .double => .str "Double"
  | .signed => .str "Signed"
  | .unsigned => .str "Unsigned"
  | .bool => .str "Bool"
  | .complex => .str "Complex"

/-- A kind of record by its name. -/
def RecordKind.encode : RecordKind → Json
  | .struct => .str "Struct"
  | .union => .str "Union"

/-- A chain of pointer markers, each one holding the next. -/
def PointerMarker.encodeChain : List PointerMarker → Json
  | [] => .null
  | ⟨qualifiers, span⟩ :: next =>
      .obj [("qualifiers", .ofList TypeQualifier.encode qualifiers),
        ("next", encodeChain next), ("span", span.encode)]

/-! ### Expressions -/

mutual

/-- An expression: its form and its place. -/
def Expr.encode : Expr → Json
  | ⟨kind, span⟩ => .placed kind.encode span.encode

/-- A form of expression; several operands make a tuple. -/
def ExprKind.encode : ExprKind → Json
  | .literal value => .tagged "Literal" value.encode
  | .ident name => .tagged "Ident" (.str name)
  | .paren inner => .tagged "Paren" inner.encode
  | .unary op operand => .tagged "Unary" (.arr [op.encode, operand.encode])
  | .binary op lhs rhs => .tagged "Binary" (.arr [op.encode, lhs.encode, rhs.encode])
  | .conditional condition thenExpr elseExpr =>
      .tagged "Conditional" (.arr [condition.encode, thenExpr.encode, elseExpr.encode])
  | .cast typeName operand => .tagged "Cast" (.arr [.str typeName, operand.encode])
  | .sizeOfType typeName => .tagged "SizeOfType" (.str typeName)
  | .verbatim text => .tagged "Opaque" (.str text)

end

/-- What stands between array brackets; no bound at all is `null`. -/
def ArraySize.encode : ArraySize → Json
  | .sized bound => .tagged "Sized" (.ofOption Expr.encode bound)
  | .static bound => .tagged "Static" bound.encode
  | .qualifiedStatic bound => .tagged "QualifiedStatic" bound.encode
  | .star => .str "Star"

/-- A constant of an enumeration. -/
def Enumerator.encode (e : Enumerator) : Json :=
  .obj [("name", e.name.encode), ("value", .ofOption Expr.encode e.value)]

/-- An enumeration specifier. -/
def EnumSpecifier.encode (e : EnumSpecifier) : Json :=
  .obj [("tag", .ofOption Identifier.encode e.tag),
    ("enumerators", .ofOption (.ofList Enumerator.encode) e.enumerators),
    ("span", e.span.encode)]

/-! ### Specifiers, declarators, records and parameters -/

mutual

/-- A type specifier: its form and its place. -/
def TypeSpecifier.encode : TypeSpecifier → Json
  | ⟨kind, span⟩ => .placed kind.encode span.encode

/-- A form of type specifier; keywords are bare variants. -/
def TypeSpecifierKind.encode : TypeSpecifierKind → Json
  | .keyword k => k.encode
  | .record r => .tagged "StructOrUnion" r.encode
  | .enum e => .tagged "Enum" e.encode
  | .typedefName name => .tagged "TypedefName" (.str name)

/-- A record specifier; a bare reference has `null` for its members. -/
def RecordSpecifier.encode : RecordSpecifier → Json
  | ⟨kind, tag, none, span⟩ =>
      .obj [("kind", kind.encode), ("tag", .ofOption Identifier.encode tag),
        ("members", .null), ("span", span.encode)]
  | ⟨kind, tag, some members, span⟩ =>
      .obj [("kind", kind.encode), ("tag", .ofOption Identifier.encode tag),
        ("members", .arr (MemberDeclaration.encodeList members)), ("span", span.encode)]

/-- A member declaration. -/
def MemberDeclaration.encode : MemberDeclaration → Json
  | ⟨specifiers, declarators, span⟩ =>
      .obj [("specifiers", .arr (MemberSpecifier.encodeList specifiers)),
        ("declarators", .arr (MemberDeclarator.encodeList declarators)), ("span", span.encode)]

/-- Each of several member declarations. -/
def MemberDeclaration.encodeList : List MemberDeclaration → List Json
  | [] => []
  | m :: rest => m.encode :: MemberDeclaration.encodeList rest

/-- An element of a member's specifier list. -/
def MemberSpecifier.encode : MemberSpecifier → Json
  | .type t => .tagged "TypeSpecifier" t.encode
  | .qualifier q => .tagged "TypeQualifier" q.encode

/-- Each element of a member's specifier list. -/
def MemberSpecifier.encodeList : List MemberSpecifier → List Json
  | [] => []
  | s :: rest => s.encode :: MemberSpecifier.encodeList rest

/-- A member declarator; a bit-field carries a record. -/
def MemberDeclarator.encode : MemberDeclarator → Json
  | .declarator d => .tagged "Declarator" d.encode
  | .bitField none width span => .tagged "BitField" (.obj
      [("declarator", .null), ("width", width.encode), ("span", span.encode)])
  | .bitField (some d) width span => .tagged "BitField" (.obj
      [("declarator", d.encode), ("width", width.encode), ("span", span.encode)])

/-- Each of several member declarators. -/
def MemberDeclarator.encodeList : List MemberDeclarator → List Json
  | [] => []
  | d :: rest => d.encode :: MemberDeclarator.encodeList rest

/-- A declarator. -/
def Declarator.encode : Declarator → Json
  | ⟨pointer, direct, span⟩ =>
      .obj [("pointer", PointerMarker.encodeChain pointer), ("direct", direct.encode),
        ("span", span.encode)]

/-- A direct declarator; brackets and function parentheses carry a record. -/
def DirectDeclarator.encode : DirectDeclarator → Json
  | .identifier name => .tagged "Identifier" name.encode
  | .paren inner => .tagged "Paren" inner.encode
  | .array inner qualifiers size span => .tagged "Array" (.obj
      [("inner", inner.encode), ("qualifiers", .ofList TypeQualifier.encode qualifiers),
        ("size", size.encode), ("span", span.encode)])
  | .function inner suffix span => .tagged "Function" (.obj
      [("inner", inner.encode), ("suffix", suffix.encode), ("span", span.encode)])

/-- What stands between function parentheses. -/
def FunctionSuffix.encode : FunctionSuffix → Json
  | .parameters list => .tagged "Parameters" list.encode
  | .identifiers names => .tagged "Identifiers" (.ofList Identifier.encode names)

/-- A parameter list. -/
def ParameterTypeList.encode : ParameterTypeList → Json
  | ⟨params, variadic, span⟩ =>
      .obj [("params", .arr (ParameterDeclaration.encodeList params)),
        ("variadic", .bool variadic), ("span", span.encode)]

/-- A parameter; both forms carry a record. -/
def ParameterDeclaration.encode : ParameterDeclaration → Json
  | .named specifiers declarator span => .tagged "Named" (.obj
      [("specifiers", .arr (DeclarationSpecifier.encodeList specifiers)),
        ("declarator", declarator.encode), ("span", span.encode)])
  | .abstract specifiers none span => .tagged "Abstract" (.obj
      [("specifiers", .arr (DeclarationSpecifier.encodeList specifiers)),
        ("declarator", .null), ("span", span.encode)])
  | .abstract specifiers (some d) span => .tagged "Abstract" (.obj
      [("specifiers", .arr (DeclarationSpecifier.encodeList specifiers)),
        ("declarator", d.encode), ("span", span.encode)])

/-- Each of several parameters. -/
def ParameterDeclaration.encodeList : List ParameterDeclaration → List Json
  | [] => []
  | p :: rest => p.encode :: ParameterDeclaration.encodeList rest

/-- An element of a declaration's specifier list. -/
def DeclarationSpecifier.encode : DeclarationSpecifier → Json
  | .storageClass s => .tagged "StorageClass" s.encode
  | .type t => .tagged "TypeSpecifier" t.encode
  | .qualifier q => .tagged "TypeQualifier" q.encode
  | .function f => .tagged "FunctionSpecifier" f.encode

/-- Each element of a declaration's specifier list. -/
def DeclarationSpecifier.encodeList : List DeclarationSpecifier → List Json
  | [] => []
  | s :: rest => s.encode :: DeclarationSpecifier.encodeList rest

/-- A declarator without a name. -/
def AbstractDeclarator.encode : AbstractDeclarator → Json
  | ⟨pointer, none, span⟩ =>
      .obj [("pointer", PointerMarker.encodeChain pointer), ("direct", .null),
        ("span", span.encode)]
  | ⟨pointer, some direct, span⟩ =>
      .obj [("pointer", PointerMarker.encodeChain pointer), ("direct", direct.encode),
        ("span", span.encode)]

/-- A direct declarator without a name; what it encloses is `null` when it is left out. -/
def DirectAbstractDeclarator.encode : DirectAbstractDeclarator → Json
  | .paren inner => .tagged "Paren" inner.encode
  | .array none size => .tagged "Array" (.obj [("inner", .null), ("size", size.encode)])
  | .array (some inner) size =>
      .tagged "Array" (.obj [("inner", inner.encode), ("size", size.encode)])
  | .function none none => .tagged "Function" (.obj [("inner", .null), ("params", .null)])
  | .function none (some params) =>
      .tagged "Function" (.obj [("inner", .null), ("params", params.encode)])
  | .function (some inner) none =>
      .tagged "Function" (.obj [("inner", inner.encode), ("params", .null)])
  | .function (some inner) (some params) =>
      .tagged "Function" (.obj [("inner", inner.encode), ("params", params.encode)])

end

/-! ### Declarations -/

mutual

/-- An initializer; a brace list carries a record. -/
def Initializer.encode : Initializer → Json
  | .expr e => .tagged "Expr" e.encode
  | .list items trailingComma span => .tagged "List" (.obj
      [("items", .arr (Initializer.encodeList items)), ("trailing_comma", .bool trailingComma),
        ("span", span.encode)])

/-- Each of several initializers. -/
def Initializer.encodeList : List Initializer → List Json
  | [] => []
  | i :: rest => i.encode :: Initializer.encodeList rest

end

/-- A declarator with its initializer. -/
def InitDeclarator.encode (d : InitDeclarator) : Json :=
  .obj [("declarator", d.declarator.encode),
    ("initializer", .ofOption Initializer.encode d.initializer)]

/-- A declaration. -/
def Declaration.encode (d : Declaration) : Json :=
  .obj [("specifiers", .arr (DeclarationSpecifier.encodeList d.specifiers)),
    ("init_declarators", .ofList InitDeclarator.encode d.initDeclarators),
    ("span", d.span.encode)]

/-- A function definition. -/
def FunctionDefinition.encode (d : FunctionDefinition) : Json :=
  .obj [("specifiers", .arr (DeclarationSpecifier.encodeList d.specifiers)),
    ("declarator", d.declarator.encode),
    ("declarations", .ofList Declaration.encode d.declarations),
    ("span", d.span.encode)]

/-- An item of a translation unit. -/
def ExternalDeclaration.encode : ExternalDeclaration → Json
  | .definition d => .tagged "FunctionDefinition" d.encode
  | .declaration d => .tagged "Declaration" d.encode

/-- A translation unit, which holds the units chained after it. -/
def TranslationUnit.encode : TranslationUnit → Json
  | ⟨items, none⟩ => .obj [("items", .ofList ExternalDeclaration.encode items), ("next", .null)]
  | ⟨items, some next⟩ =>
      .obj [("items", .ofList ExternalDeclaration.encode items), ("next", next.encode)]

/-! ### All shapes -/

/-- Writes a value of a shape.  The shapes that only hold the fields of a variant are written like
the variant. -/
def Json.encode : (s : Shape) → s.Value → Json
  | .nothing, _ => .null
  | .text, s => .str s
  | .flag, b => .bool b
  | .byte, n => .int n.toNat
  | .position, p => p.encode
  | .integer, n => .int n.toInt
  | .number, x => .float x
  | .character, c => .str (String.singleton c)
  | .option s, value => .ofOption (encode s) value
  | .list s, values => .ofList (encode s) values
  | .span, s => s.encode
  | .identifier, i => i.encode
  | .production, p => p.encode
  | .grammarCase, g => g.encode
  | .unaryOp, op => op.encode
  | .binaryOp, op => op.encode
  | .literal, l => l.encode
  | .expr, e => e.encode
  | .exprKind, k => k.encode
  | .unaryOperation, k => k.encode
  | .binaryOperation, k => k.encode
  | .conditional, k => k.encode
  | .cast, k => k.encode
  | .storageClass, k => k.encode
  | .storageClassSpecifier, s => s.encode
  | .functionSpecifierKind, k => k.encode
  | .functionSpecifier, f => f.encode
  | .qualifierKind, k => k.encode
  | .typeQualifier, q => q.encode
  | .recordKind, k => k.encode
  | .enumerator, e => e.encode
  | .enumSpecifier, e => e.encode
  | .pointer, markers => PointerMarker.encodeChain markers
  | .arraySize, s => s.encode
  | .typeSpecifier, t => t.encode
  | .typeSpecifierKind, k => k.encode
  | .recordSpecifier, r => r.encode
  | .memberDeclaration, m => m.encode
  | .memberSpecifier, s => s.encode
  | .memberDeclarator, d => d.encode
  | .bitField, d => d.encode
  | .declarator, d => d.encode
  | .directDeclarator, d => d.encode
  | .arrayDeclarator, d => d.encode
  | .functionDeclarator, d => d.encode
  | .functionSuffix, s => s.encode
  | .parameterTypeList, l => l.encode
  | .parameterDeclaration, p => p.encode
  | .namedParameter, p => p.encode
  | .abstractParameter, p => p.encode
  | .declarationSpecifier, s => s.encode
  | .abstractDeclarator, d => d.encode
  | .directAbstractDeclarator, d => d.encode
  | .abstractArray, d => d.encode
  | .abstractFunction, d => d.encode
  | .initializer, i => i.encode
  | .initializerList, i => i.encode
  | .initDeclarator, d => d.encode
  | .declaration, d => d.encode
  | .functionDefinition, d => d.encode
  | .externalDeclaration, d => d.encode
  | .translationUnit, u => u.encode

end CDecl
