import CDecl.Proofs.Layouts
import CDecl.Syntax.Build

/-!
# Reading what was written

A tree that is written as a document is read back from it.  Each type of node has one lemma, drawn from the
rule for its layout; where types refer to each other the lemmas do so in the same way, and lists of nodes
have lemmas of their own there.  A rule for a record is given the layout and the values of the fields, and
what is left to show is that each field is read as its value.
The main result, `tree_read_back`, is drawn from the lemma for translation units.

What is left out is written as `null`.  An option can tell it from a value, since no shape of which there
are options is read from `null`; a chain of pointer markers is left out when it is empty.  Numbers stand in
a document as values here, also those that are not finite, for which its text has no spelling.
-/

namespace CDecl

open Json (Reads)

variable {bodies : BodyForm}

/-! ### Leaves -/

theorem Position.reads_encode (p : Position) : Reads bodies .position p.encode p := by
  have hBound : p.packed.toNat < 4294967296 := p.packed.toNat_lt
  have hWithin : Layout.readWithin 0 4294967295 (.int p.packed.toNat) = some (p.packed.toNat : Int) :=
    if_pos (by omega)
  have hWord : UInt32.ofInt p.packed.toNat = p.packed := by
    have hMod : ((p.packed.toNat : Int) % 2 ^ 32).toNat = p.packed.toNat := by omega
    rw [UInt32.ofInt, hMod, UInt32.ofNat_toNat]
  show (Layout.readWithin 0 4294967295 (.int p.packed.toNat)).map (fun n => (⟨UInt32.ofInt n⟩ : Position)) = _
  rw [hWithin, Option.map_some, hWord]

theorem Json.reads_integer (n : Int64) : Reads bodies .integer (.int n.toInt) n := by
  have hWithin : Layout.readWithin (-9223372036854775808) 9223372036854775807 (.int n.toInt) =
      some n.toInt := if_pos ⟨n.le_toInt, by have := n.toInt_lt; omega⟩
  show (Layout.readWithin _ _ (.int n.toInt)).map Int64.ofInt = _
  simp [hWithin]

theorem Json.reads_character (c : Char) : Reads bodies .character (.str (String.singleton c)) c := by
  show Layout.readCharacter (.str (String.singleton c)) = some c
  simp [Layout.readCharacter]

theorem Json.reads_number (x : Float) : Reads bodies .number (.float x) x := rfl

theorem Json.reads_text (s : String) : Reads bodies .text (.str s) s := rfl

theorem Json.reads_flag (b : Bool) : Reads bodies .flag (.bool b) b := rfl

theorem Span.reads_encode (s : Span) : Reads bodies .span s.encode s := by
  rw [Span.encode]
  refine .record rfl (s.start, s.stop, ()) rfl ?_
  refine .cons ?_ (.cons ?_ .nil)
  · exact s.start.reads_encode
  · exact s.stop.reads_encode

theorem Identifier.reads_encode (i : Identifier) : Reads bodies .identifier i.encode i := by
  rw [Identifier.encode]
  refine .record rfl (i.name, i.span, ()) rfl ?_
  refine .cons ?_ (.cons ?_ .nil)
  · exact Json.reads_text i.name
  · exact i.span.reads_encode

theorem UnaryOp.reads_encode (op : UnaryOp) : Reads bodies .unaryOp op.encode op := by
  cases op <;> exact .bare rfl

theorem BinaryOp.reads_encode (op : BinaryOp) : Reads bodies .binaryOp op.encode op := by
  cases op <;> exact .bare rfl

theorem Literal.reads_encode (l : Literal) : Reads bodies .literal l.encode l := by
  cases l with
  | int n =>
      rw [Literal.encode]
      exact .tagged rfl (Json.reads_integer n) rfl
  | float x =>
      rw [Literal.encode]
      exact .tagged rfl (Json.reads_number x) rfl
  | char c =>
      rw [Literal.encode]
      exact .tagged rfl (Json.reads_character c) rfl
  | str s =>
      rw [Literal.encode]
      exact .tagged rfl (Json.reads_text s) rfl

theorem StorageClass.reads_encode (k : StorageClass) : Reads bodies .storageClass k.encode k := by
  cases k <;> exact .bare rfl

theorem StorageClassSpecifier.reads_encode (s : StorageClassSpecifier) :
    Reads bodies .storageClassSpecifier s.encode s := by
  have hKind : Reads bodies .storageClass s.kind.encode s.kind := s.kind.reads_encode
  rw [StorageClassSpecifier.encode]
  exact .placed rfl hKind s.span.reads_encode rfl

theorem FunctionSpecifierKind.reads_encode (k : FunctionSpecifierKind) :
    Reads bodies .functionSpecifierKind k.encode k := by
  cases k <;> exact .bare rfl

theorem FunctionSpecifier.reads_encode (f : FunctionSpecifier) :
    Reads bodies .functionSpecifier f.encode f := by
  have hKind : Reads bodies .functionSpecifierKind f.kind.encode f.kind := f.kind.reads_encode
  rw [FunctionSpecifier.encode]
  exact .placed rfl hKind f.span.reads_encode rfl

theorem QualifierKind.reads_encode (k : QualifierKind) : Reads bodies .qualifierKind k.encode k := by
  cases k <;> exact .bare rfl

theorem TypeQualifier.reads_encode (q : TypeQualifier) : Reads bodies .typeQualifier q.encode q := by
  have hKind : Reads bodies .qualifierKind q.kind.encode q.kind := q.kind.reads_encode
  rw [TypeQualifier.encode]
  exact .placed rfl hKind q.span.reads_encode rfl

theorem ScalarKeyword.reads_encode (k : ScalarKeyword) :
    Reads bodies .typeSpecifierKind k.encode (.keyword k) := by
  cases k <;> exact .bare rfl

theorem RecordKind.reads_encode (k : RecordKind) : Reads bodies .recordKind k.encode k := by
  cases k <;> exact .bare rfl

/-! ### Expressions -/

mutual

theorem Expr.reads_encode : ∀ e : Expr, Reads bodies .expr e.encode e
  | ⟨kind, span⟩ => by
      have hKind : Reads bodies .exprKind kind.encode kind := kind.reads_encode
      rw [Expr.encode]
      exact .placed rfl hKind span.reads_encode rfl

theorem ExprKind.reads_encode : ∀ k : ExprKind, Reads bodies .exprKind k.encode k
  | .literal value => by
      rw [ExprKind.encode]
      exact .tagged rfl value.reads_encode rfl
  | .ident name => by
      rw [ExprKind.encode]
      exact .tagged rfl (Json.reads_text name) rfl
  | .paren inner => by
      rw [ExprKind.encode]
      exact .tagged rfl inner.reads_encode rfl
  | .unary op operand => by
      have hParts : Reads bodies .unaryOperation (.arr [op.encode, operand.encode])
          (.unary op operand) := by
        refine .tuple rfl (op, operand, ()) rfl ?_
        refine .cons ?_ (.cons ?_ .nil)
        · exact op.reads_encode
        · exact operand.reads_encode
      rw [ExprKind.encode]
      exact .tagged rfl hParts rfl
  | .binary op lhs rhs => by
      have hParts : Reads bodies .binaryOperation (.arr [op.encode, lhs.encode, rhs.encode])
          (.binary op lhs rhs) := by
        refine .tuple rfl (op, lhs, rhs, ()) rfl ?_
        refine .cons ?_ (.cons ?_ (.cons ?_ .nil))
        · exact op.reads_encode
        · exact lhs.reads_encode
        · exact rhs.reads_encode
      rw [ExprKind.encode]
      exact .tagged rfl hParts rfl
  | .conditional condition thenExpr elseExpr => by
      have hParts : Reads bodies .conditional
          (.arr [condition.encode, thenExpr.encode, elseExpr.encode])
          (.conditional condition thenExpr elseExpr) := by
        refine .tuple rfl (condition, thenExpr, elseExpr, ()) rfl ?_
        refine .cons ?_ (.cons ?_ (.cons ?_ .nil))
        · exact condition.reads_encode
        · exact thenExpr.reads_encode
        · exact elseExpr.reads_encode
      rw [ExprKind.encode]
      exact .tagged rfl hParts rfl
  | .cast typeName operand => by
      have hParts : Reads bodies .cast (.arr [.str typeName, operand.encode])
          (.cast typeName operand) := by
        refine .tuple rfl (typeName, operand, ()) rfl ?_
        refine .cons ?_ (.cons ?_ .nil)
        · exact Json.reads_text typeName
        · exact operand.reads_encode
      rw [ExprKind.encode]
      exact .tagged rfl hParts rfl
  | .sizeOfType typeName => by
      rw [ExprKind.encode]
      exact .tagged rfl (Json.reads_text typeName) rfl
  | .verbatim text => by
      rw [ExprKind.encode]
      exact .tagged rfl (Json.reads_text text) rfl

end

theorem ArraySize.reads_encode (s : ArraySize) : Reads bodies .arraySize s.encode s := by
  cases s with
  | sized bound =>
      have hBound : Reads bodies (.option .expr) (.ofOption Expr.encode bound) bound :=
        .ofOption rfl Expr.reads_encode
      rw [ArraySize.encode]
      exact .tagged rfl hBound rfl
  | static bound =>
      rw [ArraySize.encode]
      exact .tagged rfl bound.reads_encode rfl
  | qualifiedStatic bound =>
      rw [ArraySize.encode]
      exact .tagged rfl bound.reads_encode rfl
  | star => exact .bare rfl

theorem Enumerator.reads_encode (e : Enumerator) : Reads bodies .enumerator e.encode e := by
  have hValue : Reads bodies (.option .expr) (.ofOption Expr.encode e.value) e.value :=
    .ofOption rfl Expr.reads_encode
  rw [Enumerator.encode]
  refine .record rfl (e.name, e.value, ()) rfl ?_
  refine .cons ?_ (.cons ?_ .nil)
  · exact e.name.reads_encode
  · exact hValue

theorem EnumSpecifier.reads_encode (e : EnumSpecifier) : Reads bodies .enumSpecifier e.encode e := by
  have hTag : Reads bodies (.option .identifier) (.ofOption Identifier.encode e.tag) e.tag :=
    .ofOption rfl Identifier.reads_encode
  have hList (enumerators : List Enumerator) :
      Reads bodies (.list .enumerator) (.ofList Enumerator.encode enumerators) enumerators :=
    .ofList Enumerator.reads_encode
  rw [EnumSpecifier.encode]
  refine .record rfl (e.tag, e.enumerators, e.span, ()) rfl ?_
  refine .cons ?_ (.cons ?_ (.cons ?_ .nil))
  · exact hTag
  · exact .ofOption rfl hList
  · exact e.span.reads_encode

/-- A chain of markers is read back, the empty one from being left out. -/
theorem PointerMarker.reads_encodeChain (bodies : BodyForm) (markers : List PointerMarker) :
    ∃ chain, Reads bodies (.option .pointer) (encodeChain markers) chain ∧ chain.getD [] = markers := by
  induction markers with
  | nil => exact ⟨none, .none, rfl⟩
  | cons m next ih =>
      -- What follows the marker is read as an option, which is empty at the end of the chain.
      obtain ⟨qualifiers, span⟩ := m
      obtain ⟨chain, hChain, hMarkers⟩ := ih
      have hQualifiers : Reads bodies (.list .typeQualifier)
          (.ofList TypeQualifier.encode qualifiers) qualifiers :=
        .ofList TypeQualifier.reads_encode
      have hBuild : PointerMarker.mk qualifiers span :: chain.getD [] = ⟨qualifiers, span⟩ :: next := by
        rw [hMarkers]
      have hPointer : Reads bodies .pointer (encodeChain (⟨qualifiers, span⟩ :: next))
          (⟨qualifiers, span⟩ :: next) := by
        rw [encodeChain]
        refine .record rfl (qualifiers, chain, span, ()) hBuild ?_
        refine .cons ?_ (.cons ?_ (.cons ?_ .nil))
        · exact hQualifiers
        · exact hChain
        · exact span.reads_encode
      exact ⟨some (⟨qualifiers, span⟩ :: next), .some rfl hPointer, rfl⟩

/-! ### Options inside nodes

What may be left out of a node is read before the node is built, from `null` or from what was written. -/

section Options

variable {j j' : Json} {span : Span}

theorem Json.reads_recordSpecifier {kind : RecordKind} {tag : Option Identifier}
    {members : Option (List MemberDeclaration)}
    (hMembers : Reads bodies (.option (.list .memberDeclaration)) j members) :
    Reads bodies .recordSpecifier
      (.obj [("kind", kind.encode), ("tag", .ofOption Identifier.encode tag), ("members", j),
        ("span", span.encode)])
      ⟨kind, tag, members, span⟩ := by
  have hTag : Reads bodies (.option .identifier) (.ofOption Identifier.encode tag) tag :=
    .ofOption rfl Identifier.reads_encode
  refine .record rfl (kind, tag, members, span, ()) rfl ?_
  refine .cons ?_ (.cons ?_ (.cons ?_ (.cons ?_ .nil)))
  · exact kind.reads_encode
  · exact hTag
  · exact hMembers
  · exact span.reads_encode

theorem Json.reads_bitField {declarator : Option Declarator} {width : Expr}
    (hDeclarator : Reads bodies (.option .declarator) j declarator) :
    Reads bodies .bitField
      (.obj [("declarator", j), ("width", width.encode), ("span", span.encode)])
      (.bitField declarator width span) := by
  refine .body rfl (declarator, width, span, ()) rfl ?_
  refine .cons ?_ (.cons ?_ (.cons ?_ .nil))
  · exact hDeclarator
  · exact width.reads_encode
  · exact span.reads_encode

theorem Json.reads_abstractParameter {specifiers : List DeclarationSpecifier}
    {declarator : Option AbstractDeclarator}
    (hSpecifiers : Reads bodies (.list .declarationSpecifier) j specifiers)
    (hDeclarator : Reads bodies (.option .abstractDeclarator) j' declarator) :
    Reads bodies .abstractParameter
      (.obj [("specifiers", j), ("declarator", j'), ("span", span.encode)])
      (.abstract specifiers declarator span) := by
  refine .body rfl (specifiers, declarator, span, ()) rfl ?_
  refine .cons ?_ (.cons ?_ (.cons ?_ .nil))
  · exact hSpecifiers
  · exact hDeclarator
  · exact span.reads_encode

theorem Json.reads_abstractDeclarator {pointer : List PointerMarker}
    {direct : Option DirectAbstractDeclarator}
    (hDirect : Reads bodies (.option .directAbstractDeclarator) j direct) :
    Reads bodies .abstractDeclarator
      (.obj [("pointer", PointerMarker.encodeChain pointer), ("direct", j), ("span", span.encode)])
      ⟨pointer, direct, span⟩ := by
  obtain ⟨chain, hChain, hMarkers⟩ := PointerMarker.reads_encodeChain bodies pointer
  have hBuild : AbstractDeclarator.mk (chain.getD []) direct span = ⟨pointer, direct, span⟩ := by
    rw [hMarkers]
  refine .record rfl (chain, direct, span, ()) hBuild ?_
  refine .cons ?_ (.cons ?_ (.cons ?_ .nil))
  · exact hChain
  · exact hDirect
  · exact span.reads_encode

theorem Json.reads_abstractArray {inner : Option DirectAbstractDeclarator} {size : ArraySize}
    (hInner : Reads bodies (.option .directAbstractDeclarator) j inner) :
    Reads bodies .abstractArray (.obj [("inner", j), ("size", size.encode)]) (.array inner size) := by
  refine .body rfl (inner, size, ()) rfl ?_
  refine .cons ?_ (.cons ?_ .nil)
  · exact hInner
  · exact size.reads_encode

theorem Json.reads_abstractFunction {inner : Option DirectAbstractDeclarator}
    {params : Option ParameterTypeList}
    (hInner : Reads bodies (.option .directAbstractDeclarator) j inner)
    (hParams : Reads bodies (.option .parameterTypeList) j' params) :
    Reads bodies .abstractFunction (.obj [("inner", j), ("params", j')]) (.function inner params) := by
  refine .body rfl (inner, params, ()) rfl ?_
  refine .cons ?_ (.cons ?_ .nil)
  · exact hInner
  · exact hParams

theorem Json.reads_translationUnit {items : List ExternalDeclaration} {next : Option TranslationUnit}
    (hItems : Reads bodies (.list .externalDeclaration) j items)
    (hNext : Reads bodies (.option .translationUnit) j' next) :
    Reads bodies .translationUnit (.obj [("items", j), ("next", j')]) ⟨items, next⟩ := by
  refine .record rfl (items, next, ()) rfl ?_
  refine .cons ?_ (.cons ?_ .nil)
  · exact hItems
  · exact hNext

end Options

/-! ### Specifiers, declarators, records and parameters -/

mutual

theorem TypeSpecifier.reads_encode : ∀ t : TypeSpecifier, Reads bodies .typeSpecifier t.encode t
  | ⟨kind, span⟩ => by
      have hKind : Reads bodies .typeSpecifierKind kind.encode kind := kind.reads_encode
      rw [TypeSpecifier.encode]
      exact .placed rfl hKind span.reads_encode rfl

theorem TypeSpecifierKind.reads_encode : ∀ k : TypeSpecifierKind,
    Reads bodies .typeSpecifierKind k.encode k
  | .keyword k => by
      rw [TypeSpecifierKind.encode]
      exact k.reads_encode
  | .record r => by
      rw [TypeSpecifierKind.encode]
      exact .tagged rfl r.reads_encode rfl
  | .enum e => by
      rw [TypeSpecifierKind.encode]
      exact .tagged rfl e.reads_encode rfl
  | .typedefName name => by
      rw [TypeSpecifierKind.encode]
      exact .tagged rfl (Json.reads_text name) rfl

theorem RecordSpecifier.reads_encode : ∀ r : RecordSpecifier, Reads bodies .recordSpecifier r.encode r
  | ⟨kind, tag, none, span⟩ => by
      rw [RecordSpecifier.encode]
      exact Json.reads_recordSpecifier .none
  | ⟨kind, tag, some members, span⟩ => by
      have hMembers : Reads bodies (.list .memberDeclaration)
          (.arr (MemberDeclaration.encodeList members)) members :=
        MemberDeclaration.reads_encodeList members
      rw [RecordSpecifier.encode]
      exact Json.reads_recordSpecifier (.some rfl hMembers)

theorem MemberDeclaration.reads_encode : ∀ m : MemberDeclaration,
    Reads bodies .memberDeclaration m.encode m
  | ⟨specifiers, declarators, span⟩ => by
      rw [MemberDeclaration.encode]
      refine .record rfl (specifiers, declarators, span, ()) rfl ?_
      refine .cons ?_ (.cons ?_ (.cons ?_ .nil))
      · exact MemberSpecifier.reads_encodeList specifiers
      · exact MemberDeclarator.reads_encodeList declarators
      · exact span.reads_encode

theorem MemberDeclaration.reads_encodeList : ∀ members : List MemberDeclaration,
    Reads bodies (.list .memberDeclaration) (.arr (MemberDeclaration.encodeList members)) members
  | [] => by
      rw [MemberDeclaration.encodeList]
      exact .nil
  | m :: rest => by
      have hFirst : Reads bodies .memberDeclaration m.encode m := m.reads_encode
      rw [MemberDeclaration.encodeList]
      exact .cons hFirst (MemberDeclaration.reads_encodeList rest)

theorem MemberSpecifier.reads_encode : ∀ s : MemberSpecifier, Reads bodies .memberSpecifier s.encode s
  | .type t => by
      rw [MemberSpecifier.encode]
      exact .tagged rfl t.reads_encode rfl
  | .qualifier q => by
      rw [MemberSpecifier.encode]
      exact .tagged rfl q.reads_encode rfl

theorem MemberSpecifier.reads_encodeList : ∀ specifiers : List MemberSpecifier,
    Reads bodies (.list .memberSpecifier) (.arr (MemberSpecifier.encodeList specifiers)) specifiers
  | [] => by
      rw [MemberSpecifier.encodeList]
      exact .nil
  | s :: rest => by
      have hFirst : Reads bodies .memberSpecifier s.encode s := s.reads_encode
      rw [MemberSpecifier.encodeList]
      exact .cons hFirst (MemberSpecifier.reads_encodeList rest)

theorem MemberDeclarator.reads_encode : ∀ d : MemberDeclarator, Reads bodies .memberDeclarator d.encode d
  | .declarator d => by
      rw [MemberDeclarator.encode]
      exact .tagged rfl d.reads_encode rfl
  | .bitField none width span => by
      rw [MemberDeclarator.encode]
      exact .tagged rfl (Json.reads_bitField .none) rfl
  | .bitField (some d) width span => by
      have hDeclarator : Reads bodies (.option .declarator) d.encode (some d) :=
        .some rfl d.reads_encode
      rw [MemberDeclarator.encode]
      exact .tagged rfl (Json.reads_bitField hDeclarator) rfl

theorem MemberDeclarator.reads_encodeList : ∀ declarators : List MemberDeclarator,
    Reads bodies (.list .memberDeclarator) (.arr (MemberDeclarator.encodeList declarators)) declarators
  | [] => by
      rw [MemberDeclarator.encodeList]
      exact .nil
  | d :: rest => by
      have hFirst : Reads bodies .memberDeclarator d.encode d := d.reads_encode
      rw [MemberDeclarator.encodeList]
      exact .cons hFirst (MemberDeclarator.reads_encodeList rest)

theorem Declarator.reads_encode : ∀ d : Declarator, Reads bodies .declarator d.encode d
  | ⟨pointer, direct, span⟩ => by
      obtain ⟨chain, hChain, hMarkers⟩ := PointerMarker.reads_encodeChain bodies pointer
      have hBuild : Declarator.mk (chain.getD []) direct span = ⟨pointer, direct, span⟩ := by
        rw [hMarkers]
      rw [Declarator.encode]
      refine .record rfl (chain, direct, span, ()) hBuild ?_
      refine .cons ?_ (.cons ?_ (.cons ?_ .nil))
      · exact hChain
      · exact direct.reads_encode
      · exact span.reads_encode

theorem DirectDeclarator.reads_encode : ∀ d : DirectDeclarator, Reads bodies .directDeclarator d.encode d
  | .identifier name => by
      rw [DirectDeclarator.encode]
      exact .tagged rfl name.reads_encode rfl
  | .paren inner => by
      rw [DirectDeclarator.encode]
      exact .tagged rfl inner.reads_encode rfl
  | .array inner qualifiers size span => by
      have hArray : Reads bodies .arrayDeclarator
          (.obj [("inner", inner.encode), ("qualifiers", .ofList TypeQualifier.encode qualifiers),
            ("size", size.encode), ("span", span.encode)])
          (.array inner qualifiers size span) := by
        have hQualifiers : Reads bodies (.list .typeQualifier)
            (.ofList TypeQualifier.encode qualifiers) qualifiers :=
          .ofList TypeQualifier.reads_encode
        refine .body rfl (inner, qualifiers, size, span, ()) rfl ?_
        refine .cons ?_ (.cons ?_ (.cons ?_ (.cons ?_ .nil)))
        · exact inner.reads_encode
        · exact hQualifiers
        · exact size.reads_encode
        · exact span.reads_encode
      rw [DirectDeclarator.encode]
      exact .tagged rfl hArray rfl
  | .function inner suffix span => by
      have hFunction : Reads bodies .functionDeclarator
          (.obj [("inner", inner.encode), ("suffix", suffix.encode), ("span", span.encode)])
          (.function inner suffix span) := by
        refine .body rfl (inner, suffix, span, ()) rfl ?_
        refine .cons ?_ (.cons ?_ (.cons ?_ .nil))
        · exact inner.reads_encode
        · exact suffix.reads_encode
        · exact span.reads_encode
      rw [DirectDeclarator.encode]
      exact .tagged rfl hFunction rfl

theorem FunctionSuffix.reads_encode : ∀ s : FunctionSuffix, Reads bodies .functionSuffix s.encode s
  | .parameters list => by
      rw [FunctionSuffix.encode]
      exact .tagged rfl list.reads_encode rfl
  | .identifiers names => by
      have hNames : Reads bodies (.list .identifier) (.ofList Identifier.encode names) names :=
        .ofList Identifier.reads_encode
      rw [FunctionSuffix.encode]
      exact .tagged rfl hNames rfl

theorem ParameterTypeList.reads_encode : ∀ l : ParameterTypeList,
    Reads bodies .parameterTypeList l.encode l
  | ⟨params, variadic, span⟩ => by
      rw [ParameterTypeList.encode]
      refine .record rfl (params, variadic, span, ()) rfl ?_
      refine .cons ?_ (.cons ?_ (.cons ?_ .nil))
      · exact ParameterDeclaration.reads_encodeList params
      · exact Json.reads_flag variadic
      · exact span.reads_encode

theorem ParameterDeclaration.reads_encode :
    ∀ p : ParameterDeclaration, Reads bodies .parameterDeclaration p.encode p
  | .named specifiers declarator span => by
      have hNamed : Reads bodies .namedParameter
          (.obj [("specifiers", .arr (DeclarationSpecifier.encodeList specifiers)),
            ("declarator", declarator.encode), ("span", span.encode)])
          (.named specifiers declarator span) := by
        refine .body rfl (specifiers, declarator, span, ()) rfl ?_
        refine .cons ?_ (.cons ?_ (.cons ?_ .nil))
        · exact DeclarationSpecifier.reads_encodeList specifiers
        · exact declarator.reads_encode
        · exact span.reads_encode
      rw [ParameterDeclaration.encode]
      exact .tagged rfl hNamed rfl
  | .abstract specifiers none span => by
      have hSpecifiers : Reads bodies (.list .declarationSpecifier)
          (.arr (DeclarationSpecifier.encodeList specifiers)) specifiers :=
        DeclarationSpecifier.reads_encodeList specifiers
      rw [ParameterDeclaration.encode]
      exact .tagged rfl (Json.reads_abstractParameter hSpecifiers .none) rfl
  | .abstract specifiers (some d) span => by
      have hSpecifiers : Reads bodies (.list .declarationSpecifier)
          (.arr (DeclarationSpecifier.encodeList specifiers)) specifiers :=
        DeclarationSpecifier.reads_encodeList specifiers
      have hDeclarator : Reads bodies (.option .abstractDeclarator) d.encode (some d) :=
        .some rfl d.reads_encode
      rw [ParameterDeclaration.encode]
      exact .tagged rfl (Json.reads_abstractParameter hSpecifiers hDeclarator) rfl

theorem ParameterDeclaration.reads_encodeList : ∀ params : List ParameterDeclaration,
    Reads bodies (.list .parameterDeclaration) (.arr (ParameterDeclaration.encodeList params)) params
  | [] => by
      rw [ParameterDeclaration.encodeList]
      exact .nil
  | p :: rest => by
      have hFirst : Reads bodies .parameterDeclaration p.encode p := p.reads_encode
      rw [ParameterDeclaration.encodeList]
      exact .cons hFirst (ParameterDeclaration.reads_encodeList rest)

theorem DeclarationSpecifier.reads_encode :
    ∀ s : DeclarationSpecifier, Reads bodies .declarationSpecifier s.encode s
  | .storageClass s => by
      rw [DeclarationSpecifier.encode]
      exact .tagged rfl s.reads_encode rfl
  | .type t => by
      rw [DeclarationSpecifier.encode]
      exact .tagged rfl t.reads_encode rfl
  | .qualifier q => by
      rw [DeclarationSpecifier.encode]
      exact .tagged rfl q.reads_encode rfl
  | .function f => by
      rw [DeclarationSpecifier.encode]
      exact .tagged rfl f.reads_encode rfl

theorem DeclarationSpecifier.reads_encodeList : ∀ specifiers : List DeclarationSpecifier,
    Reads bodies (.list .declarationSpecifier) (.arr (DeclarationSpecifier.encodeList specifiers)) specifiers
  | [] => by
      rw [DeclarationSpecifier.encodeList]
      exact .nil
  | s :: rest => by
      have hFirst : Reads bodies .declarationSpecifier s.encode s := s.reads_encode
      rw [DeclarationSpecifier.encodeList]
      exact .cons hFirst (DeclarationSpecifier.reads_encodeList rest)

theorem AbstractDeclarator.reads_encode :
    ∀ d : AbstractDeclarator, Reads bodies .abstractDeclarator d.encode d
  | ⟨pointer, none, span⟩ => by
      rw [AbstractDeclarator.encode]
      exact Json.reads_abstractDeclarator .none
  | ⟨pointer, some direct, span⟩ => by
      have hDirect : Reads bodies (.option .directAbstractDeclarator) direct.encode (some direct) :=
        .some rfl direct.reads_encode
      rw [AbstractDeclarator.encode]
      exact Json.reads_abstractDeclarator hDirect

theorem DirectAbstractDeclarator.reads_encode :
    ∀ d : DirectAbstractDeclarator, Reads bodies .directAbstractDeclarator d.encode d
  | .paren inner => by
      rw [DirectAbstractDeclarator.encode]
      exact .tagged rfl inner.reads_encode rfl
  | .array none size => by
      rw [DirectAbstractDeclarator.encode]
      exact .tagged rfl (Json.reads_abstractArray .none) rfl
  | .array (some inner) size => by
      have hInner : Reads bodies (.option .directAbstractDeclarator) inner.encode (some inner) :=
        .some rfl inner.reads_encode
      rw [DirectAbstractDeclarator.encode]
      exact .tagged rfl (Json.reads_abstractArray hInner) rfl
  | .function none none => by
      rw [DirectAbstractDeclarator.encode]
      exact .tagged rfl (Json.reads_abstractFunction .none .none) rfl
  | .function none (some params) => by
      have hParams : Reads bodies (.option .parameterTypeList) params.encode (some params) :=
        .some rfl params.reads_encode
      rw [DirectAbstractDeclarator.encode]
      exact .tagged rfl (Json.reads_abstractFunction .none hParams) rfl
  | .function (some inner) none => by
      have hInner : Reads bodies (.option .directAbstractDeclarator) inner.encode (some inner) :=
        .some rfl inner.reads_encode
      rw [DirectAbstractDeclarator.encode]
      exact .tagged rfl (Json.reads_abstractFunction hInner .none) rfl
  | .function (some inner) (some params) => by
      have hInner : Reads bodies (.option .directAbstractDeclarator) inner.encode (some inner) :=
        .some rfl inner.reads_encode
      have hParams : Reads bodies (.option .parameterTypeList) params.encode (some params) :=
        .some rfl params.reads_encode
      rw [DirectAbstractDeclarator.encode]
      exact .tagged rfl (Json.reads_abstractFunction hInner hParams) rfl

end

/-! ### Declarations -/

mutual

theorem Initializer.reads_encode : ∀ i : Initializer, Reads bodies .initializer i.encode i
  | .expr e => by
      rw [Initializer.encode]
      exact .tagged rfl e.reads_encode rfl
  | .list items trailingComma span => by
      have hList : Reads bodies .initializerList
          (.obj [("items", .arr (Initializer.encodeList items)),
            ("trailing_comma", .bool trailingComma), ("span", span.encode)])
          (.list items trailingComma span) := by
        refine .body rfl (items, trailingComma, span, ()) rfl ?_
        refine .cons ?_ (.cons ?_ (.cons ?_ .nil))
        · exact Initializer.reads_encodeList items
        · exact Json.reads_flag trailingComma
        · exact span.reads_encode
      rw [Initializer.encode]
      exact .tagged rfl hList rfl

theorem Initializer.reads_encodeList : ∀ items : List Initializer,
    Reads bodies (.list .initializer) (.arr (Initializer.encodeList items)) items
  | [] => by
      rw [Initializer.encodeList]
      exact .nil
  | i :: rest => by
      have hFirst : Reads bodies .initializer i.encode i := i.reads_encode
      rw [Initializer.encodeList]
      exact .cons hFirst (Initializer.reads_encodeList rest)

end

theorem InitDeclarator.reads_encode (d : InitDeclarator) : Reads bodies .initDeclarator d.encode d := by
  have hInitializer : Reads bodies (.option .initializer)
      (.ofOption Initializer.encode d.initializer) d.initializer :=
    .ofOption rfl Initializer.reads_encode
  rw [InitDeclarator.encode]
  refine .record rfl (d.declarator, d.initializer, ()) rfl ?_
  refine .cons ?_ (.cons ?_ .nil)
  · exact d.declarator.reads_encode
  · exact hInitializer

theorem Declaration.reads_encode (d : Declaration) : Reads bodies .declaration d.encode d := by
  have hInitDeclarators : Reads bodies (.list .initDeclarator)
      (.ofList InitDeclarator.encode d.initDeclarators) d.initDeclarators :=
    .ofList InitDeclarator.reads_encode
  rw [Declaration.encode]
  refine .record rfl (d.specifiers, d.initDeclarators, d.span, ()) rfl ?_
  refine .cons ?_ (.cons ?_ (.cons ?_ .nil))
  · exact DeclarationSpecifier.reads_encodeList d.specifiers
  · exact hInitDeclarators
  · exact d.span.reads_encode

theorem FunctionDefinition.reads_encode (d : FunctionDefinition) :
    Reads bodies .functionDefinition d.encode d := by
  have hDeclarations : Reads bodies (.list .declaration)
      (.ofList Declaration.encode d.declarations) d.declarations :=
    .ofList Declaration.reads_encode
  rw [FunctionDefinition.encode]
  refine .record rfl (d.specifiers, d.declarator, d.declarations, d.span, ()) rfl ?_
  refine .cons ?_ (.cons ?_ (.cons ?_ (.cons ?_ .nil)))
  · exact DeclarationSpecifier.reads_encodeList d.specifiers
  · exact d.declarator.reads_encode
  · exact hDeclarations
  · exact d.span.reads_encode

theorem ExternalDeclaration.reads_encode (d : ExternalDeclaration) :
    Reads bodies .externalDeclaration d.encode d := by
  cases d with
  | definition d =>
      rw [ExternalDeclaration.encode]
      exact .tagged rfl d.reads_encode rfl
  | declaration d =>
      rw [ExternalDeclaration.encode]
      exact .tagged rfl d.reads_encode rfl

theorem TranslationUnit.reads_encode : ∀ u : TranslationUnit, Reads bodies .translationUnit u.encode u
  | ⟨items, none⟩ => by
      have hItems : Reads bodies (.list .externalDeclaration)
          (.ofList ExternalDeclaration.encode items) items :=
        .ofList ExternalDeclaration.reads_encode
      rw [TranslationUnit.encode]
      exact Json.reads_translationUnit hItems .none
  | ⟨items, some next⟩ => by
      have hItems : Reads bodies (.list .externalDeclaration)
          (.ofList ExternalDeclaration.encode items) items :=
        .ofList ExternalDeclaration.reads_encode
      have hNext : Reads bodies (.option .translationUnit) next.encode (some next) :=
        .some rfl next.reads_encode
      rw [TranslationUnit.encode]
      exact Json.reads_translationUnit hItems hNext

/-! ### Documents -/

/-- No two trees are written as the same document. -/
theorem TranslationUnit.encode_injective : Function.Injective TranslationUnit.encode := by
  intro u v hEncode
  have hFirst : u.encode.view .object .translationUnit = some u := u.reads_encode
  have hSecond : v.encode.view .object .translationUnit = some v := v.reads_encode
  rw [hEncode, hSecond] at hFirst
  exact (Option.some.inj hFirst).symm

/-- **Reading undoes writing.**  Every tree is read back from the document that it is written as, whichever
form the bodies of variants may take.  So a document that is read as a tree can be replaced by the one that
the tree is written as: fields that it leaves out, lists in place of objects, unknown keys and variants
spelled as objects of `null` are gone then, and the tree is the same. -/
theorem tree_read_back :
    (∀ (bodies : BodyForm) (u : TranslationUnit), u.encode.view bodies .translationUnit = some u) ∧
    ∀ (bodies bodies' : BodyForm) (j : Json) (u : TranslationUnit),
      j.view bodies .translationUnit = some u → u.encode.view bodies' .translationUnit = some u :=
  ⟨fun _ u => u.reads_encode, fun _ _ _ u _ => u.reads_encode⟩

/-- A document for `void inline;` that is not how the tree is written: the unit has a key too many and lacks
its chain, the declaration lacks its place, and the specifiers are lists, one with a keyword as an object. -/
def Json.irregular : Json :=
  .obj [("note", .bool true), ("items", .arr [.tagged "Declaration" (.obj [("specifiers", .arr
    [.tagged "TypeSpecifier" (.arr [.tagged "Void" .null]),
      .tagged "FunctionSpecifier" (.arr [.str "Inline"])])])])]

/-- The tree that it is read as. -/
def TranslationUnit.regular : TranslationUnit :=
  ⟨[.declaration (.ofParts [.ofType (.keyword .void), .ofFunctionSpecifier .inline] [])], none⟩

theorem irregular_read_back : Json.irregular.view .object .translationUnit = some .regular ∧
    TranslationUnit.regular.encode ≠ .irregular ∧
    TranslationUnit.regular.encode.view .objectOrList .translationUnit = some .regular := by
  have hRead : Json.irregular.view .object .translationUnit = some .regular := rfl
  refine ⟨hRead, ?_, tree_read_back.2 .object .objectOrList .irregular .regular hRead⟩
  simp [TranslationUnit.encode, TranslationUnit.regular, Json.irregular]

end CDecl
