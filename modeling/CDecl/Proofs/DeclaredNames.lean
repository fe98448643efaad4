import CDecl.Proofs.DeclarationFollowsUse

/-!
# No declared name is lost

A translation unit declares the names of its init declarators and function definitions, and inside
the types of these it declares members and parameters, which have types with names inside again.
`NameTree` holds all of this and nothing else.  There is one function from entities to name trees and
one from the tree of a translation unit; the second leaves out what lowering leaves out, namely
bit-fields, abstract parameters and member declarations that declare nothing.

The main result, `output_nameTrees`, says that lowering turns the one into the other: it loses no name,
makes up no name and keeps their order at every level.
-/

namespace CDecl

mutual

/-- A declared name with the names that are declared inside. -/
structure NameTree where
  name : String
  body : NameBody

/-- The names that are declared inside a type: members, or parameters and what is inside the result. -/
inductive NameBody where
  | scalar
  | record (tag : Option String) (members : List NameTree)
  | function (returns : NameBody) (params : List NameTree)

end

/-! ### Names in entities -/

mutual

/-- The name of an entity with the names inside. -/
def Entity.nameTree : Entity → NameTree
  | ⟨name, type, _, _, _, _, _, _⟩ => ⟨name, type.nameBody⟩

/-- The names inside a descriptor. -/
def Descriptor.nameBody : Descriptor → NameBody
  | .scalar _ => .scalar
  | .aggregate a => a.nameBody
  | .function f => f.nameBody

/-- The names inside a record. -/
def Aggregate.nameBody : Aggregate → NameBody
  | ⟨tag, _, members⟩ => .record tag (Entity.nameTrees members)

/-- The names inside a function type.  What it returns has no name of its own. -/
def FunctionType.nameBody : FunctionType → NameBody
  | ⟨⟨_, type, _, _, _, _, _, _⟩, params, _⟩ => .function type.nameBody (Entity.nameTrees params)

/-- The names of several entities with the names inside. -/
def Entity.nameTrees : List Entity → List NameTree
  | [] => []
  | e :: rest => e.nameTree :: Entity.nameTrees rest

end

/-- The unnamed member that a record without a tag declares when no declarator follows. -/
def NameBody.anonymousMember : NameBody → List NameTree
  | .record none members => [⟨"", .record none members⟩]
  | _ => []

/-! ### Names in the tree -/

mutual

/-- The names inside what a specifier list says, behind specifiers that have `body` inside. -/
def NameBody.ofSpecifiers (body : NameBody) : List DeclarationSpecifier → NameBody
  | [] => body
  | .type t :: rest => (body.ofType t).ofSpecifiers rest
  | .storageClass _ :: rest | .qualifier _ :: rest | .function _ :: rest => body.ofSpecifiers rest

/-- The names inside what the specifier list of a member says. -/
def NameBody.ofMemberSpecifiers (body : NameBody) : List MemberSpecifier → NameBody
  | [] => body
  | .type t :: rest => (body.ofType t).ofMemberSpecifiers rest
  | .qualifier _ :: rest => body.ofMemberSpecifiers rest

/-- The names inside a type specifier; other specifiers than records leave those before them. -/
def NameBody.ofType (body : NameBody) : TypeSpecifier → NameBody
  | ⟨.record r, _⟩ => .ofRecord r
  | ⟨.keyword _, _⟩ | ⟨.enum _, _⟩ | ⟨.typedefName _, _⟩ => body

/-- The names inside a record specifier. -/
def NameBody.ofRecord : RecordSpecifier → NameBody
  | ⟨_, tag, none, _⟩ => .record (tag.map (·.name)) []
  | ⟨_, tag, some declarations, _⟩ => .record (tag.map (·.name)) (NameTree.ofMembers declarations)

/-- One name for each declarator that is no bit-field, and none for an untagged record without
declarators. -/
def NameTree.ofMembers : List MemberDeclaration → List NameTree
  | [] => []
  | ⟨specs, [], _⟩ :: rest =>
      (NameBody.scalar.ofMemberSpecifiers specs).anonymousMember ++ NameTree.ofMembers rest
  | ⟨specs, d :: declarators, _⟩ :: rest =>
      NameTree.ofMemberDeclarators (NameBody.scalar.ofMemberSpecifiers specs) (d :: declarators) ++
        NameTree.ofMembers rest

/-- One name for each declarator that is no bit-field. -/
def NameTree.ofMemberDeclarators (body : NameBody) : List MemberDeclarator → List NameTree
  | [] => []
  | .declarator d :: rest =>
      ⟨d.leaf.name, d.nameBody body⟩ :: NameTree.ofMemberDeclarators body rest
  | .bitField .. :: rest => NameTree.ofMemberDeclarators body rest

/-- The names inside what a declarator makes of a type that has `body` inside. -/
def Declarator.nameBody (body : NameBody) : Declarator → NameBody
  | ⟨_, direct, _⟩ => direct.nameBody body

/-- The names inside what a direct declarator makes of a type that has `body` inside. -/
def DirectDeclarator.nameBody (body : NameBody) : DirectDeclarator → NameBody
  | .identifier _ => body
  | .paren inner => inner.nameBody body
  | .array inner _ _ _ => inner.nameBody body
  | .function inner suffix _ => inner.nameBody (.function body suffix.nameTrees)

/-- The names of the parameters of a function suffix. -/
def FunctionSuffix.nameTrees : FunctionSuffix → List NameTree
  | .parameters list => list.nameTrees
  | .identifiers _ => []

/-- The names of the parameters of a parameter list. -/
def ParameterTypeList.nameTrees : ParameterTypeList → List NameTree
  | ⟨params, _, _⟩ => NameTree.ofParameters params

/-- One name for each named parameter. -/
def NameTree.ofParameters : List ParameterDeclaration → List NameTree
  | [] => []
  | .named specs d _ :: rest =>
      ⟨d.leaf.name, d.nameBody (NameBody.scalar.ofSpecifiers specs)⟩ :: NameTree.ofParameters rest
  | .abstract .. :: rest => NameTree.ofParameters rest

end

/-! ### Lowering keeps every name -/

theorem Entity.nameTree_eq (e : Entity) : e.nameTree = ⟨e.name, e.type.nameBody⟩ := by
  cases e
  rfl

theorem FunctionType.nameBody_eq (returns : Entity) (params : List Entity) (variadic : Bool) :
    (FunctionType.mk returns params variadic).nameBody =
      .function returns.type.nameBody (Entity.nameTrees params) := by
  cases returns
  rfl

theorem Entity.nameTrees_append (first second : List Entity) :
    Entity.nameTrees (first ++ second) = Entity.nameTrees first ++ Entity.nameTrees second := by
  induction first with
  | nil => rfl
  | cons e rest ih => simp only [List.cons_append, Entity.nameTrees, ih]

/-- The list `(void)` names nothing. -/
theorem ParameterTypeList.nameTrees_of_isVoid {list : ParameterTypeList}
    (hVoid : list.isVoid = true) : list.nameTrees = [] := by
  unfold isVoid at hVoid
  split at hVoid
  · rfl
  · simp at hVoid

namespace Lower

theorem changeScalar_nameBody (change : Scalar → Scalar) (location : Span) (d : Descriptor) :
    Yields (changeScalar change location d) fun d' => d'.nameBody = d.nameBody := by
  cases d with
  | scalar s => exact .pure rfl
  | aggregate a => exact fun _ _ _ hRun => nomatch hRun
  | function f => exact fun _ _ _ hRun => nomatch hRun

theorem qualifier_nameBody (q : TypeQualifier) (d : Descriptor) :
    Yields (qualifier q d) fun d' => d'.nameBody = d.nameBody := by
  rw [qualifier_eq]
  refine .skip fun _ => .skip fun _ => .pure ?_
  cases d <;> rfl

theorem pointers_type (markers : List PointerMarker) (e : Entity) :
    Yields (pointers markers e) fun e' => e'.type = e.type := by
  cases markers with
  | nil => exact .pure rfl
  | cons m markers => exact .skip fun _ => .pure rfl

theorem prependDimension_type (d : Dimension) (e : Entity) :
    Yields (prependDimension d e) fun e' => e'.type = e.type :=
  .skip fun _ => .pure rfl

theorem anonymousMember_nameTrees (base : Descriptor) (location : Span) :
    Yields (anonymousMember base location) fun here =>
      Entity.nameTrees here = base.nameBody.anonymousMember := by
  cases base with
  | scalar s => exact .skip fun _ => .pure rfl
  | function f =>
      obtain ⟨returns, params, variadic⟩ := f
      exact .skip fun _ => .pure (by rw [Descriptor.nameBody, FunctionType.nameBody_eq]; rfl)
  | aggregate a =>
      obtain ⟨tag, isUnion, members⟩ := a
      cases tag with
      | none => exact .pure rfl
      | some tag => exact .skip fun _ => .pure rfl

mutual

theorem specifiers_nameBody (ev : Evaluator) : ∀ (specs : List DeclarationSpecifier)
    (built : Specified), Yields (specifiers ev specs built) fun s =>
      s.descriptor.nameBody = built.descriptor.nameBody.ofSpecifiers specs
  | [], built => by
      rw [specifiers, NameBody.ofSpecifiers]
      exact .pure rfl
  | .storageClass s :: rest, built => by
      rw [specifiers, NameBody.ofSpecifiers]
      have hRest := specifiers_nameBody ev rest { built with storage := some s.kind }
      exact .skip fun _ => hRest
  | .type t :: rest, built => by
      rw [specifiers, NameBody.ofSpecifiers]
      have hType := typeSpecifier_nameBody ev t built.descriptor
      refine hType.bind fun d hBody => ?_
      rw [← hBody]
      exact specifiers_nameBody ev rest { built with descriptor := d }
  | .qualifier q :: rest, built => by
      rw [specifiers, NameBody.ofSpecifiers]
      have hQualifier := qualifier_nameBody q built.descriptor
      refine hQualifier.bind fun d hBody => ?_
      rw [← hBody]
      exact specifiers_nameBody ev rest { built with descriptor := d }
  | .function f :: rest, built => by
      rw [specifiers, NameBody.ofSpecifiers]
      have hRest := specifiers_nameBody ev rest built
      exact .skip fun _ => hRest

theorem memberSpecifiers_nameBody (ev : Evaluator) : ∀ (specs : List MemberSpecifier)
    (built : Descriptor), Yields (memberSpecifiers ev specs built) fun d =>
      d.nameBody = built.nameBody.ofMemberSpecifiers specs
  | [], built => by
      rw [memberSpecifiers, NameBody.ofMemberSpecifiers]
      exact .pure rfl
  | .type t :: rest, built => by
      rw [memberSpecifiers, NameBody.ofMemberSpecifiers]
      have hType := typeSpecifier_nameBody ev t built
      refine hType.bind fun d hBody => ?_
      rw [← hBody]
      exact memberSpecifiers_nameBody ev rest d
  | .qualifier q :: rest, built => by
      rw [memberSpecifiers, NameBody.ofMemberSpecifiers]
      have hQualifier := qualifier_nameBody q built
      refine hQualifier.bind fun d hBody => ?_
      rw [← hBody]
      exact memberSpecifiers_nameBody ev rest d

theorem typeSpecifier_nameBody (ev : Evaluator) : ∀ (t : TypeSpecifier) (built : Descriptor),
    Yields (typeSpecifier ev t built) fun d => d.nameBody = built.nameBody.ofType t
  | ⟨.keyword k, span⟩, built => by
      rw [typeSpecifier, NameBody.ofType]
      exact changeScalar_nameBody _ _ _
  | ⟨.record r, span⟩, built => by
      rw [typeSpecifier, NameBody.ofType]
      have hRecord := record_nameBody ev r
      exact hRecord.bind fun a hBody => .pure hBody
  | ⟨.enum e, span⟩, built => by
      rw [typeSpecifier, NameBody.ofType]
      exact .skip fun _ => .pure rfl
  | ⟨.typedefName name, span⟩, built => by
      rw [typeSpecifier, NameBody.ofType]
      exact changeScalar_nameBody _ _ _

theorem record_nameBody (ev : Evaluator) : ∀ r : RecordSpecifier,
    Yields (record ev r) fun a => a.nameBody = .ofRecord r
  | ⟨kind, tag, none, span⟩ => by
      rw [record, NameBody.ofRecord]
      exact .skip fun _ => .pure rfl
  | ⟨kind, tag, some declarations, span⟩ => by
      rw [record, NameBody.ofRecord]
      have hMembers := members_nameTrees ev declarations
      refine hMembers.bind fun entities hNames => .skip fun _ => .skip fun _ => .pure ?_
      rw [Aggregate.nameBody, hNames]

theorem members_nameTrees (ev : Evaluator) : ∀ declarations : List MemberDeclaration,
    Yields (members ev declarations) fun entities =>
      Entity.nameTrees entities = NameTree.ofMembers declarations
  | [] => by
      rw [members, NameTree.ofMembers]
      exact .pure rfl
  | ⟨specs, [], span⟩ :: rest => by
      rw [members, NameTree.ofMembers]
      have hSpecs := memberSpecifiers_nameBody ev specs (.scalar {})
      have hRest := members_nameTrees ev rest
      refine hSpecs.bind fun base hBase => ?_
      have hAnonymous := anonymousMember_nameTrees base span
      refine hAnonymous.bind fun here hHere => hRest.bind fun others hOthers => .pure ?_
      rw [Entity.nameTrees_append, hHere, hOthers, hBase]
      rfl
  | ⟨specs, d :: declarators, span⟩ :: rest => by
      rw [members, NameTree.ofMembers]
      have hSpecs := memberSpecifiers_nameBody ev specs (.scalar {})
      have hRest := members_nameTrees ev rest
      refine hSpecs.bind fun base hBase => ?_
      have hDeclarators := memberDeclarators_nameTrees ev base (d :: declarators)
      refine hDeclarators.bind fun here hHere => hRest.bind fun others hOthers => .pure ?_
      rw [Entity.nameTrees_append, hHere, hOthers, hBase]
      rfl

theorem memberDeclarators_nameTrees (ev : Evaluator) (base : Descriptor) :
    ∀ declarators : List MemberDeclarator,
    Yields (memberDeclarators ev base declarators) fun entities =>
      Entity.nameTrees entities = NameTree.ofMemberDeclarators base.nameBody declarators
  | [] => by
      rw [memberDeclarators, NameTree.ofMemberDeclarators]
      exact .pure rfl
  | .declarator d :: rest => by
      rw [memberDeclarators, NameTree.ofMemberDeclarators]
      have hDeclarator := declarator_nameTree ev d (.ofType base)
      have hRest := memberDeclarators_nameTrees ev base rest
      refine hDeclarator.bind fun e hName => hRest.bind fun others hOthers => .pure ?_
      rw [Entity.nameTrees, hName, hOthers]
      rfl
  | .bitField d width span :: rest => by
      rw [memberDeclarators, NameTree.ofMemberDeclarators]
      have hRest := memberDeclarators_nameTrees ev base rest
      exact .skip fun _ => hRest

theorem declarator_nameTree (ev : Evaluator) : ∀ (d : Declarator) (e : Entity),
    Yields (declarator ev d e) fun e' =>
      e'.nameTree = ⟨d.leaf.name, d.nameBody e.type.nameBody⟩
  | ⟨markers, direct, span⟩, e => by
      rw [declarator, Declarator.leaf, Declarator.nameBody]
      have hPointers := pointers_type markers e
      refine hPointers.bind fun e₁ hType => ?_
      rw [← hType]
      exact directDeclarator_nameTree ev direct e₁

theorem directDeclarator_nameTree (ev : Evaluator) : ∀ (d : DirectDeclarator) (e : Entity),
    Yields (directDeclarator ev d e) fun e' =>
      e'.nameTree = ⟨d.leaf.name, d.nameBody e.type.nameBody⟩
  | .identifier ⟨name, span⟩, e => by
      rw [directDeclarator, DirectDeclarator.leaf, DirectDeclarator.nameBody]
      exact .skip fun _ => .pure (Entity.nameTree_eq _)
  | .paren inner, e => by
      rw [directDeclarator, DirectDeclarator.leaf, DirectDeclarator.nameBody]
      exact declarator_nameTree ev inner _
  | .array inner qualifiers size span, e => by
      rw [directDeclarator, DirectDeclarator.leaf, DirectDeclarator.nameBody]
      refine .skip fun d => ?_
      have hPrepend := prependDimension_type d { e with span }
      refine hPrepend.bind fun e₁ hType => ?_
      have hInner := directDeclarator_nameTree ev inner e₁
      rw [hType] at hInner
      exact hInner
  | .function inner suffix span, e => by
      rw [directDeclarator, DirectDeclarator.leaf, DirectDeclarator.nameBody]
      have hSuffix := functionSuffix_nameTrees ev suffix span
      refine .skip fun _ => hSuffix.bind fun wrapped hParams => ?_
      -- What was read so far is the result now, so its body is inside that of the function.
      obtain ⟨params, variadic⟩ := wrapped
      rw [← hParams]
      exact directDeclarator_nameTree ev inner
        { Entity.ofType (.function ⟨{ e with span }, params, variadic⟩) with span }

theorem functionSuffix_nameTrees (ev : Evaluator) : ∀ (suffix : FunctionSuffix)
    (location : Span), Yields (functionSuffix ev suffix location) fun wrapped =>
      Entity.nameTrees wrapped.1 = suffix.nameTrees
  | .parameters list, location => by
      rw [functionSuffix, FunctionSuffix.nameTrees]
      have hList := parameterList_nameTrees ev list
      exact hList.bind fun entities hNames => .pure hNames
  | .identifiers names, location => by
      rw [functionSuffix, FunctionSuffix.nameTrees]
      exact .skip fun _ => .pure rfl

theorem parameterList_nameTrees (ev : Evaluator) : ∀ list : ParameterTypeList,
    Yields (parameterList ev list) fun entities => Entity.nameTrees entities = list.nameTrees
  | ⟨params, variadic, span⟩ => by
      rw [parameterList]
      split
      · next hVoid =>
          rw [ParameterTypeList.nameTrees_of_isVoid hVoid]
          exact .pure rfl
      · rw [ParameterTypeList.nameTrees]
        exact parameters_nameTrees ev params

theorem parameters_nameTrees (ev : Evaluator) : ∀ params : List ParameterDeclaration,
    Yields (parameters ev params) fun entities =>
      Entity.nameTrees entities = NameTree.ofParameters params
  | [] => by
      rw [parameters, NameTree.ofParameters]
      exact .pure rfl
  | .named specs d span :: rest => by
      rw [parameters, NameTree.ofParameters]
      have hSpecs := specifiers_nameBody ev specs {}
      have hRest := parameters_nameTrees ev rest
      refine hSpecs.bind fun built hBuilt => ?_
      have hDeclarator := declarator_nameTree ev d (.ofType built.descriptor)
      refine hDeclarator.bind fun e hName => hRest.bind fun others hOthers => .pure ?_
      rw [Entity.nameTree_eq] at hName
      rw [Entity.nameTrees, Entity.nameTree_eq, hName, hOthers, Entity.ofType, hBuilt]
      rfl
  | .abstract specs d span :: rest => by
      rw [parameters, NameTree.ofParameters]
      have hRest := parameters_nameTrees ev rest
      exact .skip fun _ => hRest

end

end Lower

theorem Entity.nameTrees_eq_map (entities : List Entity) :
    Entity.nameTrees entities = entities.map Entity.nameTree := by
  induction entities with
  | nil => rfl
  | cons e rest ih => rw [nameTrees, List.map_cons, ih]

/-! ### Translation units -/

/-- The name of an init declarator, behind specifiers that have `body` inside. -/
def InitDeclarator.nameTree (body : NameBody) (d : InitDeclarator) : NameTree :=
  ⟨d.declarator.leaf.name, d.declarator.nameBody body⟩

namespace ExternalDeclaration

/-- The names that a declaration or a definition declares. -/
def nameTrees : ExternalDeclaration → List NameTree
  | .declaration d =>
      d.initDeclarators.map (InitDeclarator.nameTree (NameBody.scalar.ofSpecifiers d.specifiers))
  | .definition d =>
      [⟨d.declarator.leaf.name, d.declarator.nameBody (NameBody.scalar.ofSpecifiers d.specifiers)⟩]

/-- The identifiers of the init declarators of a declaration, or of a definition. -/
def leaves : ExternalDeclaration → List Identifier
  | .declaration d => d.initDeclarators.map (·.declarator.leaf)
  | .definition d => [d.declarator.leaf]

theorem map_name_nameTrees (i : ExternalDeclaration) :
    i.nameTrees.map (·.name) = i.leaves.map (·.name) := by
  cases i with
  | declaration d => simp [nameTrees, leaves, InitDeclarator.nameTree]
  | definition d => rfl

end ExternalDeclaration

namespace TranslationUnit

/-- The names that a unit and the units chained after it declare. -/
def nameTrees (u : TranslationUnit) : List NameTree :=
  u.units.flatMap fun items => items.flatMap ExternalDeclaration.nameTrees

/-- The identifiers of all init declarators and definitions of a unit and the units chained after
it. -/
def leaves (u : TranslationUnit) : List Identifier :=
  u.units.flatMap fun items => items.flatMap ExternalDeclaration.leaves

theorem map_name_nameTrees (u : TranslationUnit) :
    u.nameTrees.map (·.name) = u.leaves.map (·.name) := by
  simp only [nameTrees, leaves, List.map_flatMap, ExternalDeclaration.map_name_nameTrees]

end TranslationUnit

namespace Lower

theorem initializer_nameTree (ev : Evaluator) (init : Option Initializer) (e : Entity) :
    Yields (initializer ev init e) fun e' => e'.nameTree = e.nameTree := by
  match init with
  | none => exact .pure rfl
  | some (.expr x) => exact .skip fun _ => .pure (by rw [Entity.nameTree_eq, Entity.nameTree_eq])
  | some (.list items trailingComma span) => exact .skip fun _ => .pure rfl

theorem initDeclarator_nameTree (ev : Evaluator) (spec : Specified) (d : InitDeclarator) :
    Yields (initDeclarator ev spec d) fun e =>
      e.nameTree = d.nameTree spec.descriptor.nameBody := by
  unfold initDeclarator
  have hDeclarator := declarator_nameTree ev d.declarator (.ofType spec.descriptor)
  refine hDeclarator.bind fun e hName => ?_
  have hInitializer := initializer_nameTree ev d.initializer { e with storage := spec.storage }
  refine hInitializer.bind fun e' hKept => .skip fun _ => .skip fun _ => .pure ?_
  rw [Entity.nameTree_eq] at hName
  rw [hKept, Entity.nameTree_eq, hName]
  rfl

theorem initDeclarators_nameTrees (ev : Evaluator) (spec : Specified) :
    ∀ declarators : List InitDeclarator, Yields (initDeclarators ev spec declarators)
      fun entities => entities.map Entity.nameTree =
        declarators.map (InitDeclarator.nameTree spec.descriptor.nameBody)
  | [] => .pure rfl
  | d :: rest => by
      rw [initDeclarators]
      have hFirst := initDeclarator_nameTree ev spec d
      have hRest := initDeclarators_nameTrees ev spec rest
      refine hFirst.bind fun e hName => hRest.bind fun others hOthers => .pure ?_
      rw [List.map_cons, List.map_cons, hName, hOthers]

theorem declaration_nameTrees (ev : Evaluator) (d : Declaration) :
    Yields (declaration ev d) fun entities =>
      entities.map Entity.nameTree = (ExternalDeclaration.declaration d).nameTrees := by
  rw [declaration_eq]
  have hSpecs := specifiers_nameBody ev d.specifiers {}
  refine hSpecs.bind fun spec hSpec => ?_
  have hDeclarators := initDeclarators_nameTrees ev spec d.initDeclarators
  rw [hSpec] at hDeclarators
  exact .skip fun _ => hDeclarators

theorem definition_nameTree (ev : Evaluator) (d : FunctionDefinition) :
    Yields (definition ev d) fun e =>
      [e.nameTree] = (ExternalDeclaration.definition d).nameTrees := by
  rw [definition_eq]
  have hSpecs := specifiers_nameBody ev d.specifiers {}
  refine hSpecs.bind fun spec hSpec => .skip fun _ => ?_
  have hDeclarator := declarator_nameTree ev d.declarator (.ofType spec.descriptor)
  refine hDeclarator.bind fun e hName => .skip fun _ => .skip fun _ => .pure ?_
  rw [Entity.nameTree_eq] at hName
  rw [Entity.nameTree_eq, hName, Entity.ofType, hSpec]
  rfl

theorem item_nameTrees (ev : Evaluator) : ∀ i : ExternalDeclaration,
    Yields (item ev i) fun entities => entities.map Entity.nameTree = i.nameTrees
  | .declaration d => declaration_nameTrees ev d
  | .definition d => (definition_nameTree ev d).bind fun _ hName => .pure hName

end Lower

namespace Lowering

/-- A session adds the names of the items to those that it has. -/
theorem items_nameTrees (ev : Evaluator) : ∀ (items : List ExternalDeclaration) {s s' : Session},
    Lowering.items ev items s = .ok () s' →
    s'.declarations.toList.map Entity.nameTree =
      s.declarations.toList.map Entity.nameTree ++ items.flatMap ExternalDeclaration.nameTrees
  | [], s, s', hRun => by
      rw [items] at hRun
      obtain ⟨-, rfl⟩ := pure_eq_ok.mp hRun
      simp
  | i :: rest, s, s', hRun => by
      obtain ⟨entities, c, hItem, hRest⟩ := items_cons_eq_ok.mp hRun
      have hNames := Lower.item_nameTrees ev i _ _ _ hItem
      rw [items_nameTrees ev rest hRest, List.flatMap_cons, ← hNames]
      simp

theorem units_nameTrees (ev : Evaluator) : ∀ (units : List (List ExternalDeclaration))
    {s s' : Session}, Lowering.units ev units s = .ok () s' →
    s'.declarations.toList.map Entity.nameTree =
      s.declarations.toList.map Entity.nameTree ++
        units.flatMap fun items => items.flatMap ExternalDeclaration.nameTrees
  | [], s, s', hRun => by
      rw [units] at hRun
      obtain ⟨-, rfl⟩ := pure_eq_ok.mp hRun
      simp
  | contents :: rest, s, s', hRun => by
      rw [units, bind_run, unit_run] at hRun
      cases hItems : items ev contents s with
      | error e s₁ => simp [hItems] at hRun
      | ok _ s₁ =>
          rw [hItems] at hRun
          have hRest := units_nameTrees ev rest hRun
          rw [hRest, List.flatMap_cons, ← List.append_assoc, ← items_nameTrees ev contents hItems]

end Lowering

/-- **No declared name is lost.**  Where a unit and the units chained after it can be lowered, the
names of the declarations are the identifiers of the init declarators and definitions in source
order, and the names inside their types are those declared in the tree.  Every record definition and
every parameter list that is met on the way, whether it ends up in a declaration or not, has one
member for each declarator that is no bit-field and for each untagged record without declarators, and
one parameter for each named parameter, in order. -/
theorem output_nameTrees (ev : Evaluator) :
    (∀ (policy : WarningPolicy) (u : TranslationUnit) (o : Output),
      u.output? ev policy = .ok o →
        o.declarations.map (·.name) = u.leaves.map (·.name) ∧
          o.declarations.map Entity.nameTree = u.nameTrees) ∧
    (∀ (r : RecordSpecifier) (declarations : List MemberDeclaration) (c c' : Context)
      (a : Aggregate), r.members = some declarations → Lower.record ev r c = .ok a c' →
        a.members.map Entity.nameTree = NameTree.ofMembers declarations) ∧
    ∀ (list : ParameterTypeList) (c c' : Context) (entities : List Entity),
      Lower.parameterList ev list c = .ok entities c' →
        entities.map Entity.nameTree = list.nameTrees := by
  refine ⟨fun policy u o hOutput => ?_, fun r declarations c c' a hMembers hRun => ?_,
    fun list c c' entities hRun => ?_⟩
  · unfold TranslationUnit.output? at hOutput
    split at hOutput
    · next s hRun =>
        obtain rfl := Except.ok.inj hOutput
        have hNames : s.output.declarations.map Entity.nameTree = u.nameTrees :=
          Lowering.units_nameTrees ev u.units hRun
        refine ⟨?_, hNames⟩
        calc s.output.declarations.map (·.name)
            = (s.output.declarations.map Entity.nameTree).map (·.name) := by
              simp [Entity.nameTree_eq, Function.comp_def]
          _ = u.leaves.map (·.name) := by rw [hNames, u.map_name_nameTrees]
    · simp at hOutput
  · obtain ⟨kind, tag, _, span⟩ := r
    obtain rfl : _ = some declarations := hMembers
    have hBody := Lower.record_nameBody ev _ c a c' hRun
    obtain ⟨aTag, isUnion, members⟩ := a
    rw [NameBody.ofRecord] at hBody
    rw [Aggregate.nameBody] at hBody
    rw [← Entity.nameTrees_eq_map]
    exact (NameBody.record.inj hBody).2
  · rw [← Entity.nameTrees_eq_map]
    exact Lower.parameterList_nameTrees ev list c entities c' hRun

/-! ### A unit with everything that declares nothing -/

/-- The record `struct { int a, : 3; union { char b; }; int; }`. -/
def RecordSpecifier.withSkips : RecordSpecifier :=
  let inner := RecordSpecifier.definition .union none
    [.ofParts [.ofType (.keyword .char)] [.declarator (.ofDirect (.ofName "b"))]]
  .definition .struct none
    [.ofParts [.ofType (.keyword .int)]
        [.declarator (.ofDirect (.ofName "a")), .bitField none (.int 3) .empty],
      .ofParts [.ofType (.record inner)] [],
      .ofParts [.ofType (.keyword .int)] []]

/-- The parameter list `(char, int n)`. -/
def ParameterTypeList.withSkips : ParameterTypeList :=
  .ofParams [.abstract [.ofType (.keyword .char)] none .empty,
    .named [.ofType (.keyword .int)] (.ofDirect (.ofName "n")) .empty]

/-- A declaration of `x` and `*y` over the record, and chained after it a definition of `f`. -/
def TranslationUnit.withSkips : TranslationUnit :=
  let x := Declarator.ofDirect (.ofName "x")
  let y := (Declarator.ofDirect (.ofName "y")).pointers 1
  let f := Declarator.ofDirect (.functionWith (.ofName "f") (.parameters .withSkips))
  ⟨[.declaration (.ofParts [.ofType (.record .withSkips)] [⟨x, none⟩, ⟨y, none⟩])],
    some ⟨[.definition (.ofParts [.ofType (.keyword .int)] f)], none⟩⟩

theorem withSkips_names :
    (∃ o, TranslationUnit.withSkips.output? .constant {} = .ok o ∧
      o.declarations.map (·.name) = ["x", "y", "f"]) ∧
    (∃ a c', Lower.record .constant .withSkips {} = .ok a c' ∧
      a.members.map Entity.nameTree = [⟨"a", .scalar⟩, ⟨"", .record none [⟨"b", .scalar⟩]⟩]) ∧
    ∃ entities c', Lower.parameterList .constant .withSkips {} = .ok entities c' ∧
      entities.map Entity.nameTree = [⟨"n", .scalar⟩] := by
  obtain ⟨hUnit, hRecord, hParams⟩ := output_nameTrees .constant
  have hLower : succeeds (Lowering.units .constant TranslationUnit.withSkips.units)
      (.start {}) = true := by cbv
  have hInner : succeeds (Lower.record .constant .withSkips) {} = true := by cbv
  have hList : succeeds (Lower.parameterList .constant .withSkips) {} = true := by cbv
  obtain ⟨_, s, hLower⟩ := succeeds_iff.mp hLower
  obtain ⟨a, c₁, hInner⟩ := succeeds_iff.mp hInner
  obtain ⟨entities, c₂, hList⟩ := succeeds_iff.mp hList
  have hOutput : TranslationUnit.withSkips.output? .constant {} = .ok s.output := by
    rw [TranslationUnit.output?, TranslationUnit.lower, hLower]
  have hMembers := hRecord .withSkips _ {} c₁ a rfl hInner
  exact ⟨⟨s.output, hOutput, (hUnit {} _ _ hOutput).1⟩, ⟨a, c₁, hInner, hMembers⟩,
    entities, c₂, hList, hParams _ _ _ _ hList⟩

end CDecl
