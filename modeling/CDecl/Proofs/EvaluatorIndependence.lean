import CDecl.Proofs.Skeleton
import CDecl.Syntax.Build

/-!
# Evaluators do not matter for the structure

Lowering branches on no constant: whether a bound has a value only decides how the dimension is written.
So lowering commutes with taking skeletons.  On the skeleton of a context, and with an evaluator that
knows no values, it gives the skeleton of what it gives with any other evaluator (`Mirrors`).

It follows that any two evaluators lead to the same mismatch, or to outputs with the same structure
(`structure_independent`).
-/

namespace CDecl

/-- The evaluator that knows no values and writes nothing. -/
def Evaluator.silent : Evaluator where
  evaluate _ _ := none
  render _ := ""

/-- On the image of a state the second computation gives the image of what the first one gives on the
state. -/
def Mirrors {ε σ α β : Type} (onState : σ → σ) (onValue : α → β) (x : EStateM ε σ α)
    (x₀ : EStateM ε σ β) : Prop :=
  ∀ s, x₀ (onState s) = mapResult onState onValue (x s)

namespace Mirrors

variable {ε σ α α₀ β β₀ : Type} {onState : σ → σ} {onValue : α → α₀} {onValue' : β → β₀}
  {x : EStateM ε σ α} {x₀ : EStateM ε σ α₀} {f : α → EStateM ε σ β} {f₀ : α₀ → EStateM ε σ β₀}

theorem pure {a : α} {b : α₀} (hValue : onValue a = b) :
    Mirrors onState onValue (Pure.pure a : EStateM ε σ α) (Pure.pure b) := by
  subst hValue
  exact fun _ => rfl

theorem throw (e : ε) :
    Mirrors onState onValue (throw e : EStateM ε σ α) (MonadExcept.throw e) :=
  fun _ => rfl

/-- The second part of a sequence starts on an image again. -/
theorem bind (hx : Mirrors onState onValue x x₀)
    (hf : ∀ a, Mirrors onState onValue' (f a) (f₀ (onValue a))) :
    Mirrors onState onValue' (x >>= f) (x₀ >>= f₀) := by
  intro s
  rw [bind_run, bind_run, hx s]
  cases x s with
  | error e s' => rfl
  | ok a s' => exact hf a s'

end Mirrors

namespace Lower

/-! ### The steps that lowering is made of -/

/-- A computation that adds an event is mirrored by one that adds the skeleton of the event. -/
theorem mirrors_of_after {α β : Type} {onValue : α → β} {x : Lower α} {x₀ : Lower β} {a : α}
    (event : Event) (hx : ∀ c, x c = .ok a (c.after event))
    (hx₀ : ∀ c, x₀ c = .ok (onValue a) (c.after event.skeleton)) :
    Mirrors Context.skeleton onValue x x₀ := by
  intro c
  rw [hx, hx₀, mapResult, Context.skeleton_after]

theorem note_mirrors {event event₀ : Event} (hPlain : event.isPlain = true)
    (hSkeleton : event.skeleton = event₀) :
    Mirrors Context.skeleton id (note event) (note event₀) := by
  subst hSkeleton
  exact mirrors_of_after event (note_run hPlain) (note_run (by rwa [Event.skeleton_isPlain]))

theorem unsupported_mirrors (construct : Unsupported) (code : GrammarCase) (location : Span) :
    Mirrors Context.skeleton id (unsupported construct code location)
      (unsupported construct code location) :=
  mirrors_of_after (.unsupportedMet construct code location) (fun _ => rfl) fun _ => rfl

theorem remark_mirrors (message : String) (location : Span) :
    Mirrors Context.skeleton id (remark message location) (remark message location) :=
  mirrors_of_after (.remarkMade message location) (fun _ => rfl) fun _ => rfl

theorem recordSymbol_mirrors (name : String) (value : Option Value) :
    Mirrors Context.skeleton id (recordSymbol name value) (recordSymbol name none) :=
  mirrors_of_after (.symbolRecorded name value) (fun _ => rfl) fun _ => rfl

theorem define_mirrors (a : Aggregate) : Mirrors Context.skeleton Aggregate.skeleton
    (do note (.recordDefined a); recordTag a; return a)
    (do note (.recordDefined a.skeleton); recordTag a.skeleton; return a.skeleton) :=
  mirrors_of_after (.recordDefined a) (define_run a) (define_run a.skeleton)

theorem onlyIf_mirrors {c : Prop} [Decidable c] {x x₀ : Lower Unit}
    (hx : Mirrors Context.skeleton id x x₀) :
    Mirrors Context.skeleton id (onlyIf c x) (onlyIf c x₀) := by
  unfold onlyIf
  split
  · exact hx
  · exact .pure rfl

theorem changeScalar_mirrors (change : Scalar → Scalar) (location : Span) (d : Descriptor) :
    Mirrors Context.skeleton Descriptor.skeleton (changeScalar change location d)
      (changeScalar change location d.skeleton) := by
  cases d with
  | scalar s => exact .pure rfl
  | aggregate a => exact .throw _
  | function f => exact .throw _

theorem qualifier_mirrors (q : TypeQualifier) (d : Descriptor) :
    Mirrors Context.skeleton Descriptor.skeleton (qualifier q d) (qualifier q d.skeleton) := by
  rw [qualifier_eq, qualifier_eq, Descriptor.skeleton_kind]
  refine (onlyIf_mirrors (unsupported_mirrors _ _ _)).bind fun _ => ?_
  refine (onlyIf_mirrors (note_mirrors rfl rfl)).bind fun _ => ?_
  exact .pure (d.skeleton_qualified q.kind)

theorem pointers_mirrors (markers : List PointerMarker) (e : Entity) :
    Mirrors Context.skeleton Entity.skeleton (pointers markers e) (pointers markers e.skeleton) := by
  cases markers with
  | nil => exact .pure rfl
  | cons m markers =>
      rw [e.skeleton_eq]
      exact (note_mirrors rfl rfl).bind fun _ => .pure (Entity.skeleton_eq _)

/-- Which bound a dimension has depends on the evaluator, but not that it has one. -/
theorem boundDimension_run (ev : Evaluator) (bound : Expr) (c : Context) :
    ∃ d, boundDimension ev bound c = .ok d c ∧ d.skeleton = .symbolic "" := by
  have hEvaluate : evaluate ev bound c = .ok (ev.evaluate bound c.symbols) c := rfl
  rw [boundDimension, bind_run, hEvaluate]
  dsimp only
  cases (ev.evaluate bound c.symbols).bind Value.int? with
  | none => exact ⟨_, rfl, rfl⟩
  | some n =>
      dsimp only
      split
      · exact ⟨_, rfl, rfl⟩
      · exact ⟨_, rfl, rfl⟩

theorem boundDimension_mirrors (ev : Evaluator) (bound : Expr) :
    Mirrors Context.skeleton Dimension.skeleton (boundDimension ev bound)
      (boundDimension .silent bound) := by
  intro c
  obtain ⟨d, hRun, hSkeleton⟩ := boundDimension_run ev bound c
  have hSilent : boundDimension .silent bound c.skeleton = .ok (.symbolic "") c.skeleton := rfl
  rw [hRun, hSilent, mapResult, hSkeleton]

theorem dimension_mirrors (ev : Evaluator) (size : ArraySize) (code : GrammarCase)
    (location : Span) :
    Mirrors Context.skeleton Dimension.skeleton (dimension ev size code location)
      (dimension .silent size code location) := by
  match size with
  | .sized none => exact .pure rfl
  | .sized (some bound) => exact boundDimension_mirrors ev bound
  | .static bound | .qualifiedStatic bound =>
      exact (unsupported_mirrors _ _ _).bind fun _ => boundDimension_mirrors ev bound
  | .star => exact (unsupported_mirrors _ _ _).bind fun _ => .pure rfl

theorem prependDimension_mirrors (d : Dimension) (e : Entity) :
    Mirrors Context.skeleton Entity.skeleton (prependDimension d e)
      (prependDimension d.skeleton e.skeleton) := by
  rw [e.skeleton_eq]
  exact (note_mirrors rfl rfl).bind fun _ => .pure (Entity.skeleton_eq _)

theorem anonymousMember_mirrors (base : Descriptor) (location : Span) :
    Mirrors Context.skeleton (List.map Entity.skeleton) (anonymousMember base location)
      (anonymousMember base.skeleton location) := by
  match base with
  | .aggregate ⟨none, _, _⟩ => exact .pure rfl
  | .aggregate ⟨some _, _, _⟩ | .scalar _ | .function _ =>
      exact (remark_mirrors _ _).bind fun _ => .pure rfl

/-! ### One theorem for each kind of node -/

mutual

theorem specifiers_mirrors (ev : Evaluator) : ∀ (specs : List DeclarationSpecifier)
    (built : Specified), Mirrors Context.skeleton Specified.skeleton (specifiers ev specs built)
      (specifiers .silent specs built.skeleton)
  | [], built => by
      rw [specifiers, specifiers]
      exact .pure rfl
  | .storageClass s :: rest, built => by
      rw [specifiers, specifiers]
      exact (note_mirrors rfl rfl).bind fun _ => specifiers_mirrors ev rest _
  | .type t :: rest, built => by
      rw [specifiers, specifiers]
      have hType := typeSpecifier_mirrors ev t built.descriptor
      exact hType.bind fun d => specifiers_mirrors ev rest _
  | .qualifier q :: rest, built => by
      rw [specifiers, specifiers]
      have hQualifier := qualifier_mirrors q built.descriptor
      exact hQualifier.bind fun d => specifiers_mirrors ev rest _
  | .function f :: rest, built => by
      rw [specifiers, specifiers]
      exact (unsupported_mirrors _ _ _).bind fun _ => specifiers_mirrors ev rest built

theorem memberSpecifiers_mirrors (ev : Evaluator) : ∀ (specs : List MemberSpecifier)
    (built : Descriptor), Mirrors Context.skeleton Descriptor.skeleton
      (memberSpecifiers ev specs built) (memberSpecifiers .silent specs built.skeleton)
  | [], built => by
      rw [memberSpecifiers, memberSpecifiers]
      exact .pure rfl
  | .type t :: rest, built => by
      rw [memberSpecifiers, memberSpecifiers]
      have hType := typeSpecifier_mirrors ev t built
      exact hType.bind fun d => memberSpecifiers_mirrors ev rest d
  | .qualifier q :: rest, built => by
      rw [memberSpecifiers, memberSpecifiers]
      have hQualifier := qualifier_mirrors q built
      exact hQualifier.bind fun d => memberSpecifiers_mirrors ev rest d

theorem typeSpecifier_mirrors (ev : Evaluator) : ∀ (t : TypeSpecifier) (built : Descriptor),
    Mirrors Context.skeleton Descriptor.skeleton (typeSpecifier ev t built)
      (typeSpecifier .silent t built.skeleton)
  | ⟨.keyword k, span⟩, built => by
      rw [typeSpecifier, typeSpecifier]
      exact changeScalar_mirrors _ span built
  | ⟨.record r, span⟩, built => by
      rw [typeSpecifier, typeSpecifier]
      exact (record_mirrors ev r).bind fun a => .pure rfl
  | ⟨.enum e, span⟩, built => by
      rw [typeSpecifier, typeSpecifier]
      exact (unsupported_mirrors _ _ _).bind fun _ => .pure rfl
  | ⟨.typedefName name, span⟩, built => by
      rw [typeSpecifier, typeSpecifier]
      exact changeScalar_mirrors _ span built

theorem record_mirrors (ev : Evaluator) : ∀ r : RecordSpecifier,
    Mirrors Context.skeleton Aggregate.skeleton (record ev r) (record .silent r)
  | ⟨kind, tag, none, span⟩ => by
      rw [record, record]
      exact (note_mirrors rfl rfl).bind fun _ => .pure rfl
  | ⟨kind, tag, some declarations, span⟩ => by
      rw [record, record]
      refine (members_mirrors ev declarations).bind fun entities => ?_
      -- The record of the skeletons of the members is the skeleton of the record.
      rw [← Entity.skeletons_eq_map]
      exact define_mirrors ⟨tag.map (·.name), kind == .union, entities⟩

theorem members_mirrors (ev : Evaluator) : ∀ declarations : List MemberDeclaration,
    Mirrors Context.skeleton (List.map Entity.skeleton) (members ev declarations)
      (members .silent declarations)
  | [] => by
      rw [members, members]
      exact .pure rfl
  | ⟨specs, [], span⟩ :: rest => by
      rw [members, members]
      have hSpecs := memberSpecifiers_mirrors ev specs (.scalar {})
      have hRest := members_mirrors ev rest
      refine hSpecs.bind fun base => (anonymousMember_mirrors base span).bind fun here => ?_
      exact hRest.bind fun others => .pure List.map_append
  | ⟨specs, d :: declarators, span⟩ :: rest => by
      rw [members, members]
      have hSpecs := memberSpecifiers_mirrors ev specs (.scalar {})
      have hHere := fun base => memberDeclarators_mirrors ev base (d :: declarators)
      have hRest := members_mirrors ev rest
      refine hSpecs.bind fun base => (hHere base).bind fun here => ?_
      exact hRest.bind fun others => .pure List.map_append

theorem memberDeclarators_mirrors (ev : Evaluator) (base : Descriptor) :
    ∀ declarators : List MemberDeclarator, Mirrors Context.skeleton (List.map Entity.skeleton)
      (memberDeclarators ev base declarators) (memberDeclarators .silent base.skeleton declarators)
  | [] => by
      rw [memberDeclarators, memberDeclarators]
      exact .pure rfl
  | .declarator d :: rest => by
      rw [memberDeclarators, memberDeclarators]
      have hDeclarator := declarator_mirrors ev d (.ofType base)
      have hRest := memberDeclarators_mirrors ev base rest
      exact hDeclarator.bind fun e => hRest.bind fun others => .pure rfl
  | .bitField d width span :: rest => by
      rw [memberDeclarators, memberDeclarators]
      exact (unsupported_mirrors _ _ _).bind fun _ => memberDeclarators_mirrors ev base rest

theorem declarator_mirrors (ev : Evaluator) : ∀ (d : Declarator) (e : Entity),
    Mirrors Context.skeleton Entity.skeleton (declarator ev d e) (declarator .silent d e.skeleton)
  | ⟨markers, direct, span⟩, e => by
      rw [declarator, declarator]
      exact (pointers_mirrors markers e).bind fun e => directDeclarator_mirrors ev direct e

theorem directDeclarator_mirrors (ev : Evaluator) : ∀ (d : DirectDeclarator) (e : Entity),
    Mirrors Context.skeleton Entity.skeleton (directDeclarator ev d e)
      (directDeclarator .silent d e.skeleton)
  | .identifier ⟨name, span⟩, e => by
      rw [directDeclarator, directDeclarator]
      refine (note_mirrors rfl rfl).bind fun _ => .pure ?_
      simp only [Entity.skeleton_eq]
  | .paren inner, e => by
      rw [directDeclarator, directDeclarator, ← e.skeleton_span]
      exact declarator_mirrors ev inner _
  | .array inner qualifiers size span, e => by
      rw [directDeclarator, directDeclarator, ← e.skeleton_span]
      refine (dimension_mirrors ev size _ span).bind fun d => ?_
      exact (prependDimension_mirrors d _).bind fun e => directDeclarator_mirrors ev inner e
  | .function inner suffix span, e => by
      rw [directDeclarator, directDeclarator, ← e.skeleton_span]
      refine (note_mirrors rfl rfl).bind fun _ => ?_
      refine (functionSuffix_mirrors ev suffix span).bind fun wrapped => ?_
      -- The entity moves into the function, and its skeleton into the skeleton of the function.
      have hInner := directDeclarator_mirrors ev inner
        { Entity.ofType (.function ⟨{ e with span }, wrapped.1, wrapped.2⟩) with span }
      rw [Entity.skeleton_function] at hInner
      exact hInner

theorem functionSuffix_mirrors (ev : Evaluator) : ∀ (suffix : FunctionSuffix) (location : Span),
    Mirrors Context.skeleton (Prod.map (List.map Entity.skeleton) id)
      (functionSuffix ev suffix location) (functionSuffix .silent suffix location)
  | .parameters list, location => by
      rw [functionSuffix, functionSuffix]
      exact (parameterList_mirrors ev list).bind fun params => .pure rfl
  | .identifiers names, location => by
      rw [functionSuffix, functionSuffix]
      exact (unsupported_mirrors _ _ _).bind fun _ => .pure rfl

theorem parameterList_mirrors (ev : Evaluator) : ∀ list : ParameterTypeList,
    Mirrors Context.skeleton (List.map Entity.skeleton) (parameterList ev list)
      (parameterList .silent list)
  | ⟨params, variadic, span⟩ => by
      rw [parameterList, parameterList]
      split
      · exact .pure rfl
      · exact parameters_mirrors ev params

theorem parameters_mirrors (ev : Evaluator) : ∀ params : List ParameterDeclaration,
    Mirrors Context.skeleton (List.map Entity.skeleton) (parameters ev params)
      (parameters .silent params)
  | [] => by
      rw [parameters, parameters]
      exact .pure rfl
  | .named specs d span :: rest => by
      rw [parameters, parameters]
      have hSpecs := specifiers_mirrors ev specs {}
      have hDeclarator := fun built : Specified =>
        declarator_mirrors ev d (.ofType built.descriptor)
      have hRest := parameters_mirrors ev rest
      refine hSpecs.bind fun built => (hDeclarator built).bind fun e => ?_
      refine hRest.bind fun others => .pure ?_
      rw [List.map_cons, Entity.skeleton_storage]
      rfl
  | .abstract specs d span :: rest => by
      rw [parameters, parameters]
      exact (unsupported_mirrors _ _ _).bind fun _ => parameters_mirrors ev rest

end

/-! ### Declarations and definitions -/

theorem initializer_mirrors (ev : Evaluator) (init : Option Initializer) (e : Entity) :
    Mirrors Context.skeleton Entity.skeleton (initializer ev init e)
      (initializer .silent init e.skeleton) := by
  match init with
  | none => exact .pure rfl
  | some (.expr x) =>
      -- The value is gone, and the text only shows that there is one.
      intro c
      show EStateM.Result.ok { e.skeleton with value := none, expression := some "" } c.skeleton =
        .ok (Entity.skeleton
          { e with value := ev.evaluate x c.symbols, expression := some (ev.render x) }) c.skeleton
      simp only [Entity.skeleton_eq, Option.map_some]
  | some (.list items trailingComma span) =>
      exact (unsupported_mirrors _ _ _).bind fun _ => .pure rfl

theorem initDeclarator_mirrors (ev : Evaluator) (spec : Specified) (d : InitDeclarator) :
    Mirrors Context.skeleton Entity.skeleton (initDeclarator ev spec d)
      (initDeclarator .silent spec.skeleton d) := by
  unfold initDeclarator
  refine (declarator_mirrors ev d.declarator (.ofType spec.descriptor)).bind fun e => ?_
  -- The storage class is there before the initializer is read.
  have hInitializer := initializer_mirrors ev d.initializer { e with storage := spec.storage }
  rw [Entity.skeleton_storage] at hInitializer
  refine hInitializer.bind fun e => ?_
  -- From here on, symbols differ in their values, and no later step may depend on these.
  rw [e.skeleton_name, e.skeleton_value]
  refine (recordSymbol_mirrors e.name e.value).bind fun _ => ?_
  exact (note_mirrors rfl rfl).bind fun _ => .pure rfl

theorem initDeclarators_mirrors (ev : Evaluator) (spec : Specified) :
    ∀ declarators : List InitDeclarator, Mirrors Context.skeleton (List.map Entity.skeleton)
      (initDeclarators ev spec declarators) (initDeclarators .silent spec.skeleton declarators)
  | [] => .pure rfl
  | d :: rest => by
      rw [initDeclarators, initDeclarators]
      have hRest := initDeclarators_mirrors ev spec rest
      exact (initDeclarator_mirrors ev spec d).bind fun e => hRest.bind fun others => .pure rfl

/-- Lowering an item commutes with taking skeletons. -/
theorem item_mirrors (ev : Evaluator) : ∀ i : ExternalDeclaration,
    Mirrors Context.skeleton (List.map Entity.skeleton) (item ev i) (item .silent i)
  | .declaration d => by
      rw [item, item, declaration_eq, declaration_eq]
      refine (specifiers_mirrors ev d.specifiers {}).bind fun spec => ?_
      refine (onlyIf_mirrors (remark_mirrors _ _)).bind fun _ => ?_
      exact initDeclarators_mirrors ev spec d.initDeclarators
  | .definition d => by
      rw [item, item, definition_eq, definition_eq]
      refine Mirrors.bind ?_ fun e => .pure rfl
      refine (specifiers_mirrors ev d.specifiers {}).bind fun spec => ?_
      refine (onlyIf_mirrors (unsupported_mirrors _ _ _)).bind fun _ => ?_
      refine (declarator_mirrors ev d.declarator (.ofType spec.descriptor)).bind fun e => ?_
      have hStorage : ({ e with storage := spec.storage } : Entity).skeleton =
          { e.skeleton with storage := spec.skeleton.storage } := e.skeleton_storage _
      rw [← hStorage]
      dsimp only
      rw [Entity.skeleton_name]
      refine (recordSymbol_mirrors e.name none).bind fun _ => ?_
      exact (note_mirrors rfl rfl).bind fun _ => .pure rfl

end Lower

/-! ### Sessions -/

namespace Lowering

theorem onContext_mirrors {α β : Type} {onValue : α → β} {x : Lower α} {x₀ : Lower β}
    (hx : Mirrors Context.skeleton onValue x x₀) :
    Mirrors Session.skeleton onValue (onContext x) (onContext x₀) := by
  intro s
  simp only [onContext, Session.skeleton, hx s.context]
  cases x s.context <;> rfl

theorem items_mirrors (ev : Evaluator) : ∀ contents : List ExternalDeclaration,
    Mirrors Session.skeleton id (items ev contents) (items .silent contents)
  | [] => .pure rfl
  | i :: rest => by
      rw [items, items]
      refine (onContext_mirrors (Lower.item_mirrors ev i)).bind fun entities => ?_
      have hAdded : Mirrors Session.skeleton id
          (modify fun s : Session =>
            { s with declarations := s.declarations ++ entities } : Lowering Unit)
          (modify fun s : Session =>
            { s with declarations := s.declarations ++ entities.map Entity.skeleton }) := by
        intro s
        have hAppend : (s.declarations ++ entities).map Entity.skeleton =
            s.declarations.map Entity.skeleton ++ entities.map Entity.skeleton :=
          Array.ext' (by simp)
        show EStateM.Result.ok () _ = .ok () _
        simp only [Session.skeleton, hAppend]
      exact hAdded.bind fun _ => items_mirrors ev rest

theorem unit_mirrors (ev : Evaluator) (contents : List ExternalDeclaration) :
    Mirrors Session.skeleton id (unit ev contents) (unit .silent contents) := by
  intro s
  rw [unit_run, unit_run, items_mirrors ev contents s]
  cases items ev contents s with
  | error e s' => rfl
  | ok _ s' => simp [mapResult, Session.skeleton, Context.skeleton, Event.skeleton]

theorem units_mirrors (ev : Evaluator) : ∀ units : List (List ExternalDeclaration),
    Mirrors Session.skeleton id (Lowering.units ev units) (Lowering.units .silent units)
  | [] => .pure rfl
  | contents :: rest => by
      rw [units, units]
      exact (unit_mirrors ev contents).bind fun _ => units_mirrors ev rest

end Lowering

/-! ### Two evaluators -/

/-- Two outputs differ at most in constants: in the bounds that dimensions have, in values, and in the
texts of expressions. -/
structure Output.SameStructure (o o' : Output) : Prop where
  declarations : o.declarations.map Entity.skeleton = o'.declarations.map Entity.skeleton
  symbols : o.symbols.keys = o'.symbols.keys
  tags : o.tags.keys = o'.tags.keys
  records : o.tags.values.map Aggregate.skeleton = o'.tags.values.map Aggregate.skeleton
  diagnostics : o.diagnostics = o'.diagnostics

/-- Sessions with the same skeleton have outputs with the same structure. -/
theorem Session.sameStructure {s s' : Session} (hSkeleton : s.skeleton = s'.skeleton) :
    s.output.SameStructure s'.output where
  declarations := by
    simpa [skeleton, output] using congrArg (fun r : Session => r.declarations.toList) hSkeleton
  symbols := by
    simpa [skeleton, Context.skeleton, output] using
      congrArg (fun r : Session => r.context.symbols.keys) hSkeleton
  tags := by
    simpa [skeleton, Context.skeleton, output] using
      congrArg (fun r : Session => r.context.tags.keys) hSkeleton
  records := by
    simpa [skeleton, Context.skeleton, output] using
      congrArg (fun r : Session => r.context.tags.values) hSkeleton
  diagnostics := by
    simpa [skeleton, Context.skeleton, output] using
      congrArg (fun r : Session => r.context.report.diagnostics.toList) hSkeleton

/-- **Evaluators do not matter for the structure.**  Whatever has been reported before and whatever the
policy is, a unit and those chained after it have the same mismatch with any two evaluators, if they have
one.  Otherwise both evaluators lead to an output, with the same diagnostics, names and tags, and with
declarations and records that differ at most in constants, at every depth. -/
theorem structure_independent (ev ev' : Evaluator) (report : Report) (u : TranslationUnit) :
    (∀ e : ShapeMismatch, (∃ s, Lowering.units ev u.units (.fresh report) = .error e s) ↔
      ∃ s', Lowering.units ev' u.units (.fresh report) = .error e s') ∧
    ∀ s, Lowering.units ev u.units (.fresh report) = .ok () s →
      ∃ s', Lowering.units ev' u.units (.fresh report) = .ok () s' ∧
        s.output.SameStructure s'.output := by
  -- The run with the silent evaluator is the image of both runs, so the images are the same.
  have hSame := (Lowering.units_mirrors ev u.units (.fresh report)).symm.trans
    (Lowering.units_mirrors ev' u.units (.fresh report))
  cases hRun : Lowering.units ev u.units (.fresh report) with
  | error e s =>
      cases hRun' : Lowering.units ev' u.units (.fresh report) with
      | error e' s' =>
          rw [hRun, hRun'] at hSame
          obtain ⟨rfl, -⟩ := EStateM.Result.error.inj hSame
          exact ⟨fun _ => by simp, nofun⟩
      | ok _ s' =>
          rw [hRun, hRun'] at hSame
          exact nomatch hSame
  | ok _ s =>
      cases hRun' : Lowering.units ev' u.units (.fresh report) with
      | error e' s' =>
          rw [hRun, hRun'] at hSame
          exact nomatch hSame
      | ok _ s' =>
          rw [hRun, hRun'] at hSame
          obtain ⟨-, hSkeleton⟩ := EStateM.Result.ok.inj hSame
          refine ⟨fun _ => by simp, ?_⟩
          rintro _ ⟨⟩
          exact ⟨s', rfl, Session.sameStructure hSkeleton⟩

/-- The evaluator for which everything is `7`. -/
def Evaluator.seven : Evaluator where
  evaluate _ _ := some (.int 7)
  render _ := "seven"

/-- The declarations `int n = -4, a[n][];` and, chained after it,
`struct t { char b[sizeof(int)]; } v = n;`. -/
def TranslationUnit.withBounds : TranslationUnit :=
  let n := Declarator.ofDirect (.ofName "n")
  let row := DirectDeclarator.arrayOf (.ofName "a") (.sized (some (.ident "n")))
  let a := Declarator.ofDirect (.arrayOf row (.sized none))
  let b := Declarator.ofDirect (.arrayOf (.ofName "b") (.sized (some (.ofKind (.sizeOfType "int")))))
  let record := RecordSpecifier.definition .struct (some "t")
    [.ofParts [.ofType (.keyword .char)] [.declarator b]]
  ⟨[.declaration (.ofParts [.ofType (.keyword .int)]
      [⟨n, some (.expr (.unary .minus (.int 4)))⟩, ⟨a, none⟩])],
    some ⟨[.declaration (.ofParts [.ofType (.record record)]
      [⟨.ofDirect (.ofName "v"), some (.expr (.ident "n"))⟩])], none⟩⟩

/-- The bound of `a` is a text for one of the evaluators and a number for the other one. -/
theorem withBounds_structure :
    ∃ s s', Lowering.units .constant TranslationUnit.withBounds.units (.fresh {}) = .ok () s ∧
      Lowering.units .seven TranslationUnit.withBounds.units (.fresh {}) = .ok () s' ∧
      s.output.SameStructure s'.output ∧
      s.output.declarations.map (·.arrays) = [[], [.symbolic "n", .unsized], []] ∧
      s'.output.declarations.map (·.arrays) = [[], [.known 7, .unsized], []] := by
  obtain ⟨-, hStructure⟩ := structure_independent .constant .seven {} .withBounds
  have hLower : succeeds (Lowering.units .constant TranslationUnit.withBounds.units)
      (.fresh {}) = true := by cbv
  obtain ⟨_, s, hRun⟩ := succeeds_iff.mp hLower
  obtain ⟨s', hRun', hSame⟩ := hStructure s hRun
  refine ⟨s, s', hRun, hRun', hSame, ?_, ?_⟩
  · rw [eq_finalState hRun]
    cbv
  · rw [eq_finalState hRun']
    cbv

end CDecl
