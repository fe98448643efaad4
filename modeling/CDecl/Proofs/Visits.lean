import CDecl.Proofs.Runs
import CDecl.Proofs.Sites

/-!
# Lowering visits the sites

`Visits` says what a list of sites means for a computation.  If there is a mismatch at one of them,
the computation fails with the first of these; otherwise it gives a value and collects what is found
at the sites, in their order.  Whatever the computation has recorded before does not matter.

Like the tree, the sites are put together from those of smaller parts, and `Visits` is closed under
sequencing, so that there is one theorem for each kind of node.  What a sequence has to know of its
first part is the kind of descriptor that its specifiers have built (`Descriptor.Fits`).
-/

namespace CDecl

/-- A report to which the diagnostics at the given sites are added. -/
def Report.extend (r : Report) (sites : List Site) : Report :=
  { r with diagnostics := r.diagnostics ++ sites.filterMap (Site.diagnostic? r.policy) }

@[simp] theorem Report.extend_nil (r : Report) : r.extend [] = r := by
  simp [extend]

theorem Report.extend_append (r : Report) (first second : List Site) :
    r.extend (first ++ second) = (r.extend first).extend second := by
  simp only [extend, List.filterMap_append, Report.mk.injEq, true_and]
  exact Array.ext' (by simp)

/-- The computation fails with the first mismatch at the sites.  If there is none it gives a value
with the property and collects the diagnostics at the sites. -/
def Visits {σ α : Type} (report : σ → Report) (x : EStateM ShapeMismatch σ α) (sites : List Site)
    (holds : α → Prop) : Prop :=
  ∀ s, match sites.findSome? Site.mismatch? with
    | some e => ∃ s', x s = .error e s'
    | none => ∃ a s', x s = .ok a s' ∧ holds a ∧ report s' = (report s).extend sites

namespace Visits

variable {σ α β : Type} {report : σ → Report} {x : EStateM ShapeMismatch σ α}
  {f : α → EStateM ShapeMismatch σ β} {site : Site} {sites sites' : List Site}
  {holds : α → Prop} {holds' : β → Prop}

theorem pure {a : α} (ha : holds a) :
    Visits report (Pure.pure a : EStateM ShapeMismatch σ α) [] holds :=
  fun s => ⟨a, s, rfl, ha, by simp⟩

/-- A sequence visits the sites of its first part before those of its second. -/
theorem bind (hx : Visits report x sites holds)
    (hf : ∀ a, holds a → Visits report (f a) sites' holds') :
    Visits report (x >>= f) (sites ++ sites') holds' := by
  intro s
  have hFirst := hx s
  rw [List.findSome?_append]
  cases hMismatch : sites.findSome? Site.mismatch? with
  | some e =>
      -- The second part never runs, and the first mismatch is the one of the first part.
      rw [hMismatch] at hFirst
      obtain ⟨s', hRun⟩ := hFirst
      exact ⟨s', by rw [bind_run, hRun]⟩
  | none =>
      rw [hMismatch] at hFirst
      obtain ⟨a, s', hRun, ha, hReport⟩ := hFirst
      rw [bind_run, hRun, Option.none_or]
      have hSecond := hf a ha s'
      rw [hReport, ← Report.extend_append] at hSecond
      exact hSecond

/-- A sequence whose first part has one site. -/
theorem cons (hx : Visits report x [site] holds)
    (hf : ∀ a, holds a → Visits report (f a) sites' holds') :
    Visits report (x >>= f) (site :: sites') holds' :=
  hx.bind hf

/-- A sequence whose first part has no site. -/
theorem silent (hx : Visits report x [] holds)
    (hf : ∀ a, holds a → Visits report (f a) sites' holds') :
    Visits report (x >>= f) sites' holds' :=
  hx.bind hf

/-- A sequence whose second part has no site. -/
theorem andThen (hx : Visits report x sites holds)
    (hf : ∀ a, holds a → Visits report (f a) [] holds') :
    Visits report (x >>= f) sites holds' := by
  have hBoth := hx.bind hf
  rwa [List.append_nil] at hBoth

/-- A site where nothing goes wrong and nothing is found may stand in front. -/
theorem quiet (hMismatch : site.mismatch? = none) (hFinding : site.finding? = none)
    (hx : Visits report x sites holds) : Visits report x (site :: sites) holds := by
  intro s
  have hRun := hx s
  have hSame : (report s).extend (site :: sites) = (report s).extend sites := by
    simp [Report.extend, Site.diagnostic?, hFinding]
  rw [List.findSome?_cons, hMismatch, hSame]
  exact hRun

end Visits

/-! ### What specifiers build -/

/-- Whether a descriptor is of the kind that the given specifiers build: a record with the tag of the
last record specifier among them, and a scalar if there is none. -/
def Descriptor.Fits (specs : List DeclarationSpecifier) (d : Descriptor) : Prop :=
  match lastRecord? specs with
  | none => ∃ s, d = .scalar s
  | some r => ∃ a, d = .aggregate a ∧ a.tag = r.tag.map (·.name)

theorem lastRecord?_isSome (specs : List DeclarationSpecifier) :
    (lastRecord? specs).isSome = specs.any (·.record?.isSome) := by
  rw [Bool.eq_iff_iff, lastRecord?, List.findSome?_isSome_iff, List.any_eq_true]
  simp

namespace Descriptor.Fits

variable {before : List DeclarationSpecifier} {s : DeclarationSpecifier} {d : Descriptor}

theorem scalar (hNone : lastRecord? before = none) (s : Scalar) :
    (Descriptor.scalar s).Fits before := by
  unfold Fits
  rw [hNone]
  exact ⟨s, rfl⟩

/-- Only records change the kind. -/
theorem append (hFits : d.Fits before) (hRecord : s.record? = none) : d.Fits (before ++ [s]) := by
  unfold Fits
  rw [lastRecord?_append_singleton, hRecord, Option.none_or]
  exact hFits

theorem record {r : RecordSpecifier} {span : Span} {a : Aggregate}
    (hTag : a.tag = r.tag.map (·.name)) :
    (Descriptor.aggregate a).Fits (before ++ [.type ⟨.record r, span⟩]) := by
  unfold Fits
  rw [lastRecord?_append_singleton]
  exact ⟨a, rfl, hTag⟩

theorem qualified (hFits : d.Fits before) (kind : QualifierKind) :
    (d.qualified kind).Fits before := by
  unfold Fits at hFits ⊢
  split at hFits
  · obtain ⟨s, rfl⟩ := hFits
    exact ⟨_, rfl⟩
  · exact hFits.imp fun a ⟨hd, hTag⟩ => ⟨by rw [hd]; rfl, hTag⟩

end Descriptor.Fits

namespace Lower

/-! ### The steps that lowering is made of -/

variable {site : Site} {sites : List Site}

theorem note_visits (e : Event) : Visits Context.report (note e) [] fun _ => True :=
  fun c => ⟨(), _, rfl, trivial, by simp⟩

theorem recordTag_visits (a : Aggregate) :
    Visits Context.report (recordTag a) [] fun _ => True := by
  unfold recordTag
  split
  · exact fun c => ⟨(), _, rfl, trivial, by simp⟩
  · exact .pure trivial

theorem recordSymbol_visits (name : String) (value : Option Value) :
    Visits Context.report (recordSymbol name value) [] fun _ => True :=
  fun c => ⟨(), _, rfl, trivial, by simp⟩

theorem evaluate_visits (ev : Evaluator) (e : Expr) :
    Visits Context.report (evaluate ev e) [] fun _ => True :=
  fun c => ⟨_, c, rfl, trivial, by simp⟩

/-- What is found at a site is reported when it is visited. -/
theorem unsupported_visits {construct : Unsupported} {code : GrammarCase} {location : Span}
    (hMismatch : site.mismatch? = none)
    (hFinding : site.finding? = some (.unsupported construct code location)) :
    Visits Context.report (unsupported construct code location) [site] fun _ => True := by
  intro c
  rw [List.findSome?_singleton, hMismatch]
  refine ⟨(), _, rfl, trivial, ?_⟩
  simp only [Report.extend, List.filterMap_cons, List.filterMap_nil, Site.diagnostic?, hFinding,
    Option.bind_some, Finding.diagnostic?, Report.addUnsupported]
  cases c.report.policy.level? with
  | none => simp
  | some level => simp

theorem remark_visits {message : String} {location : Span} (hMismatch : site.mismatch? = none)
    (hFinding : site.finding? = some (.remark message location)) :
    Visits Context.report (remark message location) [site] fun _ => True := by
  intro c
  rw [List.findSome?_singleton, hMismatch]
  refine ⟨(), _, rfl, trivial, ?_⟩
  simp [Report.extend, Site.diagnostic?, hFinding, Finding.diagnostic?, Report.addNote]

theorem onlyIf_visits {p : Prop} [Decidable p] {x : Lower Unit}
    (hx : p → Visits Context.report x sites fun _ => True)
    (hSkip : ¬p → Visits Context.report (pure () : Lower Unit) sites fun _ => True) :
    Visits Context.report (onlyIf p x) sites fun _ => True := by
  unfold onlyIf
  split
  · next hp => exact hx hp
  · next hp => exact hSkip hp

/-- A keyword or typedef name behind a record is a mismatch, and it changes the scalar otherwise. -/
theorem changeScalar_visits {before : List DeclarationSpecifier} {t : TypeSpecifier}
    {d : Descriptor} (change : Scalar → Scalar) (hFits : d.Fits before)
    (hAsks : (DeclarationSpecifier.type t).asksForScalar = true)
    (hRecord : (DeclarationSpecifier.type t).record? = none)
    (hFinding : (Site.specifier before (.type t)).finding? = none) :
    Visits Context.report (changeScalar change t.span d) [.specifier before (.type t)]
      fun d' => d'.Fits (before ++ [.type t]) := by
  have hMismatch : (Site.specifier before (.type t)).mismatch? =
      if (lastRecord? before).isSome then some ⟨.aggregate, t.span⟩ else none := by
    rw [Site.mismatch?, hAsks, lastRecord?_isSome, Bool.true_and]
    rfl
  unfold Descriptor.Fits at hFits
  intro c
  rw [List.findSome?_singleton, hMismatch]
  -- The descriptor is a scalar exactly if no record stands before.
  cases hLast : lastRecord? before with
  | none =>
      rw [hLast] at hFits
      obtain ⟨s, rfl⟩ := hFits
      exact ⟨_, c, rfl, (Descriptor.Fits.scalar hLast (change s)).append hRecord, by
        simp [Report.extend, Site.diagnostic?, hFinding]⟩
  | some r =>
      rw [hLast] at hFits
      obtain ⟨a, rfl, -⟩ := hFits
      exact ⟨c, rfl⟩

theorem qualifier_visits {before : List DeclarationSpecifier} {d : Descriptor}
    (q : TypeQualifier) (hFits : d.Fits before) :
    Visits Context.report (qualifier q d) [.specifier before (.qualifier q)]
      fun d' => d'.Fits (before ++ [.qualifier q]) := by
  rw [qualifier_eq]
  have hReport : Visits Context.report
      (onlyIf (q.kind = .atomic) (unsupported .atomicQualifier q.grammar q.span))
      [.specifier before (.qualifier q)] fun _ => True := by
    refine onlyIf_visits (fun hAtomic => ?_) (fun hOther => ?_)
    · exact unsupported_visits rfl (if_pos hAtomic)
    · exact .quiet rfl (if_neg hOther) (.pure trivial)
  refine hReport.cons fun _ _ => ?_
  refine (onlyIf_visits (fun _ => note_visits _) fun _ => .pure trivial).silent fun _ _ => ?_
  exact .pure ((hFits.qualified q.kind).append rfl)

theorem pointers_visits (markers : List PointerMarker) (e : Entity) :
    Visits Context.report (pointers markers e) (markers.map .marker) fun _ => True := by
  -- Qualifiers behind a marker are not looked at, so that nothing is ever found there.
  have hQuiet : ∀ x : Lower Entity, Visits Context.report x [] (fun _ => True) →
      Visits Context.report x (markers.map .marker) fun _ => True := by
    intro x hx
    induction markers with
    | nil => exact hx
    | cons m rest ih => exact .quiet rfl rfl ih
  apply hQuiet
  cases markers with
  | nil => exact .pure trivial
  | cons m rest => exact (note_visits _).silent fun _ _ => .pure trivial

theorem boundDimension_visits (ev : Evaluator) (bound : Expr) :
    Visits Context.report (boundDimension ev bound) [] fun _ => True := by
  refine (evaluate_visits ev bound).silent fun value _ => ?_
  cases value.bind Value.int? with
  | none => exact .pure trivial
  | some n =>
      dsimp only
      split <;> exact .pure trivial

theorem dimension_visits (ev : Evaluator) (inner : DirectDeclarator)
    (qualifiers : List TypeQualifier) (size : ArraySize) (span : Span) :
    Visits Context.report
      (dimension ev size (DirectDeclarator.array inner qualifiers size span).grammar span)
      [.direct (.array inner qualifiers size span)] fun _ => True := by
  cases size with
  | sized bound =>
      refine .quiet rfl rfl ?_
      cases bound with
      | none => exact .pure trivial
      | some bound => exact boundDimension_visits ev bound
  | static bound =>
      exact (unsupported_visits rfl rfl).cons fun _ _ => boundDimension_visits ev bound
  | qualifiedStatic bound =>
      exact (unsupported_visits rfl rfl).cons fun _ _ => boundDimension_visits ev bound
  | star => exact (unsupported_visits rfl rfl).cons fun _ _ => .pure trivial

theorem prependDimension_visits (d : Dimension) (e : Entity) :
    Visits Context.report (prependDimension d e) [] fun _ => True :=
  (note_visits _).silent fun _ _ => .pure trivial

/-- A member declaration without declarators gets a remark unless its specifiers have built a record
without a tag. -/
theorem anonymousMember_visits {specs : List MemberSpecifier} {base : Descriptor} {span : Span}
    (hFits : base.Fits (specs.map MemberSpecifier.toDeclarationSpecifier)) :
    Visits Context.report (anonymousMember base span) [.member ⟨specs, [], span⟩]
      fun _ => True := by
  let m : MemberDeclaration := ⟨specs, [], span⟩
  have hRemark : m.isAnonymous = false → (Site.member m).finding? =
      some (.remark "member declaration does not declare anything" span) := by
    intro hAnonymous
    rw [Site.finding?, hAnonymous]
    rfl
  have hNothing : m.isAnonymous = true → (Site.member m).finding? = none := by
    intro hAnonymous
    rw [Site.finding?, hAnonymous]
    rfl
  unfold Descriptor.Fits at hFits
  split at hFits
  · next hLast =>
      obtain ⟨s, rfl⟩ := hFits
      have hAnonymous : m.isAnonymous = false := by
        rw [MemberDeclaration.isAnonymous, hLast]
      exact (remark_visits rfl (hRemark hAnonymous)).cons fun _ _ => .pure trivial
  · next r hLast =>
      obtain ⟨⟨tag, isUnion, members⟩, rfl, hTag⟩ := hFits
      obtain rfl : tag = r.tag.map (·.name) := hTag
      have hAnonymous : m.isAnonymous = r.tag.isNone := by
        rw [MemberDeclaration.isAnonymous, hLast]
      cases hName : r.tag with
      | none =>
          rw [hName] at hAnonymous
          exact .quiet rfl (hNothing hAnonymous) (.pure trivial)
      | some name =>
          rw [hName] at hAnonymous
          exact (remark_visits rfl (hRemark hAnonymous)).cons fun _ _ => .pure trivial

/-! ### One theorem for each kind of node -/

mutual

theorem specifiers_visits (ev : Evaluator) : ∀ (specs before : List DeclarationSpecifier)
    (built : Specified), built.descriptor.Fits before →
    Visits Context.report (specifiers ev specs built) (specifierSites before specs)
      fun s => s.descriptor.Fits (before ++ specs)
  | [], before, built, hFits => by
      rw [specifiers, specifierSites, List.append_nil]
      exact .pure hFits
  | .storageClass s :: rest, before, built, hFits => by
      rw [specifiers, specifierSites, List.append_cons before _ rest]
      · have hRest := specifiers_visits ev rest (before ++ [.storageClass s])
          { built with storage := some s.kind } (hFits.append rfl)
        exact (note_visits _).silent fun _ _ => .quiet rfl rfl hRest
      · simp
  | .type t :: rest, before, built, hFits => by
      rw [specifiers, specifierSites, List.append_cons before _ rest]
      have hType := typeSpecifier_visits ev t before built.descriptor hFits
      refine hType.bind fun d hNext => ?_
      exact specifiers_visits ev rest _ { built with descriptor := d } hNext
  | .qualifier q :: rest, before, built, hFits => by
      rw [specifiers, specifierSites, List.append_cons before _ rest]
      · have hQualifier := qualifier_visits q hFits
        refine hQualifier.cons fun d hNext => ?_
        exact specifiers_visits ev rest _ { built with descriptor := d } hNext
      · simp
  | .function f :: rest, before, built, hFits => by
      rw [specifiers, specifierSites, List.append_cons before _ rest]
      · have hRest := specifiers_visits ev rest (before ++ [.function f]) built (hFits.append rfl)
        exact (unsupported_visits rfl rfl).cons fun _ _ => hRest
      · simp
termination_by structural specs => specs

theorem memberSpecifiers_visits (ev : Evaluator) : ∀ (specs : List MemberSpecifier)
    (before : List DeclarationSpecifier) (built : Descriptor), built.Fits before →
    Visits Context.report (memberSpecifiers ev specs built) (memberSpecifierSites before specs)
      fun d => d.Fits (before ++ specs.map MemberSpecifier.toDeclarationSpecifier)
  | [], before, built, hFits => by
      rw [memberSpecifiers, memberSpecifierSites, List.map_nil, List.append_nil]
      exact .pure hFits
  | .type t :: rest, before, built, hFits => by
      rw [memberSpecifiers, memberSpecifierSites, List.map_cons,
        List.append_cons before _ (rest.map MemberSpecifier.toDeclarationSpecifier)]
      have hType := typeSpecifier_visits ev t before built hFits
      refine hType.bind fun d hNext => ?_
      exact memberSpecifiers_visits ev rest _ d hNext
  | .qualifier q :: rest, before, built, hFits => by
      rw [memberSpecifiers, memberSpecifierSites, List.map_cons,
        List.append_cons before _ (rest.map MemberSpecifier.toDeclarationSpecifier)]
      have hQualifier := qualifier_visits q hFits
      refine hQualifier.cons fun d hNext => ?_
      exact memberSpecifiers_visits ev rest _ d hNext
termination_by structural specs => specs

theorem typeSpecifier_visits (ev : Evaluator) : ∀ (t : TypeSpecifier)
    (before : List DeclarationSpecifier) (built : Descriptor), built.Fits before →
    Visits Context.report (typeSpecifier ev t built) (.specifier before (.type t) :: typeSites t)
      fun d => d.Fits (before ++ [.type t])
  | ⟨.keyword k, span⟩, before, built, hFits => by
      rw [typeSpecifier, typeSites]
      exact changeScalar_visits (t := ⟨.keyword k, span⟩) _ hFits rfl rfl rfl
  | ⟨.record r, span⟩, before, built, hFits => by
      rw [typeSpecifier, typeSites]
      have hRecord := record_visits ev r
      -- Whatever was built before is dropped, and the tag decides about anonymous members.
      exact .quiet rfl rfl (hRecord.andThen fun a hTag => .pure (.record hTag))
  | ⟨.enum e, span⟩, before, built, hFits => by
      rw [typeSpecifier, typeSites]
      exact (unsupported_visits rfl rfl).cons fun _ _ => .pure (hFits.append rfl)
  | ⟨.typedefName name, span⟩, before, built, hFits => by
      rw [typeSpecifier, typeSites]
      exact changeScalar_visits (t := ⟨.typedefName name, span⟩) _ hFits rfl rfl rfl
termination_by structural t => t

theorem record_visits (ev : Evaluator) : ∀ r : RecordSpecifier,
    Visits Context.report (record ev r) (recordSites r) fun a => a.tag = r.tag.map (·.name)
  | ⟨kind, tag, none, span⟩ => by
      rw [record, recordSites]
      exact (note_visits _).silent fun _ _ => .pure rfl
  | ⟨kind, tag, some declarations, span⟩ => by
      rw [record, recordSites]
      have hMembers := members_visits ev declarations
      refine hMembers.andThen fun entities _ => ?_
      have hTag := recordTag_visits ⟨tag.map (·.name), kind == .union, entities⟩
      exact (note_visits _).silent fun _ _ => hTag.silent fun _ _ => .pure rfl
termination_by structural r => r

theorem members_visits (ev : Evaluator) : ∀ declarations : List MemberDeclaration,
    Visits Context.report (members ev declarations) (memberSites declarations) fun _ => True
  | [] => by
      rw [members, memberSites]
      exact .pure trivial
  | ⟨specs, [], span⟩ :: rest => by
      rw [members, memberSites, memberDeclaratorSites, List.append_assoc]
      have hSpecs := memberSpecifiers_visits ev specs [] (.scalar {}) (.scalar rfl {})
      have hRest := members_visits ev rest
      refine hSpecs.bind fun base hFits => ?_
      have hAnonymous : Visits Context.report (anonymousMember base span)
          [.member ⟨specs, [], span⟩] fun _ => True := anonymousMember_visits hFits
      exact hAnonymous.cons fun _ _ => hRest.andThen fun _ _ => .pure trivial
  | ⟨specs, d :: declarators, span⟩ :: rest => by
      rw [members, memberSites, List.append_assoc]
      have hSpecs := memberSpecifiers_visits ev specs [] (.scalar {}) (.scalar rfl {})
      have hRest := members_visits ev rest
      refine hSpecs.bind fun base _ => .quiet rfl rfl ?_
      have hDeclarators := memberDeclarators_visits ev base (d :: declarators)
      exact hDeclarators.bind fun _ _ => hRest.andThen fun _ _ => .pure trivial
termination_by structural declarations => declarations

theorem memberDeclarators_visits (ev : Evaluator) (base : Descriptor) :
    ∀ declarators : List MemberDeclarator,
    Visits Context.report (memberDeclarators ev base declarators)
      (memberDeclaratorSites declarators) fun _ => True
  | [] => by
      rw [memberDeclarators, memberDeclaratorSites]
      exact .pure trivial
  | .declarator d :: rest => by
      rw [memberDeclarators, memberDeclaratorSites]
      have hDeclarator := declarator_visits ev d (.ofType base)
      have hRest := memberDeclarators_visits ev base rest
      refine .quiet rfl rfl ?_
      exact hDeclarator.bind fun _ _ => hRest.andThen fun _ _ => .pure trivial
  | .bitField d width span :: rest => by
      rw [memberDeclarators, memberDeclaratorSites]
      have hRest := memberDeclarators_visits ev base rest
      exact (unsupported_visits rfl rfl).cons fun _ _ => hRest
termination_by structural declarators => declarators

theorem declarator_visits (ev : Evaluator) : ∀ (d : Declarator) (e : Entity),
    Visits Context.report (declarator ev d e) (declaratorSites d) fun _ => True
  | ⟨markers, direct, span⟩, e => by
      rw [declarator, declaratorSites]
      have hPointers := pointers_visits markers e
      exact hPointers.bind fun e _ => directDeclarator_visits ev direct e
termination_by structural d => d

theorem directDeclarator_visits (ev : Evaluator) : ∀ (d : DirectDeclarator) (e : Entity),
    Visits Context.report (directDeclarator ev d e) (directSites d) fun _ => True
  | .identifier ⟨name, span⟩, e => by
      rw [directDeclarator, directSites]
      exact .quiet rfl rfl ((note_visits _).silent fun _ _ => .pure trivial)
  | .paren inner, e => by
      rw [directDeclarator, directSites]
      have hInner := declarator_visits ev inner { e with span := inner.span }
      exact .quiet rfl rfl hInner
  | .array inner qualifiers size span, e => by
      rw [directDeclarator, directSites]
      have hDimension := dimension_visits ev inner qualifiers size span
      refine hDimension.cons fun d _ => ?_
      have hPrepend := prependDimension_visits d { e with span }
      exact hPrepend.silent fun e _ => directDeclarator_visits ev inner e
  | .function inner suffix span, e => by
      rw [directDeclarator, directSites]
      have hSuffix := functionSuffix_visits ev inner suffix span
      refine (note_visits _).silent fun _ _ => hSuffix.bind fun wrapped _ => ?_
      exact directDeclarator_visits ev inner _
termination_by structural d => d

/-- The function declarator is a site of its suffix, where an old style list is found. -/
theorem functionSuffix_visits (ev : Evaluator) (inner : DirectDeclarator) :
    ∀ (suffix : FunctionSuffix) (span : Span),
    Visits Context.report (functionSuffix ev suffix span)
      (.direct (.function inner suffix span) :: suffixSites suffix) fun _ => True
  | .parameters list, span => by
      rw [functionSuffix, suffixSites]
      have hList := parameterList_visits ev list
      exact .quiet rfl rfl (hList.andThen fun _ _ => .pure trivial)
  | .identifiers names, span => by
      rw [functionSuffix, suffixSites]
      exact (unsupported_visits rfl rfl).cons fun _ _ => .pure trivial
termination_by structural suffix => suffix

theorem parameterList_visits (ev : Evaluator) : ∀ list : ParameterTypeList,
    Visits Context.report (parameterList ev list) (parameterListSites list) fun _ => True
  | ⟨params, variadic, span⟩ => by
      rw [parameterList, parameterListSites]
      split
      · exact .pure trivial
      · exact parameters_visits ev params
termination_by structural list => list

theorem parameters_visits (ev : Evaluator) : ∀ params : List ParameterDeclaration,
    Visits Context.report (parameters ev params) (parameterSites params) fun _ => True
  | [] => by
      rw [parameters, parameterSites]
      exact .pure trivial
  | .named specs d span :: rest => by
      rw [parameters, parameterSites, List.append_assoc, List.cons_append]
      have hSpecs := specifiers_visits ev specs [] {} (.scalar rfl {})
      have hRest := parameters_visits ev rest
      refine .quiet rfl rfl (hSpecs.bind fun built _ => ?_)
      have hDeclarator := declarator_visits ev d (.ofType built.descriptor)
      exact hDeclarator.bind fun _ _ => hRest.andThen fun _ _ => .pure trivial
  | .abstract specs d span :: rest => by
      rw [parameters, parameterSites]
      have hRest := parameters_visits ev rest
      exact (unsupported_visits rfl rfl).cons fun _ _ => hRest
termination_by structural params => params

end

/-! ### Declarations and definitions -/

theorem initializer_visits (ev : Evaluator) (init : Option Initializer) (e : Entity) :
    Visits Context.report (initializer ev init e) (init.map Site.initializer).toList
      fun _ => True := by
  match init with
  | none => exact .pure trivial
  | some (.expr x) =>
      exact .quiet rfl rfl ((evaluate_visits ev x).silent fun _ _ => .pure trivial)
  | some (.list items trailingComma span) =>
      exact (unsupported_visits rfl rfl).cons fun _ _ => .pure trivial

theorem initDeclarator_visits (ev : Evaluator) (spec : Specified) (d : InitDeclarator) :
    Visits Context.report (initDeclarator ev spec d) d.sites fun _ => True := by
  unfold initDeclarator InitDeclarator.sites
  have hDeclarator := declarator_visits ev d.declarator (.ofType spec.descriptor)
  refine hDeclarator.bind fun e _ => ?_
  have hInitializer := initializer_visits ev d.initializer { e with storage := spec.storage }
  refine hInitializer.andThen fun e _ => ?_
  have hSymbol := recordSymbol_visits e.name e.value
  exact hSymbol.silent fun _ _ => (note_visits _).silent fun _ _ => .pure trivial

theorem initDeclarators_visits (ev : Evaluator) (spec : Specified) :
    ∀ declarators : List InitDeclarator, Visits Context.report
      (initDeclarators ev spec declarators) (declarators.flatMap InitDeclarator.sites)
      fun _ => True
  | [] => .pure trivial
  | d :: rest => by
      rw [initDeclarators, List.flatMap_cons]
      have hFirst := initDeclarator_visits ev spec d
      have hRest := initDeclarators_visits ev spec rest
      exact hFirst.bind fun _ _ => hRest.andThen fun _ _ => .pure trivial

theorem declaration_visits (ev : Evaluator) (d : Declaration) :
    Visits Context.report (declaration ev d) (ExternalDeclaration.declaration d).sites
      fun _ => True := by
  rw [declaration_eq, ExternalDeclaration.sites]
  have hSpecs := specifiers_visits ev d.specifiers [] {} (.scalar rfl {})
  have hRemark : Visits Context.report
      (onlyIf (d.initDeclarators.isEmpty = true)
        (remark "declaration does not declare an identifier" d.span))
      [.declaration d] fun _ => True := by
    refine onlyIf_visits (fun hEmpty => ?_) (fun hSome => ?_)
    · exact remark_visits rfl (if_pos hEmpty)
    · exact .quiet rfl (if_neg hSome) (.pure trivial)
  refine hSpecs.bind fun spec _ => ?_
  exact hRemark.cons fun _ _ => initDeclarators_visits ev spec d.initDeclarators

theorem definition_visits (ev : Evaluator) (d : FunctionDefinition) :
    Visits Context.report (definition ev d) (ExternalDeclaration.definition d).sites
      fun _ => True := by
  rw [definition_eq, ExternalDeclaration.sites]
  have hSpecs := specifiers_visits ev d.specifiers [] {} (.scalar rfl {})
  have hReport : Visits Context.report
      (onlyIf (d.declarations.isEmpty = false)
        (unsupported .oldStyleDeclarations d.grammar d.span))
      [.definition d] fun _ => True := by
    refine onlyIf_visits (fun hSome => ?_) (fun hNone => ?_)
    · exact unsupported_visits rfl (if_neg (by simp [hSome]))
    · exact .quiet rfl (if_pos (by simpa using hNone)) (.pure trivial)
  refine hSpecs.bind fun spec _ => hReport.cons fun _ _ => ?_
  have hDeclarator := declarator_visits ev d.declarator (.ofType spec.descriptor)
  refine hDeclarator.andThen fun e _ => ?_
  have hSymbol := recordSymbol_visits e.name none
  exact hSymbol.silent fun _ _ => (note_visits _).silent fun _ _ => .pure trivial

theorem item_visits (ev : Evaluator) : ∀ i : ExternalDeclaration,
    Visits Context.report (item ev i) i.sites fun _ => True
  | .declaration d => declaration_visits ev d
  | .definition d => (definition_visits ev d).andThen fun _ _ => .pure trivial

end Lower

/-! ### Sessions -/

namespace Lowering

variable {α : Type} {x : Lower α} {sites : List Site} {holds : α → Prop}

theorem onContext_visits (hx : Visits Context.report x sites holds) :
    Visits (·.context.report) (onContext x) sites holds := by
  intro s
  have hRun := hx s.context
  unfold onContext
  cases hMismatch : sites.findSome? Site.mismatch? with
  | some e =>
      rw [hMismatch] at hRun
      obtain ⟨c, hRun⟩ := hRun
      exact ⟨_, by rw [hRun]⟩
  | none =>
      rw [hMismatch] at hRun
      obtain ⟨a, c, hRun, ha, hReport⟩ := hRun
      exact ⟨a, _, by rw [hRun], ha, hReport⟩

theorem items_visits (ev : Evaluator) : ∀ contents : List ExternalDeclaration,
    Visits (·.context.report) (items ev contents) (contents.flatMap ExternalDeclaration.sites)
      fun _ => True
  | [] => .pure trivial
  | i :: rest => by
      have hAdded : ∀ entities : List Entity, Visits (·.context.report)
          (modify fun s : Session => { s with declarations := s.declarations ++ entities })
          [] fun _ => True :=
        fun entities s => ⟨(), _, rfl, trivial, by simp⟩
      rw [items, List.flatMap_cons]
      have hItem := onContext_visits (Lower.item_visits ev i)
      have hRest := items_visits ev rest
      exact hItem.bind fun entities _ => (hAdded entities).silent fun _ _ => hRest

theorem unit_visits (ev : Evaluator) (contents : List ExternalDeclaration) :
    Visits (·.context.report) (unit ev contents) (contents.flatMap ExternalDeclaration.sites)
      fun _ => True := by
  have hGet : Visits (·.context.report) (get : Lowering Session) [] fun _ => True :=
    fun s => ⟨s, s, rfl, trivial, by simp⟩
  unfold unit
  have hItems := items_visits ev contents
  refine hGet.silent fun before _ => hItems.andThen fun _ _ => hGet.silent fun after _ => ?_
  exact (onContext_visits (Lower.note_visits _)).silent fun _ _ => .pure trivial

/-- Lowering a unit and every unit chained after it visits its sites. -/
theorem units_visits (ev : Evaluator) : ∀ units : List (List ExternalDeclaration),
    Visits (·.context.report) (Lowering.units ev units)
      (units.flatMap fun items => items.flatMap ExternalDeclaration.sites) fun _ => True
  | [] => .pure trivial
  | contents :: rest => by
      rw [units, List.flatMap_cons]
      have hUnit := unit_visits ev contents
      have hRest := units_visits ev rest
      exact hUnit.bind fun _ _ => hRest

end Lowering

end CDecl
