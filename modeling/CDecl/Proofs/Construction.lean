import CDecl.Proofs.History
import CDecl.Proofs.Parts
import CDecl.Proofs.Sites

/-!
# How entities are put together

A part `Fits` if it is well formed, has a name with a given property, and its record, if that has
members, has been defined before.  Lowering builds only what fits, and defines only records made of
parts that fit.  This holds of unfinished work too: a definition that is complete when a mismatch comes
up stays among the definitions.

`Builds` says this of one computation, where it may rely on the records defined so far.  There is one
theorem for each kind of node and then one for each kind of declaration; `item_builds` is the last.
-/

namespace CDecl

/-! ### Parts that fit -/

section Fitting

variable (named : String → Prop) (defined : List Aggregate)

/-- An entity is well formed and named in its role, and its record is a defined one, unless it is a
bare reference or a record without members. -/
structure Entity.Fits (role : Role) (e : Entity) : Prop where
  wellFormed : e.WellFormed role
  named : e.Named named role
  record : ∀ a, e.type = .aggregate a → a.members ≠ [] → a ∈ defined

/-- All parts in a list fit. -/
def PartsFit (parts : List (Role × Entity)) : Prop :=
  ∀ part ∈ parts, part.2.Fits named defined part.1

/-- The defined records are made of parts that fit. -/
def Closed : Prop := ∀ a ∈ defined, PartsFit named defined a.parts

/-- A descriptor that fits as the type of an entity. -/
structure Descriptor.Sound (d : Descriptor) : Prop where
  long : ∀ s, d = .scalar s → s.base = some .long → s.long = true
  record : ∀ a, d = .aggregate a → a.members ≠ [] → a ∈ defined
  parts : PartsFit named defined d.parts

/-- What declarators keep: the dimensions and the type so far are right. -/
structure Entity.Sound (e : Entity) : Prop where
  dimension_lt : ∀ size, .known size ∈ e.arrays → size.toNat < 2 ^ 63
  type : e.type.Sound named defined

end Fitting

variable {named : String → Prop} {defined later : List Aggregate}

namespace PartsFit

theorem nil : PartsFit named defined [] := by simp [PartsFit]

theorem append {first second : List (Role × Entity)} (hFirst : PartsFit named defined first)
    (hSecond : PartsFit named defined second) : PartsFit named defined (first ++ second) := by
  intro part hPart
  rcases List.mem_append.mp hPart with hPart | hPart
  · exact hFirst part hPart
  · exact hSecond part hPart

/-- More definitions do no harm. -/
theorem mono {parts : List (Role × Entity)} (hParts : PartsFit named defined parts)
    (hLater : defined ⊆ later) : PartsFit named later parts := fun part hPart =>
  let hFits := hParts part hPart
  { hFits with record := fun a hType hMembers => hLater (hFits.record a hType hMembers) }

end PartsFit

namespace Descriptor.Sound

theorem mono {d : Descriptor} (hd : d.Sound named defined) (hLater : defined ⊆ later) :
    d.Sound named later where
  long := hd.long
  record := fun a hType hMembers => hLater (hd.record a hType hMembers)
  parts := hd.parts.mono hLater

theorem scalar {s : Scalar} (hLong : s.base = some .long → s.long = true) :
    (Descriptor.scalar s).Sound named defined where
  long := by
    rintro _ ⟨⟩
    exact hLong
  record := fun _ hType => nomatch hType
  parts := .nil

/-- What a specifier list starts with. -/
theorem unspecified : ({} : Specified).descriptor.Sound named defined := .scalar (by simp)

theorem function {returns : Entity} {params : List Entity} (variadic : Bool)
    (hReturns : PartsFit named defined (returns.parts .result))
    (hParams : PartsFit named defined (Entity.partsOfAll .parameter params)) :
    (Descriptor.function ⟨returns, params, variadic⟩).Sound named defined where
  long := fun _ hType => nomatch hType
  record := fun _ hType => nomatch hType
  parts := hReturns.append hParams

theorem qualified {d : Descriptor} (hd : d.Sound named defined) (kind : QualifierKind) :
    (d.qualified kind).Sound named defined := by
  cases d with
  | scalar s => exact .scalar (hd.long s rfl)
  | aggregate a => exact hd
  | function f => exact hd

end Descriptor.Sound

/-- A keyword keeps the modifier `long`, and makes the base `long` only behind it. -/
theorem Scalar.long_add {s : Scalar} (k : ScalarKeyword) (hs : s.base = some .long → s.long = true) :
    (s.add k).base = some .long → (s.add k).long = true := by
  cases k <;> simp_all [Scalar.add]
  split <;> simp_all

namespace Entity.Sound

variable {e : Entity}

theorem mono (he : e.Sound named defined) (hLater : defined ⊆ later) : e.Sound named later where
  dimension_lt := he.dimension_lt
  type := he.type.mono hLater

theorem ofType {d : Descriptor} (hd : d.Sound named defined) :
    (Entity.ofType d).Sound named defined where
  dimension_lt := by simp [Entity.ofType]
  type := hd

/-- With the right marks of its role, an entity fits, and so does everything inside. -/
theorem partsFit (he : e.Sound named defined) (role : Role) (hSuits : e.Suits role)
    (hNamed : e.Named named role) : PartsFit named defined (e.parts role) := by
  have hFits : e.Fits named defined role :=
    ⟨⟨hSuits, he.dimension_lt, he.type.long⟩, hNamed, he.type.record⟩
  rw [Entity.parts_eq]
  intro part hPart
  rcases List.mem_cons.mp hPart with rfl | hPart
  · exact hFits
  · exact he.type.parts part hPart

end Entity.Sound

/-! ### Names at sites -/

/-- The name that a declarator ends with, at the site of that name. -/
def Site.declaredName? : Site → Option String
  | .direct (.identifier i) => some i.name
  | _ => none

/-- Every name that a declarator ends with has the property. -/
def NamesAt (named : String → Prop) (sites : List Site) : Prop :=
  ∀ name ∈ sites.filterMap Site.declaredName?, named name

namespace NamesAt

variable {site : Site} {sites sites' : List Site}

instance [DecidablePred named] : Decidable (NamesAt named sites) :=
  inferInstanceAs (Decidable (∀ name ∈ sites.filterMap Site.declaredName?, named name))

/-- Fewer sites will do. -/
theorem mono (hNames : NamesAt named sites') (hSites : sites ⊆ sites') : NamesAt named sites := by
  intro name hMem
  obtain ⟨site, hSite, hName⟩ := List.mem_filterMap.mp hMem
  exact hNames name (List.mem_filterMap.mpr ⟨site, hSites hSite, hName⟩)

theorem left (hNames : NamesAt named (sites ++ sites')) : NamesAt named sites :=
  hNames.mono (List.subset_append_left _ _)

theorem right (hNames : NamesAt named (sites ++ sites')) : NamesAt named sites' :=
  hNames.mono (List.subset_append_right _ _)

theorem tail (hNames : NamesAt named (site :: sites)) : NamesAt named sites :=
  hNames.mono (List.subset_cons_self _ _)

end NamesAt

namespace Lower

variable {α β : Type}

/-! ### Entities that stay bare -/

theorem pointers_eq (markers : List PointerMarker) (e : Entity) :
    Yields (pointers markers e) fun e' => ∃ total, e' = { e with pointers := total } := by
  cases markers with
  | nil => exact .pure ⟨e.pointers, by cases e; rfl⟩
  | cons m markers => exact .skip fun _ => .pure ⟨_, rfl⟩

theorem prependDimension_eq (d : Dimension) (e : Entity) :
    Yields (prependDimension d e) fun e' => e' = { e with arrays := d :: e.arrays } :=
  .skip fun _ => .pure rfl

mutual

/-- Declarators give no storage class, value or expression. -/
theorem declarator_bare (ev : Evaluator) : ∀ (d : Declarator) {e : Entity}, e.Bare →
    Yields (declarator ev d e) Entity.Bare
  | ⟨markers, direct, span⟩, e, hBare => by
      rw [declarator]
      refine (pointers_eq markers e).bind ?_
      rintro _ ⟨total, rfl⟩
      exact directDeclarator_bare ev direct { hBare with }

theorem directDeclarator_bare (ev : Evaluator) : ∀ (d : DirectDeclarator) {e : Entity}, e.Bare →
    Yields (directDeclarator ev d e) Entity.Bare
  | .identifier ⟨name, span⟩, e, hBare => by
      rw [directDeclarator]
      exact .skip fun _ => .pure { hBare with }
  | .paren inner, e, hBare => by
      rw [directDeclarator]
      exact declarator_bare ev inner { hBare with }
  | .array inner qualifiers size span, e, hBare => by
      rw [directDeclarator]
      refine .skip fun d => (prependDimension_eq d { e with span }).bind ?_
      rintro _ rfl
      exact directDeclarator_bare ev inner { hBare with }
  | .function inner suffix span, e, hBare => by
      rw [directDeclarator]
      refine .skip fun _ => .skip fun wrapped => ?_
      exact directDeclarator_bare ev inner ⟨rfl, rfl, rfl⟩

end

/-! ### Steps that define nothing -/

/-- The computation defines no record. -/
def DefinesNothing (x : Lower α) : Prop := ∀ c, (finalState (x c)).definitions = c.definitions

namespace DefinesNothing

variable {x : Lower α} {f : α → Lower β}

theorem pure (a : α) : DefinesNothing (Pure.pure a : Lower α) := fun _ => rfl

theorem bind (hx : DefinesNothing x) (hf : ∀ a, DefinesNothing (f a)) :
    DefinesNothing (x >>= f) := by
  intro c
  have hFirst := hx c
  rw [bind_run]
  cases hRun : x c with
  | error e c₁ =>
      rw [hRun] at hFirst
      exact hFirst
  | ok a c₁ =>
      rw [hRun] at hFirst
      exact (hf a c₁).trans hFirst

theorem onlyIf {p : Prop} [Decidable p] {x : Lower Unit} (hx : DefinesNothing x) :
    DefinesNothing (onlyIf p x) := by
  unfold Lower.onlyIf
  split
  · exact hx
  · exact pure ()

theorem note {event : Event} (hNone : event.definition? = none) : DefinesNothing (note event) := by
  intro c
  show (c.events.push event).toList.filterMap Event.definition? = c.definitions
  simp [hNone, Context.definitions]

theorem unsupported (construct : Unsupported) (code : GrammarCase) (location : Span) :
    DefinesNothing (unsupported construct code location) :=
  (note rfl).bind fun _ _ => rfl

theorem remark (message : String) (location : Span) : DefinesNothing (remark message location) :=
  (note rfl).bind fun _ _ => rfl

theorem recordSymbol (name : String) (value : Option Value) :
    DefinesNothing (recordSymbol name value) :=
  (note rfl).bind fun _ _ => rfl

theorem evaluate (ev : Evaluator) (e : Expr) : DefinesNothing (evaluate ev e) := fun _ => rfl

theorem changeScalar (change : Scalar → Scalar) (location : Span) (d : Descriptor) :
    DefinesNothing (changeScalar change location d) := by
  cases d <;> exact fun _ => rfl

theorem qualifier (q : TypeQualifier) (d : Descriptor) : DefinesNothing (qualifier q d) := by
  rw [qualifier_eq]
  refine (onlyIf (unsupported _ _ _)).bind fun _ => ?_
  exact (onlyIf (note rfl)).bind fun _ => pure _

theorem pointers (markers : List PointerMarker) (e : Entity) :
    DefinesNothing (pointers markers e) := by
  cases markers with
  | nil => exact pure e
  | cons m markers => exact (note rfl).bind fun _ => pure _

theorem boundDimension (ev : Evaluator) (bound : Expr) :
    DefinesNothing (boundDimension ev bound) := by
  refine (evaluate ev bound).bind fun value => ?_
  cases value.bind Value.int? with
  | none => exact pure _
  | some n =>
      dsimp only
      split <;> exact pure _

theorem dimension (ev : Evaluator) (size : ArraySize) (code : GrammarCase) (location : Span) :
    DefinesNothing (dimension ev size code location) := by
  match size with
  | .sized none => exact pure _
  | .sized (some bound) => exact boundDimension ev bound
  | .static bound | .qualifiedStatic bound =>
      exact (unsupported _ _ _).bind fun _ => boundDimension ev bound
  | .star => exact (unsupported _ _ _).bind fun _ => pure _

theorem prependDimension (d : Dimension) (e : Entity) : DefinesNothing (prependDimension d e) :=
  (note rfl).bind fun _ => pure _

theorem anonymousMember (base : Descriptor) (location : Span) :
    DefinesNothing (anonymousMember base location) := by
  unfold Lower.anonymousMember
  split
  · exact pure _
  · exact (remark _ _).bind fun _ => pure _

theorem initializer (ev : Evaluator) (init : Option Initializer) (e : Entity) :
    DefinesNothing (initializer ev init e) := by
  match init with
  | none => exact pure e
  | some (.expr x) => exact (evaluate ev x).bind fun _ => pure _
  | some (.list items trailingComma span) => exact (unsupported _ _ _).bind fun _ => pure e

end DefinesNothing

/-! ### What the steps make -/

theorem changeScalar_sound (change : Scalar → Scalar) {d : Descriptor} (location : Span)
    (hd : d.Sound named defined)
    (hChange : ∀ s : Scalar, (s.base = some .long → s.long = true) →
      (change s).base = some .long → (change s).long = true) :
    Yields (changeScalar change location d) fun d' => d'.Sound named defined := by
  cases d with
  | scalar s => exact .pure (.scalar (hChange s (hd.long s rfl)))
  | aggregate a => exact fun _ _ _ hRun => nomatch hRun
  | function f => exact fun _ _ _ hRun => nomatch hRun

theorem qualifier_sound (q : TypeQualifier) {d : Descriptor} (hd : d.Sound named defined) :
    Yields (qualifier q d) fun d' => d'.Sound named defined := by
  rw [qualifier_eq]
  exact .skip fun _ => .skip fun _ => .pure (hd.qualified q.kind)

/-- Known bounds are not negative, so that the highest bit is never set. -/
theorem boundDimension_lt (ev : Evaluator) (bound : Expr) :
    Yields (boundDimension ev bound) fun d => ∀ size, d = .known size → size.toNat < 2 ^ 63 := by
  refine .skip fun value => ?_
  cases value.bind Value.int? with
  | none => exact .pure fun _ hKnown => nomatch hKnown
  | some n =>
      dsimp only
      split
      · next hSign =>
          refine .pure ?_
          rintro _ ⟨⟩
          rw [Int64.toNat_toUInt64_of_le hSign]
          exact n.toNatClampNeg_lt
      · exact .pure fun _ hKnown => nomatch hKnown

theorem dimension_lt (ev : Evaluator) (size : ArraySize) (code : GrammarCase) (location : Span) :
    Yields (dimension ev size code location)
      fun d => ∀ size, d = .known size → size.toNat < 2 ^ 63 := by
  match size with
  | .sized none => exact .pure fun _ hKnown => nomatch hKnown
  | .sized (some bound) => exact boundDimension_lt ev bound
  | .static bound | .qualifiedStatic bound => exact .skip fun _ => boundDimension_lt ev bound
  | .star => exact .skip fun _ => .pure fun _ hKnown => nomatch hKnown

theorem anonymousMember_fits {base : Descriptor} (location : Span) (hBase : base.Sound named defined) :
    Yields (anonymousMember base location)
      fun here => PartsFit named defined (Entity.partsOfAll .member here) := by
  unfold anonymousMember
  split
  · next isUnion members =>
      let e : Entity := { Entity.ofType (.aggregate ⟨none, isUnion, members⟩) with span := location }
      have hSound : e.Sound named defined := { Entity.Sound.ofType hBase with }
      have hAnonymous : e.IsAnonymous := ⟨rfl, rfl, rfl, _, rfl, rfl⟩
      have hFits := hSound.partsFit .member ⟨rfl, rfl, rfl⟩ (.inr hAnonymous)
      exact .pure (hFits.append .nil)
  · exact .skip fun _ => .pure .nil

/-! ### Computations that build what fits -/

/-- Run where exactly the records in `defined` are defined and these are closed, the computation keeps
them and leaves closed definitions, at a mismatch too.  A value has the property. -/
def Builds (named : String → Prop) (defined : List Aggregate) (x : Lower α)
    (holds : List Aggregate → α → Prop) : Prop :=
  Closed named defined → ∀ c, c.definitions = defined → match x c with
    | .ok a c' => defined ⊆ c'.definitions ∧ Closed named c'.definitions ∧ holds c'.definitions a
    | .error _ c' => defined ⊆ c'.definitions ∧ Closed named c'.definitions

namespace Builds

variable {x : Lower α} {f : α → Lower β} {holds : List Aggregate → α → Prop} {known : α → Prop}
  {holds' : List Aggregate → β → Prop}

theorem pure {a : α} (ha : holds defined a) : Builds named defined (Pure.pure a) holds := by
  rintro hClosed c rfl
  exact ⟨List.Subset.refl _, hClosed, ha⟩

/-- The second part of a sequence starts with the definitions of the first one. -/
theorem bind (hx : Builds named defined x holds)
    (hf : ∀ later a, defined ⊆ later → holds later a → Builds named later (f a) holds') :
    Builds named defined (x >>= f) holds' := by
  intro hClosed c hc
  have hFirst := hx hClosed c hc
  rw [bind_run]
  cases hRun : x c with
  | error e c₁ =>
      rw [hRun] at hFirst
      exact hFirst
  | ok a c₁ =>
      rw [hRun] at hFirst
      obtain ⟨hLater, hClosed₁, ha⟩ := hFirst
      have hSecond := hf c₁.definitions a hLater ha hClosed₁ c₁ rfl
      dsimp only
      cases hRun' : f a c₁ with
      | error e c₂ =>
          rw [hRun'] at hSecond
          exact ⟨List.Subset.trans hLater hSecond.1, hSecond.2⟩
      | ok b c₂ =>
          rw [hRun'] at hSecond
          obtain ⟨hLater', hClosed₂, hb⟩ := hSecond
          exact ⟨List.Subset.trans hLater hLater', hClosed₂, hb⟩

/-- A sequence whose first part defines nothing. -/
theorem after (hx : DefinesNothing x) (hYields : Yields x known)
    (hf : ∀ a, known a → Builds named defined (f a) holds') :
    Builds named defined (x >>= f) holds' := by
  intro hClosed c hc
  have hKept := hx c
  rw [bind_run]
  cases hRun : x c with
  | error e c₁ =>
      rw [hRun] at hKept
      obtain hKept : c₁.definitions = c.definitions := hKept
      rw [← hc, ← hKept] at hClosed ⊢
      exact ⟨List.Subset.refl _, hClosed⟩
  | ok a c₁ =>
      rw [hRun] at hKept
      exact hf a (hYields c a c₁ hRun) hClosed c₁ (hKept.trans hc)

/-- A computation that defines nothing and whose values have the property. -/
theorem of_yields (hx : DefinesNothing x) (hYields : Yields x (holds defined)) :
    Builds named defined x holds := by
  rw [← bind_pure x]
  exact after hx hYields fun a ha => pure ha

/-- A sequence whose first part defines nothing and has a value that does not matter. -/
theorem skip (hx : DefinesNothing x) (hf : ∀ a, Builds named defined (f a) holds') :
    Builds named defined (x >>= f) holds' :=
  after hx (fun _ _ _ _ => trivial) fun a (_ : True) => hf a

/-- What is known of the values anyhow. -/
theorem and_yields (hx : Builds named defined x holds) (hYields : Yields x known) :
    Builds named defined x fun later a => holds later a ∧ known a := by
  intro hClosed c hc
  have hBuilt := hx hClosed c hc
  cases hRun : x c with
  | error e c₁ =>
      rw [hRun] at hBuilt
      exact hBuilt
  | ok a c₁ =>
      rw [hRun] at hBuilt
      obtain ⟨hLater, hClosed₁, ha⟩ := hBuilt
      exact ⟨hLater, hClosed₁, ha, hYields c a c₁ hRun⟩

/-- A record whose members fit may be defined, and it is a sound type from then on. -/
theorem define {a : Aggregate} (ha : PartsFit named defined a.parts) :
    Builds named defined (do Lower.note (.recordDefined a); recordTag a; return a)
      fun later a => (Descriptor.aggregate a).Sound named later := by
  intro hClosed c hc
  have hDefinitions : (c.after (.recordDefined a)).definitions = defined ++ [a] := by
    rw [Context.definitions_after, hc]
    rfl
  have hLater : defined ⊆ defined ++ [a] := List.subset_append_left _ _
  rw [define_run]
  dsimp only
  rw [hDefinitions]
  refine ⟨hLater, fun b hb => ?_, ?_⟩
  · rcases List.mem_append.mp hb with hb | hb
    · exact (hClosed b hb).mono hLater
    · obtain rfl := List.mem_singleton.mp hb
      exact ha.mono hLater
  · exact
      { long := fun _ hType => nomatch hType
        record := by
          rintro _ ⟨⟩ -
          simp
        parts := ha.mono hLater }

end Builds

/-! ### One theorem for each kind of node -/

mutual

theorem specifiers_builds (ev : Evaluator) : ∀ (specs before : List DeclarationSpecifier)
    {defined : List Aggregate} {built : Specified}, NamesAt named (specifierSites before specs) →
    built.descriptor.Sound named defined →
    Builds named defined (specifiers ev specs built) fun later s => s.descriptor.Sound named later
  | [], before, defined, built, hNames, hBuilt => by
      rw [specifiers]
      exact .pure hBuilt
  | .storageClass s :: rest, before, defined, built, hNames, hBuilt => by
      rw [specifierSites] at hNames
      · rw [specifiers]
        exact .skip (.note rfl) fun _ => specifiers_builds ev rest _ hNames.tail hBuilt
      · simp
  | .type t :: rest, before, defined, built, hNames, hBuilt => by
      rw [specifierSites] at hNames
      rw [specifiers]
      have hType := typeSpecifier_builds ev t hNames.left.tail hBuilt
      exact hType.bind fun later d _ hd => specifiers_builds ev rest _ hNames.right hd
  | .qualifier q :: rest, before, defined, built, hNames, hBuilt => by
      rw [specifierSites] at hNames
      · rw [specifiers]
        refine .after (.qualifier q _) (qualifier_sound q hBuilt) fun d hd => ?_
        exact specifiers_builds ev rest _ hNames.tail hd
      · simp
  | .function f :: rest, before, defined, built, hNames, hBuilt => by
      rw [specifierSites] at hNames
      · rw [specifiers]
        exact .skip (.unsupported _ _ _) fun _ => specifiers_builds ev rest _ hNames.tail hBuilt
      · simp
termination_by structural specs => specs

theorem memberSpecifiers_builds (ev : Evaluator) : ∀ (specs : List MemberSpecifier)
    (before : List DeclarationSpecifier) {defined : List Aggregate} {built : Descriptor},
    NamesAt named (memberSpecifierSites before specs) → built.Sound named defined →
    Builds named defined (memberSpecifiers ev specs built) fun later d => d.Sound named later
  | [], before, defined, built, hNames, hBuilt => by
      rw [memberSpecifiers]
      exact .pure hBuilt
  | .type t :: rest, before, defined, built, hNames, hBuilt => by
      rw [memberSpecifierSites] at hNames
      rw [memberSpecifiers]
      have hType := typeSpecifier_builds ev t hNames.left.tail hBuilt
      exact hType.bind fun later d _ hd => memberSpecifiers_builds ev rest _ hNames.right hd
  | .qualifier q :: rest, before, defined, built, hNames, hBuilt => by
      rw [memberSpecifierSites] at hNames
      rw [memberSpecifiers]
      refine .after (.qualifier q _) (qualifier_sound q hBuilt) fun d hd => ?_
      exact memberSpecifiers_builds ev rest _ hNames.tail hd
termination_by structural specs => specs

theorem typeSpecifier_builds (ev : Evaluator) : ∀ (t : TypeSpecifier) {defined : List Aggregate}
    {built : Descriptor}, NamesAt named (typeSites t) → built.Sound named defined →
    Builds named defined (typeSpecifier ev t built) fun later d => d.Sound named later
  | ⟨.keyword k, span⟩, defined, built, hNames, hBuilt => by
      rw [typeSpecifier]
      have hKeyword := changeScalar_sound (·.add k) span hBuilt fun s hs => Scalar.long_add k hs
      exact .of_yields (.changeScalar _ span _) hKeyword
  | ⟨.record r, span⟩, defined, built, hNames, hBuilt => by
      rw [typeSites] at hNames
      rw [typeSpecifier]
      exact (record_builds ev r hNames).bind fun later a _ ha => .pure ha
  | ⟨.enum e, span⟩, defined, built, hNames, hBuilt => by
      rw [typeSpecifier]
      exact .skip (.unsupported _ _ span) fun _ => .pure hBuilt
  | ⟨.typedefName name, span⟩, defined, built, hNames, hBuilt => by
      rw [typeSpecifier]
      have hName := changeScalar_sound (fun s => { s with base := some (.named name) }) span hBuilt
        fun s _ hBase => nomatch hBase
      exact .of_yields (.changeScalar _ span _) hName
termination_by structural t => t

theorem record_builds (ev : Evaluator) : ∀ (r : RecordSpecifier) {defined : List Aggregate},
    NamesAt named (recordSites r) → Builds named defined (record ev r)
      fun later a => (Descriptor.aggregate a).Sound named later
  | ⟨kind, tag, none, span⟩, defined, hNames => by
      rw [record]
      refine .skip (.note rfl) fun _ => .pure ?_
      exact
        { long := fun _ hType => nomatch hType
          record := by
            rintro _ ⟨⟩ hMembers
            exact absurd rfl hMembers
          parts := .nil }
  | ⟨kind, tag, some declarations, span⟩, defined, hNames => by
      rw [recordSites] at hNames
      rw [record]
      have hMembers : Builds named defined (members ev declarations) _ :=
        members_builds ev declarations hNames
      exact hMembers.bind fun later entities _ hEntities => .define hEntities
termination_by structural r => r

theorem members_builds (ev : Evaluator) : ∀ (declarations : List MemberDeclaration)
    {defined : List Aggregate}, NamesAt named (memberSites declarations) →
    Builds named defined (members ev declarations)
      fun later entities => PartsFit named later (Entity.partsOfAll .member entities)
  | [], defined, hNames => by
      rw [members]
      exact .pure .nil
  | ⟨specs, [], span⟩ :: rest, defined, hNames => by
      rw [memberSites] at hNames
      rw [members]
      have hScalar : (Descriptor.scalar {}).Sound named defined := .unspecified
      have hSpecs := memberSpecifiers_builds ev specs [] hNames.left.left hScalar
      refine hSpecs.bind fun later base _ hBase => ?_
      have hAnonymous := anonymousMember_fits span hBase
      refine .after (.anonymousMember base span) hAnonymous fun here hHere => ?_
      have hRest : Builds named later (members ev rest) _ := members_builds ev rest hNames.right
      refine hRest.bind fun last others hLast hOthers => .pure ?_
      rw [Entity.partsOfAll_append]
      exact (hHere.mono hLast).append hOthers
  | ⟨specs, d :: declarators, span⟩ :: rest, defined, hNames => by
      rw [memberSites] at hNames
      rw [members]
      have hScalar : (Descriptor.scalar {}).Sound named defined := .unspecified
      have hSpecs := memberSpecifiers_builds ev specs [] hNames.left.left hScalar
      refine hSpecs.bind fun later base _ hBase => ?_
      have hDeclarators := memberDeclarators_builds ev (d :: declarators) hNames.left.right.tail hBase
      refine hDeclarators.bind fun later' here _ hHere => ?_
      have hRest : Builds named later' (members ev rest) _ := members_builds ev rest hNames.right
      refine hRest.bind fun last others hLast hOthers => .pure ?_
      rw [Entity.partsOfAll_append]
      exact (hHere.mono hLast).append hOthers
termination_by structural declarations => declarations

theorem memberDeclarators_builds (ev : Evaluator) : ∀ (declarators : List MemberDeclarator)
    {defined : List Aggregate} {base : Descriptor},
    NamesAt named (memberDeclaratorSites declarators) → base.Sound named defined →
    Builds named defined (memberDeclarators ev base declarators)
      fun later entities => PartsFit named later (Entity.partsOfAll .member entities)
  | [], defined, base, hNames, hBase => by
      rw [memberDeclarators]
      exact .pure .nil
  | .declarator d :: rest, defined, base, hNames, hBase => by
      rw [memberDeclaratorSites] at hNames
      rw [memberDeclarators]
      have hDeclarator := declarator_builds ev d hNames.left.tail (Entity.Sound.ofType hBase)
        ⟨rfl, rfl, rfl, rfl⟩
      have hBoth := hDeclarator.and_yields (declarator_bare ev d ⟨rfl, rfl, rfl⟩)
      refine hBoth.bind fun later e hLater ⟨⟨hSound, hName⟩, hBare⟩ => ?_
      have hRest := memberDeclarators_builds ev rest hNames.right (hBase.mono hLater)
      refine hRest.bind fun last others hLast hOthers => .pure ?_
      have hHere := hSound.partsFit .member hBare (.inl hName)
      exact (hHere.mono hLast).append hOthers
  | .bitField d width span :: rest, defined, base, hNames, hBase => by
      rw [memberDeclaratorSites] at hNames
      rw [memberDeclarators]
      exact .skip (.unsupported _ _ span) fun _ =>
        memberDeclarators_builds ev rest hNames.tail hBase
termination_by structural declarators => declarators

/-- Until the name is reached, an entity has the marks of what a function returns. -/
theorem declarator_builds (ev : Evaluator) : ∀ (d : Declarator) {defined : List Aggregate}
    {e : Entity}, NamesAt named (declaratorSites d) → e.Sound named defined → e.Suits .result →
    Builds named defined (declarator ev d e)
      fun later e' => e'.Sound named later ∧ named e'.name
  | ⟨markers, direct, span⟩, defined, e, hNames, he, hSuits => by
      rw [declaratorSites] at hNames
      rw [declarator]
      refine .after (.pointers markers e) (pointers_eq markers e) ?_
      rintro _ ⟨total, rfl⟩
      exact directDeclarator_builds ev direct hNames.right { he with }
        ⟨hSuits.1, { hSuits.2 with }⟩
termination_by structural d => d

theorem directDeclarator_builds (ev : Evaluator) : ∀ (d : DirectDeclarator)
    {defined : List Aggregate} {e : Entity}, NamesAt named (directSites d) →
    e.Sound named defined → e.Suits .result → Builds named defined (directDeclarator ev d e)
      fun later e' => e'.Sound named later ∧ named e'.name
  | .identifier ⟨name, span⟩, defined, e, hNames, he, hSuits => by
      rw [directSites] at hNames
      rw [directDeclarator]
      exact .skip (.note rfl) fun _ => .pure ⟨{ he with }, hNames name (.head _)⟩
  | .paren inner, defined, e, hNames, he, hSuits => by
      rw [directSites] at hNames
      rw [directDeclarator]
      exact declarator_builds ev inner hNames.tail { he with } ⟨hSuits.1, { hSuits.2 with }⟩
  | .array inner qualifiers size span, defined, e, hNames, he, hSuits => by
      rw [directSites] at hNames
      rw [directDeclarator]
      refine .after (.dimension ev size _ span) (dimension_lt ev size _ span) fun d hd => ?_
      refine .after (.prependDimension d _) (prependDimension_eq d { e with span }) ?_
      rintro _ rfl
      refine directDeclarator_builds ev inner hNames.tail ⟨fun n hn => ?_, he.type⟩
        ⟨hSuits.1, { hSuits.2 with }⟩
      rcases List.mem_cons.mp hn with hn | hn
      · exact hd n hn.symm
      · exact he.dimension_lt n hn
  | .function inner suffix span, defined, e, hNames, he, hSuits => by
      rw [directSites] at hNames
      rw [directDeclarator]
      have hSuffix : Builds named defined (functionSuffix ev suffix span) _ :=
        functionSuffix_builds ev suffix span hNames.left.tail
      refine .skip (.note rfl) fun _ => hSuffix.bind fun later wrapped hLater hParams => ?_
      -- The entity has the marks of a return value, which is what it becomes.
      have hSpan : Entity.Sound named later { e with span } := { he.mono hLater with }
      have hReturns := hSpan.partsFit .result ⟨hSuits.1, { hSuits.2 with }⟩ trivial
      have hType := Descriptor.Sound.function wrapped.2 hReturns hParams
      exact directDeclarator_builds ev inner hNames.right { Entity.Sound.ofType hType with }
        ⟨rfl, rfl, rfl, rfl⟩
termination_by structural d => d

theorem functionSuffix_builds (ev : Evaluator) : ∀ (suffix : FunctionSuffix) (location : Span)
    {defined : List Aggregate}, NamesAt named (suffixSites suffix) →
    Builds named defined (functionSuffix ev suffix location)
      fun later wrapped => PartsFit named later (Entity.partsOfAll .parameter wrapped.1)
  | .parameters list, location, defined, hNames => by
      rw [suffixSites] at hNames
      rw [functionSuffix]
      have hList : Builds named defined (parameterList ev list) _ := parameterList_builds ev list hNames
      exact hList.bind fun later params _ hParams => .pure hParams
  | .identifiers names, location, defined, hNames => by
      rw [functionSuffix]
      exact .skip (.unsupported _ _ location) fun _ => .pure .nil
termination_by structural suffix => suffix

theorem parameterList_builds (ev : Evaluator) : ∀ (list : ParameterTypeList)
    {defined : List Aggregate}, NamesAt named (parameterListSites list) →
    Builds named defined (parameterList ev list)
      fun later params => PartsFit named later (Entity.partsOfAll .parameter params)
  | ⟨params, variadic, span⟩, defined, hNames => by
      rw [parameterListSites] at hNames
      rw [parameterList]
      split
      · exact .pure .nil
      · next hVoid =>
          rw [if_neg hVoid] at hNames
          exact parameters_builds ev params hNames
termination_by structural list => list

theorem parameters_builds (ev : Evaluator) : ∀ (params : List ParameterDeclaration)
    {defined : List Aggregate}, NamesAt named (parameterSites params) →
    Builds named defined (parameters ev params)
      fun later entities => PartsFit named later (Entity.partsOfAll .parameter entities)
  | [], defined, hNames => by
      rw [parameters]
      exact .pure .nil
  | .named specs d span :: rest, defined, hNames => by
      rw [parameterSites] at hNames
      rw [parameters]
      have hEmpty : ({} : Specified).descriptor.Sound named defined := .unspecified
      have hSpecs := specifiers_builds ev specs [] hNames.left.left.tail hEmpty
      refine hSpecs.bind fun later built _ hBuilt => ?_
      have hDeclarator := declarator_builds ev d hNames.left.right (Entity.Sound.ofType hBuilt)
        ⟨rfl, rfl, rfl, rfl⟩
      have hBoth := hDeclarator.and_yields (declarator_bare ev d ⟨rfl, rfl, rfl⟩)
      refine hBoth.bind fun later' e _ ⟨⟨hSound, hName⟩, hBare⟩ => ?_
      have hRest : Builds named later' (parameters ev rest) _ :=
        parameters_builds ev rest hNames.right
      refine hRest.bind fun last others hLast hOthers => .pure ?_
      have hStored : Entity.Sound named later' { e with storage := built.storage } :=
        { hSound with }
      have hHere := hStored.partsFit .parameter ⟨hBare.value, hBare.expression⟩ hName
      exact (hHere.mono hLast).append hOthers
  | .abstract specs d span :: rest, defined, hNames => by
      rw [parameterSites] at hNames
      rw [parameters]
      exact .skip (.unsupported _ _ span) fun _ => parameters_builds ev rest hNames.tail
termination_by structural params => params

end

/-! ### Declarations and definitions -/

/-- An initializer gives a value only together with an expression. -/
theorem initializer_eq (ev : Evaluator) (init : Option Initializer) (e : Entity)
    (hValue : e.value = none) : Yields (initializer ev init e) fun e' =>
      ∃ value expression, e' = { e with value, expression } ∧
        (value.isSome → expression.isSome) := by
  match init with
  | none => exact .pure ⟨none, e.expression, by cases e; simp_all, by simp⟩
  | some (.expr x) => exact .skip fun value => .pure ⟨value, some (ev.render x), rfl, by simp⟩
  | some (.list items trailingComma span) =>
      exact .skip fun _ => .pure ⟨none, e.expression, by cases e; simp_all, by simp⟩

theorem initDeclarator_builds (ev : Evaluator) (d : InitDeclarator) {spec : Specified}
    (hNames : NamesAt named d.sites) (hSpec : spec.descriptor.Sound named defined) :
    Builds named defined (initDeclarator ev spec d)
      fun later e => PartsFit named later (e.parts .declared) := by
  unfold InitDeclarator.sites at hNames
  unfold initDeclarator
  have hDeclarator := declarator_builds ev d.declarator hNames.left (Entity.Sound.ofType hSpec)
    ⟨rfl, rfl, rfl, rfl⟩
  have hBoth := hDeclarator.and_yields (declarator_bare ev d.declarator ⟨rfl, rfl, rfl⟩)
  refine hBoth.bind fun later e _ ⟨⟨hSound, hName⟩, hBare⟩ => ?_
  have hInitializer := initializer_eq ev d.initializer { e with storage := spec.storage } hBare.value
  refine .after (.initializer ev d.initializer _) hInitializer ?_
  rintro _ ⟨value, expression, rfl, hExpression⟩
  refine .skip (.recordSymbol _ _) fun _ => .skip (.note rfl) fun _ => .pure ?_
  have hInitialised : Entity.Sound named later
      { e with storage := spec.storage, value, expression } := { hSound with }
  exact hInitialised.partsFit .declared hExpression hName

theorem initDeclarators_builds (ev : Evaluator) : ∀ (declarators : List InitDeclarator)
    {defined : List Aggregate} {spec : Specified},
    NamesAt named (declarators.flatMap InitDeclarator.sites) →
    spec.descriptor.Sound named defined → Builds named defined (initDeclarators ev spec declarators)
      fun later entities => PartsFit named later (Entity.partsOfAll .declared entities)
  | [], defined, spec, hNames, hSpec => .pure .nil
  | d :: rest, defined, spec, hNames, hSpec => by
      rw [List.flatMap_cons] at hNames
      rw [initDeclarators]
      refine (initDeclarator_builds ev d hNames.left hSpec).bind fun later e hLater hHere => ?_
      have hRest := initDeclarators_builds ev rest hNames.right (hSpec.mono hLater)
      refine hRest.bind fun last others hLast hOthers => .pure ?_
      exact (hHere.mono hLast).append hOthers

theorem declaration_builds (ev : Evaluator) (d : Declaration)
    (hNames : NamesAt named (ExternalDeclaration.declaration d).sites) :
    Builds named defined (declaration ev d)
      fun later entities => PartsFit named later (Entity.partsOfAll .declared entities) := by
  rw [ExternalDeclaration.sites] at hNames
  rw [declaration_eq]
  have hEmpty : ({} : Specified).descriptor.Sound named defined := .unspecified
  have hSpecs := specifiers_builds ev d.specifiers [] hNames.left hEmpty
  refine hSpecs.bind fun later spec _ hSpec => .skip (.onlyIf (.remark _ _)) fun _ => ?_
  exact initDeclarators_builds ev d.initDeclarators hNames.right.tail hSpec

theorem definition_builds (ev : Evaluator) (d : FunctionDefinition)
    (hNames : NamesAt named (ExternalDeclaration.definition d).sites) :
    Builds named defined (definition ev d)
      fun later e => PartsFit named later (e.parts .declared) := by
  rw [ExternalDeclaration.sites] at hNames
  rw [definition_eq]
  have hEmpty : ({} : Specified).descriptor.Sound named defined := .unspecified
  have hSpecs := specifiers_builds ev d.specifiers [] hNames.left hEmpty
  refine hSpecs.bind fun later spec _ hSpec => .skip (.onlyIf (.unsupported _ _ _)) fun _ => ?_
  have hDeclarator := declarator_builds ev d.declarator hNames.right.tail
    (Entity.Sound.ofType hSpec) ⟨rfl, rfl, rfl, rfl⟩
  have hBoth := hDeclarator.and_yields (declarator_bare ev d.declarator ⟨rfl, rfl, rfl⟩)
  refine hBoth.bind fun later' e _ ⟨⟨hSound, hName⟩, hBare⟩ => ?_
  refine .skip (.recordSymbol _ _) fun _ => .skip (.note rfl) fun _ => .pure ?_
  have hStored : Entity.Sound named later' { e with storage := spec.storage } := { hSound with }
  refine hStored.partsFit .declared (fun hSome => ?_) hName
  simp [hBare.value] at hSome

theorem item_builds (ev : Evaluator) : ∀ (i : ExternalDeclaration), NamesAt named i.sites →
    Builds named defined (item ev i)
      fun later entities => PartsFit named later (Entity.partsOfAll .declared entities)
  | .declaration d, hNames => declaration_builds ev d hNames
  | .definition d, hNames => by
      refine (definition_builds ev d hNames).bind fun later e _ hHere => .pure ?_
      exact hHere.append .nil

end Lower

end CDecl
