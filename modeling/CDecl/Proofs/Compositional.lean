import CDecl.Proofs.Runs
import CDecl.Proofs.Sites

/-!
# Properties that sequencing keeps

All of lowering is put together from a few steps: to note what happens, to report what is left out, to
define a record, to evaluate an expression, and to stop at a mismatch.  What these steps have and
sequencing keeps is `Compositional`, and every computation of lowering has it.  The induction over the
tree is done here, once for all such properties.

A property may depend on what the evaluator does with the expressions that are evaluated.  They are
bounds and initializers, and are found at the sites of the tree (`ReadsAt`).
-/

namespace CDecl

/-- Whether an event leaves nothing behind but itself. -/
def Event.isPlain : Event → Bool
  | .symbolRecorded .. | .recordDefined _ | .unsupportedMet .. | .remarkMade .. => false
  | _ => true

/-! ### Expressions at sites -/

/-- The expression that is evaluated at a site, if there is one. -/
def Site.expression? : Site → Option Expr
  | .direct (.array _ _ (.sized bound) _) => bound
  | .direct (.array _ _ (.static bound) _) => some bound
  | .direct (.array _ _ (.qualifiedStatic bound) _) => some bound
  | .initializer (.expr e) => some e
  | _ => none

/-- Every expression that is evaluated at one of the sites has the property. -/
def ReadsAt (reads : Expr → Prop) (sites : List Site) : Prop :=
  ∀ e ∈ sites.filterMap Site.expression?, reads e

namespace ReadsAt

variable {reads : Expr → Prop} {site : Site} {sites sites' : List Site}

theorem trivial (sites : List Site) : ReadsAt (fun _ => True) sites := fun _ _ => True.intro

/-- Fewer sites will do. -/
theorem mono (hReads : ReadsAt reads sites') (hSites : sites ⊆ sites') : ReadsAt reads sites := by
  intro e hMem
  obtain ⟨site, hSite, hExpression⟩ := List.mem_filterMap.mp hMem
  exact hReads e (List.mem_filterMap.mpr ⟨site, hSites hSite, hExpression⟩)

theorem left (hReads : ReadsAt reads (sites ++ sites')) : ReadsAt reads sites :=
  hReads.mono (List.subset_append_left _ _)

theorem right (hReads : ReadsAt reads (sites ++ sites')) : ReadsAt reads sites' :=
  hReads.mono (List.subset_append_right _ _)

theorem tail (hReads : ReadsAt reads (site :: sites)) : ReadsAt reads sites :=
  hReads.mono (List.subset_cons_self _ _)

theorem head (hReads : ReadsAt reads (site :: sites)) {e : Expr}
    (hExpression : site.expression? = some e) : reads e :=
  hReads e (List.mem_filterMap.mpr ⟨site, .head _, hExpression⟩)

end ReadsAt

namespace Lower

/-- A property that the steps of lowering have, where only expressions with the property `reads` are
evaluated, and that sequencing keeps. -/
structure Compositional (ev : Evaluator) (reads : Expr → Prop) (P : ∀ {α : Type}, Lower α → Prop) :
    Prop where
  pure : ∀ {α : Type} (a : α), P (Pure.pure a : Lower α)
  bind : ∀ {α β : Type} {x : Lower α} {f : α → Lower β}, P x → (∀ a, P (f a)) → P (x >>= f)
  mismatch : ∀ {α : Type} (e : ShapeMismatch), P (throw e : Lower α)
  note : ∀ event : Event, event.isPlain = true → P (note event)
  unsupported : ∀ construct code location, P (unsupported construct code location)
  remark : ∀ message location, P (remark message location)
  define : ∀ a : Aggregate, P (do Lower.note (.recordDefined a); recordTag a; return a)
  evaluate : ∀ e, reads e → P (evaluate ev e)

namespace Compositional

variable {ev : Evaluator} {reads : Expr → Prop} {P : ∀ {α : Type}, Lower α → Prop}

/-! ### What lowering is made of -/

theorem onlyIf (h : Compositional ev reads P) {c : Prop} [Decidable c] {x : Lower Unit} (hx : P x) :
    P (onlyIf c x) := by
  unfold Lower.onlyIf
  split
  · exact hx
  · exact h.pure ()

theorem changeScalar (h : Compositional ev reads P) (change : Scalar → Scalar) (location : Span)
    (d : Descriptor) : P (changeScalar change location d) := by
  cases d with
  | scalar s => exact h.pure _
  | aggregate a => exact h.mismatch _
  | function f => exact h.mismatch _

theorem qualifier (h : Compositional ev reads P) (q : TypeQualifier) (d : Descriptor) :
    P (qualifier q d) := by
  rw [qualifier_eq]
  refine h.bind (h.onlyIf (h.unsupported _ _ _)) fun _ => ?_
  exact h.bind (h.onlyIf (h.note _ rfl)) fun _ => h.pure _

theorem pointers (h : Compositional ev reads P) (markers : List PointerMarker) (e : Entity) :
    P (pointers markers e) := by
  cases markers with
  | nil => exact h.pure e
  | cons m markers => exact h.bind (h.note _ rfl) fun _ => h.pure _

theorem boundDimension (h : Compositional ev reads P) {bound : Expr} (hReads : reads bound) :
    P (boundDimension ev bound) := by
  refine h.bind (h.evaluate bound hReads) fun value => ?_
  cases value.bind Value.int? with
  | none => exact h.pure _
  | some n =>
      dsimp only
      split <;> exact h.pure _

/-- The bound of an array is at the site of the array. -/
theorem dimension (h : Compositional ev reads P) {inner : DirectDeclarator}
    {qualifiers : List TypeQualifier} {size : ArraySize} {span : Span}
    (hReads : ReadsAt reads [.direct (.array inner qualifiers size span)]) (code : GrammarCase) :
    P (dimension ev size code span) := by
  match size, hReads with
  | .sized none, _ => exact h.pure _
  | .sized (some bound), hReads => exact h.boundDimension (hReads.head rfl)
  | .static bound, hReads | .qualifiedStatic bound, hReads =>
      exact h.bind (h.unsupported _ _ _) fun _ => h.boundDimension (hReads.head rfl)
  | .star, _ => exact h.bind (h.unsupported _ _ _) fun _ => h.pure _

theorem prependDimension (h : Compositional ev reads P) (d : Dimension) (e : Entity) :
    P (prependDimension d e) :=
  h.bind (h.note _ rfl) fun _ => h.pure _

theorem anonymousMember (h : Compositional ev reads P) (base : Descriptor) (location : Span) :
    P (anonymousMember base location) := by
  unfold Lower.anonymousMember
  split
  · exact h.pure _
  · exact h.bind (h.remark _ _) fun _ => h.pure _

/-! ### One theorem for each kind of node -/

mutual

theorem specifiers (h : Compositional ev reads P) : ∀ (specs before : List DeclarationSpecifier)
    (built : Specified), ReadsAt reads (specifierSites before specs) →
    P (specifiers ev specs built)
  | [], before, built, hReads => by
      rw [Lower.specifiers]
      exact h.pure built
  | .storageClass s :: rest, before, built, hReads => by
      rw [specifierSites] at hReads
      · rw [Lower.specifiers]
        exact h.bind (h.note _ rfl) fun _ => specifiers h rest _ _ hReads.tail
      · simp
  | .type t :: rest, before, built, hReads => by
      rw [specifierSites] at hReads
      rw [Lower.specifiers]
      have hType := typeSpecifier h t built.descriptor hReads.left.tail
      exact h.bind hType fun d => specifiers h rest _ _ hReads.right
  | .qualifier q :: rest, before, built, hReads => by
      rw [specifierSites] at hReads
      · rw [Lower.specifiers]
        exact h.bind (h.qualifier q _) fun d => specifiers h rest _ _ hReads.tail
      · simp
  | .function f :: rest, before, built, hReads => by
      rw [specifierSites] at hReads
      · rw [Lower.specifiers]
        exact h.bind (h.unsupported _ _ _) fun _ => specifiers h rest _ _ hReads.tail
      · simp

theorem memberSpecifiers (h : Compositional ev reads P) : ∀ (specs : List MemberSpecifier)
    (before : List DeclarationSpecifier) (built : Descriptor),
    ReadsAt reads (memberSpecifierSites before specs) → P (memberSpecifiers ev specs built)
  | [], before, built, hReads => by
      rw [Lower.memberSpecifiers]
      exact h.pure built
  | .type t :: rest, before, built, hReads => by
      rw [memberSpecifierSites] at hReads
      rw [Lower.memberSpecifiers]
      have hType := typeSpecifier h t built hReads.left.tail
      exact h.bind hType fun d => memberSpecifiers h rest _ d hReads.right
  | .qualifier q :: rest, before, built, hReads => by
      rw [memberSpecifierSites] at hReads
      rw [Lower.memberSpecifiers]
      exact h.bind (h.qualifier q _) fun d => memberSpecifiers h rest _ d hReads.tail

theorem typeSpecifier (h : Compositional ev reads P) : ∀ (t : TypeSpecifier) (built : Descriptor),
    ReadsAt reads (typeSites t) → P (typeSpecifier ev t built)
  | ⟨.keyword k, span⟩, built, hReads => by
      rw [Lower.typeSpecifier]
      exact h.changeScalar _ span built
  | ⟨.record r, span⟩, built, hReads => by
      rw [typeSites] at hReads
      rw [Lower.typeSpecifier]
      exact h.bind (record h r hReads) fun a => h.pure _
  | ⟨.enum e, span⟩, built, hReads => by
      rw [Lower.typeSpecifier]
      exact h.bind (h.unsupported _ _ _) fun _ => h.pure built
  | ⟨.typedefName name, span⟩, built, hReads => by
      rw [Lower.typeSpecifier]
      exact h.changeScalar _ span built

theorem record (h : Compositional ev reads P) : ∀ r : RecordSpecifier,
    ReadsAt reads (recordSites r) → P (record ev r)
  | ⟨kind, tag, none, span⟩, hReads => by
      rw [Lower.record]
      exact h.bind (h.note _ rfl) fun _ => h.pure _
  | ⟨kind, tag, some declarations, span⟩, hReads => by
      rw [recordSites] at hReads
      rw [Lower.record]
      exact h.bind (members h declarations hReads) fun entities => h.define _

theorem members (h : Compositional ev reads P) : ∀ declarations : List MemberDeclaration,
    ReadsAt reads (memberSites declarations) → P (members ev declarations)
  | [], hReads => by
      rw [Lower.members]
      exact h.pure []
  | ⟨specs, [], span⟩ :: rest, hReads => by
      rw [memberSites] at hReads
      rw [Lower.members]
      have hSpecs := memberSpecifiers h specs [] (.scalar {}) hReads.left.left
      have hRest := members h rest hReads.right
      refine h.bind hSpecs fun base => h.bind (h.anonymousMember base span) fun here => ?_
      exact h.bind hRest fun others => h.pure _
  | ⟨specs, d :: declarators, span⟩ :: rest, hReads => by
      rw [memberSites] at hReads
      rw [Lower.members]
      have hSpecs := memberSpecifiers h specs [] (.scalar {}) hReads.left.left
      have hHere := fun base => memberDeclarators h base (d :: declarators) hReads.left.right.tail
      have hRest := members h rest hReads.right
      refine h.bind hSpecs fun base => h.bind (hHere base) fun here => ?_
      exact h.bind hRest fun others => h.pure _

theorem memberDeclarators (h : Compositional ev reads P) (base : Descriptor) :
    ∀ declarators : List MemberDeclarator, ReadsAt reads (memberDeclaratorSites declarators) →
    P (memberDeclarators ev base declarators)
  | [], hReads => by
      rw [Lower.memberDeclarators]
      exact h.pure []
  | .declarator d :: rest, hReads => by
      rw [memberDeclaratorSites] at hReads
      rw [Lower.memberDeclarators]
      have hDeclarator := declarator h d (.ofType base) hReads.left.tail
      have hRest := memberDeclarators h base rest hReads.right
      exact h.bind hDeclarator fun e => h.bind hRest fun others => h.pure _
  | .bitField d width span :: rest, hReads => by
      rw [memberDeclaratorSites] at hReads
      rw [Lower.memberDeclarators]
      exact h.bind (h.unsupported _ _ _) fun _ => memberDeclarators h base rest hReads.tail

theorem declarator (h : Compositional ev reads P) : ∀ (d : Declarator) (e : Entity),
    ReadsAt reads (declaratorSites d) → P (declarator ev d e)
  | ⟨markers, direct, span⟩, e, hReads => by
      rw [declaratorSites] at hReads
      rw [Lower.declarator]
      exact h.bind (h.pointers markers e) fun e => directDeclarator h direct e hReads.right

theorem directDeclarator (h : Compositional ev reads P) : ∀ (d : DirectDeclarator) (e : Entity),
    ReadsAt reads (directSites d) → P (directDeclarator ev d e)
  | .identifier ⟨name, span⟩, e, hReads => by
      rw [Lower.directDeclarator]
      exact h.bind (h.note _ rfl) fun _ => h.pure _
  | .paren inner, e, hReads => by
      rw [directSites] at hReads
      rw [Lower.directDeclarator]
      exact declarator h inner _ hReads.tail
  | .array inner qualifiers size span, e, hReads => by
      rw [directSites] at hReads
      rw [Lower.directDeclarator]
      have hHere : ReadsAt reads [.direct (.array inner qualifiers size span)] :=
        hReads.mono (by simp)
      refine h.bind (h.dimension hHere _) fun d => h.bind (h.prependDimension d _) fun e => ?_
      exact directDeclarator h inner e hReads.tail
  | .function inner suffix span, e, hReads => by
      rw [directSites] at hReads
      rw [Lower.directDeclarator]
      have hSuffix := functionSuffix h suffix span hReads.left.tail
      refine h.bind (h.note _ rfl) fun _ => h.bind hSuffix fun wrapped => ?_
      exact directDeclarator h inner _ hReads.right

theorem functionSuffix (h : Compositional ev reads P) : ∀ (suffix : FunctionSuffix)
    (location : Span), ReadsAt reads (suffixSites suffix) → P (functionSuffix ev suffix location)
  | .parameters list, location, hReads => by
      rw [suffixSites] at hReads
      rw [Lower.functionSuffix]
      exact h.bind (parameterList h list hReads) fun params => h.pure _
  | .identifiers names, location, hReads => by
      rw [Lower.functionSuffix]
      exact h.bind (h.unsupported _ _ _) fun _ => h.pure _

theorem parameterList (h : Compositional ev reads P) : ∀ list : ParameterTypeList,
    ReadsAt reads (parameterListSites list) → P (parameterList ev list)
  | ⟨params, variadic, span⟩, hReads => by
      rw [parameterListSites] at hReads
      rw [Lower.parameterList]
      split at hReads
      · next hVoid =>
          rw [if_pos hVoid]
          exact h.pure []
      · next hVoid =>
          rw [if_neg hVoid]
          exact parameters h params hReads

theorem parameters (h : Compositional ev reads P) : ∀ params : List ParameterDeclaration,
    ReadsAt reads (parameterSites params) → P (parameters ev params)
  | [], hReads => by
      rw [Lower.parameters]
      exact h.pure []
  | .named specs d span :: rest, hReads => by
      rw [parameterSites] at hReads
      rw [Lower.parameters]
      have hSpecs := specifiers h specs [] {} hReads.left.left.tail
      have hDeclarator := fun built : Specified =>
        declarator h d (.ofType built.descriptor) hReads.left.right
      have hRest := parameters h rest hReads.right
      refine h.bind hSpecs fun built => h.bind (hDeclarator built) fun e => ?_
      exact h.bind hRest fun others => h.pure _
  | .abstract specs d span :: rest, hReads => by
      rw [parameterSites] at hReads
      rw [Lower.parameters]
      exact h.bind (h.unsupported _ _ _) fun _ => parameters h rest hReads.tail

end

/-! ### Declarations and definitions -/

theorem initializer (h : Compositional ev reads P) {init : Option Initializer}
    (hReads : ReadsAt reads (init.map Site.initializer).toList) (e : Entity) :
    P (initializer ev init e) := by
  match init, hReads with
  | none, _ => exact h.pure e
  | some (.expr x), hReads => exact h.bind (h.evaluate x (hReads.head rfl)) fun _ => h.pure _
  | some (.list items trailingComma span), _ => exact h.bind (h.unsupported _ _ _) fun _ => h.pure e

section Items

variable (hRecord : ∀ (name : String) (value : Option Value), P (recordSymbol name value))
include hRecord

theorem initDeclarator (h : Compositional ev reads P) (spec : Specified) {d : InitDeclarator}
    (hReads : ReadsAt reads d.sites) : P (initDeclarator ev spec d) := by
  unfold Lower.initDeclarator
  refine h.bind (h.declarator d.declarator _ hReads.left) fun e => ?_
  refine h.bind (h.initializer hReads.right _) fun e => h.bind (hRecord _ _) fun _ => ?_
  exact h.bind (h.note _ rfl) fun _ => h.pure e

theorem initDeclarators (h : Compositional ev reads P) (spec : Specified) :
    ∀ {declarators : List InitDeclarator},
    ReadsAt reads (declarators.flatMap InitDeclarator.sites) →
    P (initDeclarators ev spec declarators)
  | [], _ => h.pure []
  | d :: rest, hReads => by
      rw [List.flatMap_cons] at hReads
      rw [Lower.initDeclarators]
      have hFirst := initDeclarator hRecord h spec hReads.left
      have hRest := initDeclarators h spec hReads.right
      exact h.bind hFirst fun e => h.bind hRest fun others => h.pure _

/-- Items record symbols besides, and have the property if recording has it. -/
theorem item (h : Compositional ev reads P) : ∀ {i : ExternalDeclaration}, ReadsAt reads i.sites →
    P (item ev i)
  | .declaration d, hReads => by
      rw [Lower.item, declaration_eq]
      refine h.bind (h.specifiers d.specifiers [] {} hReads.left) fun spec => ?_
      refine h.bind (h.onlyIf (h.remark _ _)) fun _ => ?_
      exact initDeclarators hRecord h spec hReads.right.tail
  | .definition d, hReads => by
      rw [Lower.item, definition_eq]
      refine h.bind ?_ fun e => h.pure [e]
      refine h.bind (h.specifiers d.specifiers [] {} hReads.left) fun spec => ?_
      refine h.bind (h.onlyIf (h.unsupported _ _ _)) fun _ => ?_
      refine h.bind (h.declarator d.declarator _ hReads.right.tail) fun e => ?_
      exact h.bind (hRecord _ _) fun _ => h.bind (h.note _ rfl) fun _ => h.pure _

end Items

end Compositional

end Lower

end CDecl
