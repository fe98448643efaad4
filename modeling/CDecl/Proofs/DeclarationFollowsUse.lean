import CDecl.Proofs.Replay
import CDecl.Syntax.Build

/-!
# Declaration follows use

A declarator shows how the declared name is used, and its C type is read off from that: `*d` makes
`d` a pointer to the type at hand, `d[n]` an array of it and `d(...)` a function that returns it, and
the type that reaches the name is the type of the name.  `Declarator.cType` is this reading, with a
nested `CType` for what it builds.

Entities do not nest in this way.  They count the pointers and list the dimensions up to the next
function or the base, which is what `CType.collapse` does to a nested type.  The main result,
`declarator_node_eq_collapse`, says that lowering, which works on one flat entity all along, arrives at
the collapse of the C type, for the parameters of every function as well.

Collapsed types are `Node`s: entities without spans, whose pointers are counted without a bound.
-/

namespace CDecl

/-! ### Entities without spans -/

mutual

/-- An entity without its span, and the same for all entities inside; pointers are a number. -/
structure Node where
  name : String
  type : NodeType
  pointers : Nat
  arrays : List Dimension
  storage : Option StorageClass
  value : Option Value
  expression : Option String

/-- A descriptor whose entities have no spans. -/
inductive NodeType where
  | scalar (s : Scalar)
  | aggregate (tag : Option String) (isUnion : Bool) (members : List Node)
  | function (returns : Node) (params : List Node) (variadic : Bool)

end

/-- A node without a name, pointers and dimensions. -/
def Node.ofType (type : NodeType) : Node := ⟨"", type, 0, [], none, none, none⟩

mutual

/-- An entity without spans. -/
def Entity.node : Entity → Node
  | ⟨name, type, pointers, arrays, _, storage, value, expression⟩ =>
      ⟨name, type.node, pointers.toNat, arrays, storage, value, expression⟩

/-- A descriptor without spans. -/
def Descriptor.node : Descriptor → NodeType
  | .scalar s => .scalar s
  | .aggregate a => a.node
  | .function f => f.node

/-- A record without spans. -/
def Aggregate.node : Aggregate → NodeType
  | ⟨tag, isUnion, members⟩ => .aggregate tag isUnion (Entity.nodes members)

/-- A function type without spans. -/
def FunctionType.node : FunctionType → NodeType
  | ⟨returns, params, variadic⟩ => .function returns.node (Entity.nodes params) variadic

/-- Several entities without spans. -/
def Entity.nodes : List Entity → List Node
  | [] => []
  | e :: rest => e.node :: Entity.nodes rest

end

theorem Entity.node_eq (e : Entity) :
    e.node = ⟨e.name, e.type.node, e.pointers.toNat, e.arrays, e.storage, e.value, e.expression⟩ := by
  cases e
  rfl

/-- Where an entity stands does not show in its node. -/
theorem Entity.node_span (e : Entity) (span : Span) : { e with span }.node = e.node := by
  rw [node_eq, node_eq]

theorem Entity.node_storage (e : Entity) (storage : Option StorageClass) :
    { e with storage }.node = { e.node with storage } := by
  rw [node_eq, node_eq]

/-! ### C types -/

mutual

/-- A C type, built up from a descriptor. -/
inductive CType where
  | base (d : Descriptor)
  | pointer (target : CType)
  | array (size : Dimension) (element : CType)
  | function (params : List CParameter) (variadic : Bool) (result : CType)

/-- A named parameter of a function type. -/
structure CParameter where
  name : String
  type : CType
  storage : Option StorageClass

end

namespace CType

/-- A pointer to a pointer and so on, `k` times, to a type. -/
def pointers : Nat → CType → CType
  | 0, t => t
  | k + 1, t => .pointer (pointers k t)

/-- How many pointers are met on the way to the next function or the base. -/
def pointerCount : CType → Nat
  | .pointer target => target.pointerCount + 1
  | .array _ element => element.pointerCount
  | .base _ | .function .. => 0

/-- Which dimensions are met on the way to the next function or the base. -/
def dimensions : CType → List Dimension
  | .pointer target => target.dimensions
  | .array size element => size :: element.dimensions
  | .base _ | .function .. => []

mutual

/-- The next function or the base.  What a function returns is a node without a name. -/
def core : CType → NodeType
  | .base d => d.node
  | .pointer target => target.core
  | .array _ element => element.core
  | .function params variadic result =>
      .function
        { Node.ofType result.core with
          pointers := result.pointerCount, arrays := result.dimensions }
        (parameterNodes params) variadic

/-- The nodes of parameters. -/
def parameterNodes : List CParameter → List Node
  | [] => []
  | ⟨name, type, storage⟩ :: rest =>
      { Node.ofType type.core with
        name, storage, pointers := type.pointerCount, arrays := type.dimensions } ::
        parameterNodes rest

end

/-- The unnamed node of a type: pointers are counted, dimensions listed from the outermost. -/
def collapse (t : CType) : Node :=
  { Node.ofType t.core with pointers := t.pointerCount, arrays := t.dimensions }

theorem pointerCount_pointers (k : Nat) (t : CType) :
    (t.pointers k).pointerCount = t.pointerCount + k := by
  induction k with
  | zero => rfl
  | succ k ih => rw [pointers, pointerCount, ih, Nat.add_assoc]

theorem dimensions_pointers (k : Nat) (t : CType) : (t.pointers k).dimensions = t.dimensions := by
  induction k with
  | zero => rfl
  | succ k ih => rw [pointers, dimensions, ih]

theorem core_pointers (k : Nat) (t : CType) : (t.pointers k).core = t.core := by
  induction k with
  | zero => rfl
  | succ k ih => rw [pointers, core, ih]

/-- Pointers to a type only add to the count. -/
theorem collapse_pointers (k : Nat) (t : CType) :
    (t.pointers k).collapse = { t.collapse with pointers := t.pointerCount + k } := by
  simp only [collapse, core_pointers, dimensions_pointers, pointerCount_pointers]

/-- The dimension of an array comes before those of its elements. -/
theorem collapse_array (size : Dimension) (t : CType) :
    (CType.array size t).collapse = { t.collapse with arrays := size :: t.dimensions } := by
  simp only [collapse, core, pointerCount, dimensions]

/-- A function starts a new node, and the node that was collapsed so far is what it returns. -/
theorem collapse_function (params : List CParameter) (variadic : Bool) (t : CType) :
    (CType.function params variadic t).collapse =
      Node.ofType (.function t.collapse (parameterNodes params) variadic) := by
  simp only [collapse, core, pointerCount, dimensions]
  rfl

end CType

/-! ### The C type of a declarator -/

/-- The dimension that a bound stands for: its value from zero on, and otherwise its text. -/
def Evaluator.dimension (ev : Evaluator) (symbols : SymbolTable) (bound : Expr) : Dimension :=
  match (ev.evaluate bound symbols).bind Value.int? with
  | some n => if 0 ≤ n then .known n.toUInt64 else .symbolic (ev.render bound)
  | none => .symbolic (ev.render bound)

/-- The dimension of array brackets. -/
def ArraySize.dimension (ev : Evaluator) (symbols : SymbolTable) : ArraySize → Dimension
  | .sized none | .star => .unsized
  | .sized (some bound) | .static bound | .qualifiedStatic bound => ev.dimension symbols bound

/-- What lowering makes of a specifier list where `symbols` are recorded. -/
def Evaluator.specified (ev : Evaluator) (symbols : SymbolTable)
    (specs : List DeclarationSpecifier) : Specified :=
  match Lower.specifiers ev specs {} { symbols } with
  | .ok built _ => built
  | .error _ _ => {}

/-- Whether more arguments than the parameters may follow. -/
def FunctionSuffix.variadic : FunctionSuffix → Bool
  | .parameters list => list.variadic
  | .identifiers _ => false

mutual

/-- The identifier that a declarator declares. -/
def Declarator.leaf : Declarator → Identifier
  | ⟨_, direct, _⟩ => direct.leaf

/-- The identifier that a direct declarator declares. -/
def DirectDeclarator.leaf : DirectDeclarator → Identifier
  | .identifier name => name
  | .paren inner => inner.leaf
  | .array inner _ _ _ => inner.leaf
  | .function inner _ _ => inner.leaf

end

section Reading

variable (ev : Evaluator) (symbols : SymbolTable)

mutual

/-- The type of the identifier of a declarator, where the declarator has the type `t`. -/
def Declarator.cType : Declarator → CType → CType
  | ⟨markers, direct, _⟩, t => direct.cType (t.pointers markers.length)

/-- The type of the identifier of a direct declarator, where that has the type `t`. -/
def DirectDeclarator.cType : DirectDeclarator → CType → CType
  | .identifier _, t => t
  | .paren inner, t => inner.cType t
  | .array inner _ size _, t => inner.cType (.array (size.dimension ev symbols) t)
  | .function inner suffix _, t =>
      inner.cType (.function suffix.cParameters suffix.variadic t)

/-- The parameters that a function suffix names. -/
def FunctionSuffix.cParameters : FunctionSuffix → List CParameter
  | .parameters list => list.cParameters
  | .identifiers _ => []

/-- The parameters that a parameter list names; `(void)` names none. -/
def ParameterTypeList.cParameters : ParameterTypeList → List CParameter
  | ⟨params, variadic, span⟩ =>
      if (ParameterTypeList.mk params variadic span).isVoid then []
      else ParameterDeclaration.cParameters params

/-- The parameters with a name, each with the type that its own declarator shows. -/
def ParameterDeclaration.cParameters : List ParameterDeclaration → List CParameter
  | [] => []
  | .named specs d _ :: rest =>
      ⟨d.leaf.name, d.cType (.base (ev.specified symbols specs).descriptor),
        (ev.specified symbols specs).storage⟩ :: ParameterDeclaration.cParameters rest
  | .abstract .. :: rest => ParameterDeclaration.cParameters rest

end

end Reading

mutual

/-- The number of pointer markers of a declarator and of the parameters it names. -/
def Declarator.markerCount : Declarator → Nat
  | ⟨markers, direct, _⟩ => markers.length + direct.markerCount

/-- The number of pointer markers of a direct declarator and of the parameters it names. -/
def DirectDeclarator.markerCount : DirectDeclarator → Nat
  | .identifier _ => 0
  | .paren inner => inner.markerCount
  | .array inner _ _ _ => inner.markerCount
  | .function inner suffix _ => suffix.markerCount + inner.markerCount

/-- The number of pointer markers of the parameters that a function suffix names. -/
def FunctionSuffix.markerCount : FunctionSuffix → Nat
  | .parameters list => list.markerCount
  | .identifiers _ => 0

/-- The number of pointer markers of the parameters that a parameter list names. -/
def ParameterTypeList.markerCount : ParameterTypeList → Nat
  | ⟨params, _, _⟩ => ParameterDeclaration.markerCount params

/-- The number of pointer markers of parameters with a name. -/
def ParameterDeclaration.markerCount : List ParameterDeclaration → Nat
  | [] => 0
  | .named _ d _ :: rest => d.markerCount + ParameterDeclaration.markerCount rest
  | .abstract .. :: rest => ParameterDeclaration.markerCount rest

end

/-! ### Lowering arrives at the collapsed type -/

namespace Lower

/-- The markers of a declarator add up, as long as their number is one. -/
theorem pointers_node {markers : List PointerMarker} {e e' : Entity} {t : CType} {c c' : Context}
    (hNode : e.node = t.collapse) (hCount : t.pointerCount + markers.length < 2 ^ 32)
    (hRun : pointers markers e c = .ok e' c') :
    e'.node = (t.pointers markers.length).collapse := by
  have hPointers : e.pointers.toNat = t.pointerCount := by
    rw [Entity.node_eq] at hNode
    exact congrArg Node.pointers hNode
  cases markers with
  | nil =>
      obtain ⟨rfl, -⟩ := pure_eq_ok.mp hRun
      exact hNode
  | cons m markers =>
      obtain ⟨_, _, -, hPure⟩ := bind_eq_ok.mp hRun
      obtain ⟨rfl, -⟩ := pure_eq_ok.mp hPure
      -- The number of markers is below the bound, so the addition does not wrap around.
      have hSum : (e.pointers + UInt32.ofNat (m :: markers).length).toNat =
          t.pointerCount + (m :: markers).length := by
        rw [UInt32.toNat_add, UInt32.toNat_ofNat', hPointers]
        omega
      rw [CType.collapse_pointers, ← hNode, ← hSum, Entity.node_eq, Entity.node_eq]

theorem boundDimension_eq {ev : Evaluator} {bound : Expr} {d : Dimension} {c c' : Context}
    (hRun : boundDimension ev bound c = .ok d c') : d = ev.dimension c.symbols bound := by
  rw [boundDimension, bind_eq_ok] at hRun
  obtain ⟨value, c₁, hValue, hRun⟩ := hRun
  obtain ⟨rfl, rfl⟩ : ev.evaluate bound c.symbols = value ∧ c = c₁ := pure_eq_ok.mp hValue
  rw [Evaluator.dimension]
  cases hInt : (ev.evaluate bound c.symbols).bind Value.int? with
  | none =>
      rw [hInt] at hRun
      exact (pure_eq_ok.mp hRun).1.symm
  | some n =>
      rw [hInt] at hRun
      by_cases hSign : 0 ≤ n
      · simp only [if_pos hSign] at hRun ⊢
        exact (pure_eq_ok.mp hRun).1.symm
      · simp only [if_neg hSign] at hRun ⊢
        exact (pure_eq_ok.mp hRun).1.symm

theorem dimension_eq {ev : Evaluator} {size : ArraySize} {code : GrammarCase} {location : Span}
    {d : Dimension} {c c' : Context} (hRun : dimension ev size code location c = .ok d c') :
    d = size.dimension ev c.symbols := by
  have hReported (bound : Expr)
      (hRun : (unsupported .staticArrayQualifier code location >>= fun _ =>
        boundDimension ev bound) c = .ok d c') : d = ev.dimension c.symbols bound := by
    obtain ⟨_, c₁, hReport, hBound⟩ := bind_eq_ok.mp hRun
    rw [← (Replays.unsupported _ _ _).symbols_eq hReport]
    exact boundDimension_eq hBound
  cases size with
  | sized bound =>
      cases bound with
      | none => exact (pure_eq_ok.mp hRun).1.symm
      | some bound => exact boundDimension_eq hRun
  | static bound => exact hReported bound hRun
  | qualifiedStatic bound => exact hReported bound hRun
  | star =>
      obtain ⟨_, _, -, hPure⟩ := bind_eq_ok.mp hRun
      exact (pure_eq_ok.mp hPure).1.symm

/-- Where a specifier list is lowered, it says there what it says in a new context. -/
theorem specified_eq {ev : Evaluator} {specs : List DeclarationSpecifier} {built : Specified}
    {c c' : Context} (hRun : specifiers ev specs {} c = .ok built c') :
    ev.specified c.symbols specs = built := by
  obtain ⟨d', hFresh⟩ := (specifiers_replays ev specs {}).eq_ok_of_symbols hRun
    (d := { symbols := c.symbols }) rfl
  rw [Evaluator.specified, hFresh]

/-! The reading goes from the outside in.  What is read so far shows a type `t`, and the entity built so
far is its collapse. -/

mutual

theorem declarator_node (ev : Evaluator) : ∀ (d : Declarator) {e e' : Entity} {t : CType}
    {c c' : Context}, e.node = t.collapse → t.pointerCount + d.markerCount < 2 ^ 32 →
    declarator ev d e c = .ok e' c' →
    e'.node = { (d.cType ev c.symbols t).collapse with name := d.leaf.name }
  | ⟨markers, direct, span⟩, e, e', t, c, c', hNode, hCount, hRun => by
      rw [Declarator.markerCount] at hCount
      rw [declarator, bind_eq_ok] at hRun
      obtain ⟨e₁, c₁, hPointers, hDirect⟩ := hRun
      have hNode₁ := pointers_node hNode (by omega) hPointers
      have hSymbols := ((Replays.compositional ev).pointers markers e).symbols_eq hPointers
      have hRest := directDeclarator_node ev direct hNode₁
        (by rw [CType.pointerCount_pointers]; omega) hDirect
      rw [hSymbols] at hRest
      rw [hRest, Declarator.cType, Declarator.leaf]

theorem directDeclarator_node (ev : Evaluator) : ∀ (d : DirectDeclarator) {e e' : Entity}
    {t : CType} {c c' : Context}, e.node = t.collapse → t.pointerCount + d.markerCount < 2 ^ 32 →
    directDeclarator ev d e c = .ok e' c' →
    e'.node = { (d.cType ev c.symbols t).collapse with name := d.leaf.name }
  | .identifier ⟨name, span⟩, e, e', t, c, c', hNode, hCount, hRun => by
      rw [directDeclarator, bind_eq_ok] at hRun
      obtain ⟨_, _, -, hPure⟩ := hRun
      obtain ⟨rfl, -⟩ := pure_eq_ok.mp hPure
      rw [DirectDeclarator.cType, DirectDeclarator.leaf, ← hNode, Entity.node_eq, Entity.node_eq]
  | .paren inner, e, e', t, c, c', hNode, hCount, hRun => by
      rw [directDeclarator] at hRun
      rw [DirectDeclarator.markerCount] at hCount
      rw [DirectDeclarator.cType, DirectDeclarator.leaf]
      exact declarator_node ev inner ((e.node_span _).trans hNode) hCount hRun
  | .array inner qualifiers size span, e, e', t, c, c', hNode, hCount, hRun => by
      rw [directDeclarator, bind_eq_ok] at hRun
      obtain ⟨d, c₁, hDimension, hRun⟩ := hRun
      rw [bind_eq_ok] at hRun
      obtain ⟨e₂, c₂, hPrepend, hInner⟩ := hRun
      -- The inner declarator is read with the same symbols, as its C type presumes.
      have hReads := ReadsAt.trivial [.direct (.array inner qualifiers size span)]
      have hSymbols : c₂.symbols = c.symbols :=
        (((Replays.compositional ev).prependDimension d _).symbols_eq hPrepend).trans
          (((Replays.compositional ev).dimension hReads _).symbols_eq hDimension)
      have hNode₂ : e₂.node = (CType.array (size.dimension ev c.symbols) t).collapse := by
        obtain ⟨_, _, -, hPure⟩ := bind_eq_ok.mp hPrepend
        obtain ⟨rfl, -⟩ := pure_eq_ok.mp hPure
        have hArrays : e.arrays = t.dimensions := by
          rw [Entity.node_eq] at hNode
          exact congrArg Node.arrays hNode
        rw [CType.collapse_array, ← hNode, ← hArrays, ← dimension_eq hDimension, Entity.node_eq,
          Entity.node_eq]
      rw [DirectDeclarator.markerCount] at hCount
      rw [DirectDeclarator.cType, DirectDeclarator.leaf, ← hSymbols]
      rw [← hSymbols] at hNode₂
      exact directDeclarator_node ev inner hNode₂ hCount hInner
  | .function inner suffix span, e, e', t, c, c', hNode, hCount, hRun => by
      rw [directDeclarator, bind_eq_ok] at hRun
      obtain ⟨_, c₁, hNote, hRun⟩ := hRun
      rw [bind_eq_ok] at hRun
      obtain ⟨⟨params, variadic⟩, c₂, hSuffix, hInner⟩ := hRun
      rw [DirectDeclarator.markerCount] at hCount
      have hSymbols₁ : c₁.symbols = c.symbols := (Replays.note rfl).symbols_eq hNote
      have hReplays := (Replays.compositional ev).functionSuffix suffix span (.trivial _)
      have hSymbols : c₂.symbols = c.symbols := (hReplays.symbols_eq hSuffix).trans hSymbols₁
      obtain ⟨hParams, rfl⟩ := functionSuffix_node ev suffix (by omega) hSuffix
      rw [hSymbols₁] at hParams
      -- The entity moves into the function as what it returns, and a new one takes its place.
      have hNode₂ : (Entity.ofType (.function ⟨{ e with span }, params, suffix.variadic⟩)).node =
          (CType.function (suffix.cParameters ev c.symbols) suffix.variadic t).collapse := by
        rw [CType.collapse_function, ← hNode, ← hParams, ← e.node_span span]
        rfl
      rw [DirectDeclarator.cType, DirectDeclarator.leaf, ← hSymbols]
      rw [← hSymbols] at hNode₂
      exact directDeclarator_node ev inner ((Entity.node_span _ span).trans hNode₂)
        (by rw [CType.pointerCount]; omega) hInner

theorem functionSuffix_node (ev : Evaluator) : ∀ (suffix : FunctionSuffix) {location : Span}
    {params : List Entity} {variadic : Bool} {c c' : Context}, suffix.markerCount < 2 ^ 32 →
    functionSuffix ev suffix location c = .ok (params, variadic) c' →
    Entity.nodes params = CType.parameterNodes (suffix.cParameters ev c.symbols) ∧
      variadic = suffix.variadic
  | .parameters list, location, params, variadic, c, c', hCount, hRun => by
      rw [functionSuffix, bind_eq_ok] at hRun
      obtain ⟨entities, c₁, hList, hPure⟩ := hRun
      obtain ⟨hPair, -⟩ := pure_eq_ok.mp hPure
      obtain ⟨rfl, rfl⟩ := Prod.mk.inj hPair
      rw [FunctionSuffix.markerCount] at hCount
      rw [FunctionSuffix.cParameters]
      exact ⟨parameterList_nodes ev list hCount hList, rfl⟩
  | .identifiers names, location, params, variadic, c, c', hCount, hRun => by
      rw [functionSuffix, bind_eq_ok] at hRun
      obtain ⟨_, _, -, hPure⟩ := hRun
      obtain ⟨hPair, -⟩ := pure_eq_ok.mp hPure
      obtain ⟨rfl, rfl⟩ := Prod.mk.inj hPair
      rw [FunctionSuffix.cParameters]
      exact ⟨rfl, rfl⟩

theorem parameterList_nodes (ev : Evaluator) : ∀ (list : ParameterTypeList)
    {entities : List Entity} {c c' : Context}, list.markerCount < 2 ^ 32 →
    parameterList ev list c = .ok entities c' →
    Entity.nodes entities = CType.parameterNodes (list.cParameters ev c.symbols)
  | ⟨params, variadic, span⟩, entities, c, c', hCount, hRun => by
      rw [parameterList] at hRun
      rw [ParameterTypeList.cParameters]
      rw [ParameterTypeList.markerCount] at hCount
      split at hRun
      · next hVoid =>
          obtain ⟨rfl, -⟩ := pure_eq_ok.mp hRun
          rw [if_pos hVoid]
          rfl
      · next hVoid =>
          rw [if_neg hVoid]
          exact parameters_nodes ev params hCount hRun

theorem parameters_nodes (ev : Evaluator) : ∀ (params : List ParameterDeclaration)
    {entities : List Entity} {c c' : Context}, ParameterDeclaration.markerCount params < 2 ^ 32 →
    parameters ev params c = .ok entities c' →
    Entity.nodes entities =
      CType.parameterNodes (ParameterDeclaration.cParameters ev c.symbols params)
  | [], entities, c, c', hCount, hRun => by
      rw [parameters] at hRun
      obtain ⟨rfl, -⟩ := pure_eq_ok.mp hRun
      rw [ParameterDeclaration.cParameters]
      rfl
  | .named specs d span :: rest, entities, c, c', hCount, hRun => by
      rw [parameters, bind_eq_ok] at hRun
      obtain ⟨built, c₁, hSpecs, hRun⟩ := hRun
      rw [bind_eq_ok] at hRun
      obtain ⟨e, c₂, hDeclarator, hRun⟩ := hRun
      rw [bind_eq_ok] at hRun
      obtain ⟨others, c₃, hRest, hPure⟩ := hRun
      obtain ⟨rfl, -⟩ := pure_eq_ok.mp hPure
      rw [ParameterDeclaration.markerCount] at hCount
      have hSymbols₁ := (specifiers_replays ev specs {}).symbols_eq hSpecs
      have hSymbols₂ := ((declarator_replays ev d _).symbols_eq hDeclarator).trans hSymbols₁
      have hNode := declarator_node ev d (t := .base built.descriptor) rfl
        (by rw [CType.pointerCount]; omega) hDeclarator
      have hNodes := parameters_nodes ev rest (by omega) hRest
      rw [hSymbols₁] at hNode
      rw [hSymbols₂] at hNodes
      rw [Entity.nodes, Entity.node_storage, hNode, hNodes, ParameterDeclaration.cParameters,
        specified_eq hSpecs]
      rfl
  | .abstract specs d span :: rest, entities, c, c', hCount, hRun => by
      rw [parameters, bind_eq_ok] at hRun
      obtain ⟨_, c₁, hReport, hRun⟩ := hRun
      rw [ParameterDeclaration.markerCount] at hCount
      have hNodes := parameters_nodes ev rest hCount hRun
      rw [(Replays.unsupported _ _ _).symbols_eq hReport] at hNodes
      rw [hNodes, ParameterDeclaration.cParameters]

end

end Lower

/-- **Declaration follows use.**  With fewer than `2 ^ 32` pointer markers, the entity that a
declarator declares over a base has the name of its identifier, and its node is the collapse of the
type that the declarator shows for that identifier.  The parameters in that type are read in the same
way, each over what its own specifiers say. -/
theorem declarator_node_eq_collapse {ev : Evaluator} {d : Declarator} {base : Descriptor}
    {c c' : Context} {e : Entity} (hMarkers : d.markerCount < 2 ^ 32)
    (hRun : Lower.declarator ev d (.ofType base) c = .ok e c') :
    e.node = { (d.cType ev c.symbols (.base base)).collapse with name := d.leaf.name } :=
  Lower.declarator_node ev d (t := .base base) rfl
    (by rw [CType.pointerCount]; omega) hRun

/-- The declarator of `int *(*f(char (*g)(void), int n))[3]`. -/
def Declarator.nested : Declarator :=
  let f : DirectDeclarator := .functionWith (.ofName "f") <| .parameters <| .ofParams
    [.named [.ofType (.keyword .char)]
        (.ofDirect <| .functionWith (.paren ((Declarator.ofDirect (.ofName "g")).pointers 1))
          (.parameters .void)) .empty,
      .named [.ofType (.keyword .int)] (.ofDirect (.ofName "n")) .empty]
  let pointerToArray : DirectDeclarator := .paren ((Declarator.ofDirect f).pointers 1)
  (Declarator.ofDirect (pointerToArray.arrayOf (.sized (some (.int 3))))).pointers 1

/-- Both pointers and the dimension go to what `f` returns, and the pointer of `g` stays with `g`. -/
theorem nested_node :
    ∃ e c', Declarator.nested.markerCount < 2 ^ 32 ∧
      Lower.declarator .constant .nested (.ofType (.scalar { base := some .int })) {} = .ok e c' ∧
      e.node =
        { Node.ofType (.function
            { Node.ofType (.scalar { base := some .int }) with
              pointers := 2, arrays := [.known 3] }
            [{ Node.ofType (.function (.ofType (.scalar { base := some .char })) [] false) with
                name := "g", pointers := 1 },
              { Node.ofType (.scalar { base := some .int }) with name := "n" }] false) with
          name := "f" } := by
  have hSucceeds : succeeds (Lower.declarator .constant .nested
      (.ofType (.scalar { base := some .int }))) {} = true := by cbv
  obtain ⟨e, c', hRun⟩ := succeeds_iff.mp hSucceeds
  have hNode := declarator_node_eq_collapse (by decide) hRun
  refine ⟨e, c', by decide, hRun, hNode.trans ?_⟩
  cbv

end CDecl
