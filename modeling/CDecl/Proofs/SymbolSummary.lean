import CDecl.Proofs.Construction
import CDecl.Syntax.Build

/-!
# The symbols sum up the declarations

Every declared entity enters its name and value into the symbols, and nothing else does.  Specifiers,
members, parameters and declarators read the symbols but leave them alone, so that the symbols after a
declaration are those before it with its entities entered (`SymbolTable.enter`).

The main result, `symbols_eq_summary`, says what this comes to for a session all of whose units can be
lowered: its symbols are the `summary` of its declarations.
-/

namespace CDecl

/-! ### Entering entities -/

/-- The symbols with the names and values of several entities entered one after the other. -/
def SymbolTable.enter (symbols : SymbolTable) (entities : List Entity) : SymbolTable :=
  entities.foldl (fun t e => t.insert e.name e.value) symbols

/-- The value of the last entity of a name. -/
def lastValue (entities : List Entity) (name : String) : Option Value :=
  (entities.reverse.find? (·.name == name)).bind (·.value)

/-- The names of entities, each once and in the order of the first entity that has it, with the value
of the last entity that has it. -/
def summary (entities : List Entity) : List (String × Option Value) :=
  (entities.map (·.name)).eraseDups.map fun name => (name, lastValue entities name)

namespace SymbolTable

theorem enter_append (symbols : SymbolTable) (first second : List Entity) :
    symbols.enter (first ++ second) = (symbols.enter first).enter second :=
  List.foldl_append

/-- To enter entities is to insert their names and values. -/
theorem enter_eq_insertAll (symbols : SymbolTable) (entities : List Entity) :
    symbols.enter entities = symbols.insertAll (entities.map fun e => (e.name, e.value)) := by
  rw [enter, Table.insertAll, List.foldl_map]

/-- Names come in the order in which they are entered first. -/
theorem keys_enter_empty (entities : List Entity) :
    (enter .empty entities).keys = (entities.map (·.name)).eraseDups := by
  induction entities using List.reverseRecOn with
  | nil => rfl
  | append_singleton before e ih =>
      have hSame : e.name ∈ (enter .empty before).keys ↔ e.name ∈ before.map (·.name) := by
        rw [ih, List.mem_eraseDups]
      have hNew : [e.name].removeAll (before.map (·.name)) =
          if e.name ∈ before.map (·.name) then [] else [e.name] := by
        simp only [List.removeAll, List.filter_cons, List.filter_nil]
        split <;> simp_all
      rw [enter_append, List.map_append, List.map_singleton, List.eraseDups_append, hNew, ← ih]
      show ((enter .empty before).insert e.name e.value).keys = _
      rw [Table.keys_insert, if_congr hSame rfl rfl]
      split <;> simp [List.eraseDups_cons]

/-- The value of a name is the one that is entered last. -/
theorem find?_enter (symbols : SymbolTable) (entities : List Entity) (name : String) :
    (symbols.enter entities).find? name =
      ((entities.reverse.find? (·.name == name)).map (·.value)).or (symbols.find? name) := by
  rw [enter_eq_insertAll, Table.find?_insertAll, ← List.map_reverse, List.find?_map, Option.map_map]
  rfl

/-- Names are entered by entities only. -/
theorem mem_keys_enter {symbols : SymbolTable} {entities : List Entity} {name : String} :
    name ∈ (symbols.enter entities).keys ↔
      name ∈ symbols.keys ∨ ∃ e ∈ entities, e.name = name := by
  simp [enter_eq_insertAll, Table.mem_keys_insertAll]

theorem entries_enter_empty (entities : List Entity) :
    (enter .empty entities).entries = summary entities := by
  rw [summary, ← keys_enter_empty]
  refine Table.entries_eq_map fun name value hFind => ?_
  have hNone : Table.find? (.empty : SymbolTable) name = none := rfl
  rw [find?_enter, hNone, Option.or_none] at hFind
  obtain ⟨e, hLast, rfl⟩ := Option.map_eq_some_iff.mp hFind
  rw [lastValue, hLast]
  rfl

end SymbolTable

/-! ### Values and initializers -/

/-- The expression that initializes what an init declarator declares, if there is one. -/
def InitDeclarator.expression? (d : InitDeclarator) : Option Expr :=
  match d.initializer with
  | some (.expr x) => some x
  | _ => none

/-- The expressions that initialize what an item declares.  A definition has none. -/
def ExternalDeclaration.expressions : ExternalDeclaration → List (Option Expr)
  | .declaration d => d.initDeclarators.map InitDeclarator.expression?
  | .definition _ => [none]

/-- Each entity has the value of its expression, if it has one, where the symbols are those given with
the entities before it entered. -/
inductive ValuedBy (ev : Evaluator) : SymbolTable → List (Option Expr) → List Entity → Prop
  | nil (symbols : SymbolTable) : ValuedBy ev symbols [] []
  | cons {symbols : SymbolTable} {x : Option Expr} {e : Entity} {expressions : List (Option Expr)}
      {entities : List Entity} (value : e.value = x.bind (ev.evaluate · symbols))
      (rest : ValuedBy ev (symbols.enter [e]) expressions entities) :
      ValuedBy ev symbols (x :: expressions) (e :: entities)

theorem ValuedBy.append {ev : Evaluator} {symbols : SymbolTable}
    {expressions expressions' : List (Option Expr)} {entities entities' : List Entity}
    (hFirst : ValuedBy ev symbols expressions entities)
    (hSecond : ValuedBy ev (symbols.enter entities) expressions' entities') :
    ValuedBy ev symbols (expressions ++ expressions') (entities ++ entities') := by
  induction hFirst with
  | nil symbols => exact hSecond
  | cons value _ ih => exact .cons value (ih hSecond)

/-! ### Declarations enter their entities -/

namespace Lower

variable {α β : Type} {ev : Evaluator} {expressions : List (Option Expr)}

/-- Whenever the computation gives a value, it has entered the entities of the value, and these have
their values by the expressions. -/
def Enters (ev : Evaluator) (expressions : List (Option Expr)) (x : Lower α)
    (entities : α → List Entity) : Prop :=
  ∀ c a c', x c = .ok a c' →
    c'.symbols = c.symbols.enter (entities a) ∧ ValuedBy ev c.symbols expressions (entities a)

/-- What replays other events leaves the entering to what follows. -/
theorem Enters.of_replays {x : Lower α} {f : α → Lower β} {entities : β → List Entity}
    (hx : Replays x) (hf : ∀ a, Enters ev expressions (f a) entities) :
    Enters ev expressions (x >>= f) entities := by
  intro c b c' hRun
  obtain ⟨a, c₁, hFirst, hSecond⟩ := bind_eq_ok.mp hRun
  rw [← hx.symbols_eq hFirst]
  exact hf a c₁ b c' hSecond

/-- An initializer evaluates its expression with the symbols as they are. -/
theorem initializer_value {d : InitDeclarator} (e : Entity) {e' : Entity} {c c' : Context}
    (hValue : e.value = none) (hRun : initializer ev d.initializer e c = .ok e' c') :
    e'.value = d.expression?.bind (ev.evaluate · c.symbols) := by
  unfold InitDeclarator.expression?
  match d.initializer, hRun with
  | none, hRun =>
      obtain ⟨rfl, -⟩ := pure_eq_ok.mp hRun
      exact hValue
  | some (.expr x), hRun =>
      obtain ⟨rfl, -⟩ := EStateM.Result.ok.inj hRun
      rfl
  | some (.list items trailingComma span), hRun =>
      obtain ⟨rfl, -⟩ := EStateM.Result.ok.inj hRun
      exact hValue

theorem initDeclarator_enters (ev : Evaluator) (spec : Specified) (d : InitDeclarator) :
    Enters ev [d.expression?] (initDeclarator ev spec d) fun e => [e] := by
  unfold initDeclarator
  intro c b c' hRun
  obtain ⟨e, c₁, hDeclarator, hRun⟩ := bind_eq_ok.mp hRun
  obtain ⟨e', c₂, hInitializer, hRecord⟩ := bind_eq_ok.mp hRun
  have hBare := declarator_bare ev d.declarator ⟨rfl, rfl, rfl⟩ c e c₁ hDeclarator
  have hValue := initializer_value { e with storage := spec.storage } hBare.value hInitializer
  have hFirst := (declarator_replays ev d.declarator _).symbols_eq hDeclarator
  have hSecond := (initializer_replays ev d.initializer _).symbols_eq hInitializer
  obtain ⟨rfl, rfl⟩ := EStateM.Result.ok.inj hRecord
  rw [← hFirst]
  refine ⟨?_, .cons hValue (.nil _)⟩
  show c₂.symbols.insert e'.name e'.value = c₁.symbols.insert e'.name e'.value
  rw [hSecond]

theorem initDeclarators_enters (ev : Evaluator) (spec : Specified) :
    ∀ declarators : List InitDeclarator, Enters ev (declarators.map InitDeclarator.expression?)
      (initDeclarators ev spec declarators) id
  | [] => by
      intro c b c' hRun
      obtain ⟨rfl, rfl⟩ := pure_eq_ok.mp hRun
      exact ⟨rfl, .nil _⟩
  | d :: rest => by
      intro c b c' hRun
      obtain ⟨e, c₁, hFirst, hRun⟩ := bind_eq_ok.mp hRun
      obtain ⟨others, c₂, hRest, hPure⟩ := bind_eq_ok.mp hRun
      obtain ⟨rfl, rfl⟩ := pure_eq_ok.mp hPure
      obtain ⟨hHere, hValue⟩ := initDeclarator_enters ev spec d c e c₁ hFirst
      obtain ⟨hOthers, hValues⟩ := initDeclarators_enters ev spec rest c₁ others c₂ hRest
      rw [hHere] at hOthers hValues
      exact ⟨hOthers, hValue.append hValues⟩

theorem declaration_enters (ev : Evaluator) (d : Declaration) :
    Enters ev (ExternalDeclaration.declaration d).expressions (declaration ev d) id := by
  rw [declaration_eq]
  refine .of_replays (specifiers_replays ev _ _) fun spec => ?_
  refine .of_replays (.onlyIf (.remark _ _)) fun _ => ?_
  exact initDeclarators_enters ev spec d.initDeclarators

theorem definition_enters (ev : Evaluator) (d : FunctionDefinition) :
    Enters ev [none] (definition ev d) fun e => [e] := by
  rw [definition_eq]
  refine .of_replays (specifiers_replays ev _ _) fun spec => ?_
  refine .of_replays (.onlyIf (.unsupported _ _ _)) fun _ => ?_
  intro c b c' hRun
  obtain ⟨e, c₁, hDeclarator, hRecord⟩ := bind_eq_ok.mp hRun
  have hSymbols := (declarator_replays ev d.declarator _).symbols_eq hDeclarator
  have hBare := declarator_bare ev d.declarator ⟨rfl, rfl, rfl⟩ c e c₁ hDeclarator
  obtain ⟨rfl, rfl⟩ := EStateM.Result.ok.inj hRecord
  refine ⟨?_, .cons hBare.value (.nil _)⟩
  -- The name is entered without a value, and its entity has none.
  show c₁.symbols.insert e.name none = c.symbols.insert e.name e.value
  rw [hSymbols, hBare.value]

theorem item_enters (ev : Evaluator) : ∀ i : ExternalDeclaration,
    Enters ev i.expressions (item ev i) id
  | .declaration d => declaration_enters ev d
  | .definition d => by
      intro c entities c' hRun
      obtain ⟨e, c₁, hDefinition, hPure⟩ := bind_eq_ok.mp hRun
      obtain ⟨rfl, rfl⟩ := pure_eq_ok.mp hPure
      exact definition_enters ev d c e c₁ hDefinition

end Lower

/-! ### Sessions -/

/-- The second session is the first one with entities declared and entered that have their values by
the expressions. -/
def Session.Adds (ev : Evaluator) (expressions : List (Option Expr)) (s s' : Session) : Prop :=
  ∃ entities, s'.declarations.toList = s.declarations.toList ++ entities ∧
    s'.context.symbols = s.context.symbols.enter entities ∧
    ValuedBy ev s.context.symbols expressions entities

namespace Session.Adds

variable {ev : Evaluator} {expressions expressions' : List (Option Expr)} {s s' s'' : Session}

theorem refl (s : Session) : Adds ev [] s s := ⟨[], by simp, rfl, .nil _⟩

theorem trans (hFirst : Adds ev expressions s s') (hSecond : Adds ev expressions' s' s'') :
    Adds ev (expressions ++ expressions') s s'' := by
  obtain ⟨entities, hDeclarations, hSymbols, hValues⟩ := hFirst
  obtain ⟨entities', hDeclarations', hSymbols', hValues'⟩ := hSecond
  rw [hSymbols] at hSymbols' hValues'
  refine ⟨entities ++ entities', ?_, ?_, hValues.append hValues'⟩
  · rw [hDeclarations', hDeclarations, List.append_assoc]
  · rw [hSymbols', SymbolTable.enter_append]

end Session.Adds

namespace Lowering

/-- Items that can all be lowered add what they declare. -/
theorem items_adds (ev : Evaluator) : ∀ (contents : List ExternalDeclaration) {s s' : Session},
    items ev contents s = .ok () s' →
    s.Adds ev (contents.flatMap ExternalDeclaration.expressions) s'
  | [], s, s', hRun => by
      obtain ⟨-, rfl⟩ := pure_eq_ok.mp hRun
      exact .refl s
  | i :: rest, s, s', hRun => by
      obtain ⟨entities, c, hItem, hRest⟩ := items_cons_eq_ok.mp hRun
      obtain ⟨hSymbols, hValues⟩ := Lower.item_enters ev i s.context entities c hItem
      have hHere : s.Adds ev i.expressions ⟨c, s.declarations ++ entities⟩ :=
        ⟨entities, Array.toList_appendList, hSymbols, hValues⟩
      rw [List.flatMap_cons]
      exact hHere.trans (items_adds ev rest hRest)

theorem unit_adds {ev : Evaluator} {contents : List ExternalDeclaration} {s s' : Session} {n : Nat}
    (hRun : unit ev contents s = .ok n s') :
    s.Adds ev (contents.flatMap ExternalDeclaration.expressions) s' := by
  rw [unit_run] at hRun
  cases hItems : items ev contents s with
  | error e s₁ => simp [hItems] at hRun
  | ok _ s₁ =>
      rw [hItems] at hRun
      obtain ⟨-, rfl⟩ := EStateM.Result.ok.inj hRun
      -- The last event of a unit leaves its entities and symbols as they are.
      have hAdds : s.Adds ev _ s₁ := items_adds ev contents hItems
      exact hAdds

theorem units_adds (ev : Evaluator) : ∀ (contents : List (List ExternalDeclaration))
    {s s' : Session}, units ev contents s = .ok () s' →
    s.Adds ev (contents.flatMap (·.flatMap ExternalDeclaration.expressions)) s'
  | [], s, s', hRun => by
      obtain ⟨-, rfl⟩ := pure_eq_ok.mp hRun
      exact .refl s
  | first :: rest, s, s', hRun => by
      rw [units, bind_eq_ok] at hRun
      obtain ⟨n, s₁, hFirst, hRest⟩ := hRun
      exact (unit_adds hFirst).trans (units_adds ev rest hRest)

end Lowering

/-- **The symbols are the summary of the declarations.**  After any units that can all be lowered, each
name that has been declared at top level is listed once, in the order of first declarations, with the
value of its last declaration.  Nothing else is listed, and values come from initializers only. -/
theorem symbols_eq_summary (ev : Evaluator) (report : Report)
    (units : List (List ExternalDeclaration)) (s : Session)
    (hRun : Lowering.units ev units (.fresh report) = .ok () s) :
    s.context.symbols.entries = summary s.declarations.toList ∧
      (∀ name, name ∈ s.context.symbols.keys ↔ ∃ e ∈ s.declarations.toList, e.name = name) ∧
      ValuedBy ev .empty (units.flatMap (·.flatMap ExternalDeclaration.expressions))
        s.declarations.toList := by
  obtain ⟨entities, hDeclarations, hSymbols, hValues⟩ := Lowering.units_adds ev units hRun
  obtain rfl : s.declarations.toList = entities := hDeclarations
  have hSymbols : s.context.symbols = .enter .empty s.declarations.toList := hSymbols
  refine ⟨?_, fun name => ?_, hValues⟩
  · rw [hSymbols, SymbolTable.entries_enter_empty]
  · rw [hSymbols, SymbolTable.mem_keys_enter]
    simp [Table.keys, Table.empty]

/-- The declaration `int x, y = 2;` in one unit, and in the next one `struct s { int m; } v;`,
`int x = 5;` and the definition `int f(int p) { }`. -/
def ExternalDeclaration.redeclaringUnits : List (List ExternalDeclaration) :=
  let name := fun n => Declarator.ofDirect (.ofName n)
  let record := RecordSpecifier.definition .struct (some "s")
    [.ofParts [.ofType (.keyword .int)] [.declarator (name "m")]]
  let f := DirectDeclarator.functionWith (.ofName "f")
    (.parameters (.ofParams [.named [.ofType (.keyword .int)] (name "p") .empty]))
  [[.declaration (.ofParts [.ofType (.keyword .int)]
      [⟨name "x", none⟩, ⟨name "y", some (.expr (.int 2))⟩])],
    [.declaration (.ofParts [.ofType (.record record)] [⟨name "v", none⟩]),
      .declaration (.ofParts [.ofType (.keyword .int)] [⟨name "x", some (.expr (.int 5))⟩]),
      .definition (.ofParts [.ofType (.keyword .int)] (.ofDirect f))]]

theorem redeclaringUnits_symbols :
    ∃ s, Lowering.units .constant ExternalDeclaration.redeclaringUnits (.fresh {}) = .ok () s ∧
      s.context.symbols.entries =
        [("x", some (.int 5)), ("y", some (.int 2)), ("v", none), ("f", none)] := by
  have hSucceeds : succeeds (Lowering.units .constant ExternalDeclaration.redeclaringUnits)
      (.fresh {}) = true := by cbv
  obtain ⟨_, s, hRun⟩ := succeeds_iff.mp hSucceeds
  have hFinal : s = finalState (Lowering.units .constant ExternalDeclaration.redeclaringUnits
      (.fresh {})) := by rw [hRun]; rfl
  refine ⟨s, hRun, ?_⟩
  rw [(symbols_eq_summary .constant {} _ s hRun).1, hFinal]
  cbv

end CDecl
