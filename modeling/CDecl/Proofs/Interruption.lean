import CDecl.Proofs.SymbolSummary
import CDecl.Syntax.Build

/-!
# Declarations that a mismatch interrupts

Items are lowered one after the other, and a mismatch stops a unit at the first item that has one.  The
items before it are complete by then: their entities are declared and their names recorded.

What is left of the item itself depends on where the mismatch comes up.  Its entities are not declared
in any case.  A mismatch in its specifiers or in its first declarator leaves its names unrecorded too,
but behind the first declarator of a declaration the names of the declarators before the mismatch have
been recorded, and stay (`symbols_after_mismatch`).  Names without an entity come about in this way
only: where each declaration has one declarator at most, all names have one (`Session.AllDeclared`).
-/

namespace CDecl

/-- A declaration cut down to its first declarators. -/
def Declaration.take (d : Declaration) (count : Nat) : Declaration :=
  { d with initDeclarators := d.initDeclarators.take count }

namespace Lower

variable {α β : Type}

/-! ### Mismatches inside an item -/

/-- A mismatch leaves the symbols as they were before the computation. -/
def FailsClean (x : Lower α) : Prop := ∀ c e c', x c = .error e c' → c'.symbols = c.symbols

theorem FailsClean.bind {x : Lower α} {f : α → Lower β} (hx : Replays x)
    (hf : ∀ a, FailsClean (f a)) : FailsClean (x >>= f) := by
  intro c e c' hRun
  rcases bind_eq_error.mp hRun with hFirst | ⟨a, c₁, hFirst, hSecond⟩
  · exact hx.symbols_eq_of_error hFirst
  · exact (hf a c₁ e c' hSecond).trans (hx.symbols_eq hFirst)

theorem initDeclarator_failsClean (ev : Evaluator) (spec : Specified) (d : InitDeclarator) :
    FailsClean (initDeclarator ev spec d) := by
  unfold initDeclarator
  refine .bind (declarator_replays ev _ _) fun e => ?_
  refine .bind (initializer_replays ev _ _) fun e => ?_
  -- Recording the name is the last step, and no mismatch comes up there.
  exact fun _ _ _ hRun => nomatch hRun

theorem definition_failsClean (ev : Evaluator) (d : FunctionDefinition) :
    FailsClean (definition ev d) := by
  rw [definition_eq]
  refine .bind (specifiers_replays ev _ _) fun spec => ?_
  refine .bind (.onlyIf (.unsupported _ _ _)) fun _ => ?_
  exact .bind (declarator_replays ev _ _) fun e _ _ _ hRun => nomatch hRun

/-- Where a declarator has a mismatch, the symbols are those after the declarators before it. -/
theorem initDeclarators_error (ev : Evaluator) (spec : Specified)
    {declarators : List InitDeclarator} {c c' : Context} {e : ShapeMismatch}
    (hRun : initDeclarators ev spec declarators c = .error e c') :
    ∃ count entities c₁, count < declarators.length ∧
      initDeclarators ev spec (declarators.take count) c = .ok entities c₁ ∧
      c'.symbols = c₁.symbols := by
  induction declarators generalizing c with
  | nil => cases hRun
  | cons d rest ih =>
      rw [initDeclarators] at hRun
      rcases bind_eq_error.mp hRun with hHere | ⟨entity, c₁, hHere, hRun⟩
      · exact ⟨0, [], c, by simp, rfl, initDeclarator_failsClean ev spec d c e c' hHere⟩
      rcases bind_eq_error.mp hRun with hRest | ⟨others, c₂, -, hPure⟩
      · obtain ⟨count, entities, c₂, hCount, hTaken, hSymbols⟩ := ih hRest
        refine ⟨count + 1, entity :: entities, c₂, by simpa using hCount, ?_, hSymbols⟩
        rw [List.take_succ_cons, initDeclarators]
        exact bind_eq_ok.mpr ⟨entity, c₁, hHere, bind_eq_ok.mpr ⟨entities, c₂, hTaken, rfl⟩⟩
      · cases hPure

theorem declaration_error (ev : Evaluator) {d : Declaration} {c c' : Context} {e : ShapeMismatch}
    (hRun : declaration ev d c = .error e c') :
    c'.symbols = c.symbols ∨
      ∃ count entities c₁, 0 < count ∧ count < d.initDeclarators.length ∧
        declaration ev (d.take count) c = .ok entities c₁ ∧ c'.symbols = c₁.symbols := by
  have hSpecifiers := specifiers_replays ev d.specifiers {}
  rw [declaration_eq] at hRun
  rcases bind_eq_error.mp hRun with hSpecs | ⟨spec, c₁, hSpecs, hRun⟩
  · exact .inl (hSpecifiers.symbols_eq_of_error hSpecs)
  rcases bind_eq_error.mp hRun with hRemark | ⟨_, c₂, hRemark, hRun⟩
  · exact .inl <| ((Replays.onlyIf (.remark _ _)).symbols_eq_of_error hRemark).trans
      (hSpecifiers.symbols_eq hSpecs)
  obtain ⟨count, entities, c₃, hCount, hTaken, hSymbols⟩ := initDeclarators_error ev spec hRun
  cases count with
  | zero =>
      obtain ⟨-, rfl⟩ := pure_eq_ok.mp hTaken
      refine .inl <| hSymbols.trans ?_
      exact ((Replays.onlyIf (.remark _ _)).symbols_eq hRemark).trans (hSpecifiers.symbols_eq hSpecs)
  | succ count =>
      refine .inr ⟨count + 1, entities, c₃, Nat.succ_pos count, hCount, ?_, hSymbols⟩
      -- With declarators left, the shorter declaration gets no remark either.
      have hNonempty : d.initDeclarators.isEmpty = false := by
        cases hList : d.initDeclarators with
        | nil => simp [hList] at hCount
        | cons _ _ => rfl
      have hTakenNonempty : (d.take (count + 1)).initDeclarators.isEmpty = false := by
        cases hList : d.initDeclarators with
        | nil => simp [hList] at hCount
        | cons _ _ => simp [Declaration.take, hList]
      rw [declaration_eq]
      refine bind_eq_ok.mpr ⟨spec, c₁, hSpecs, bind_eq_ok.mpr ⟨(), c₂, ?_, hTaken⟩⟩
      simp only [onlyIf, hNonempty, hTakenNonempty] at hRemark ⊢
      exact hRemark

/-- A mismatch in an item leaves the symbols as they were, or as they are after the item without the
declarators from the mismatch on. -/
theorem item_error (ev : Evaluator) {i : ExternalDeclaration} {c c' : Context} {e : ShapeMismatch}
    (hRun : item ev i c = .error e c') :
    c'.symbols = c.symbols ∨
      ∃ d count entities c₁, i = .declaration d ∧ 0 < count ∧ count < d.initDeclarators.length ∧
        item ev (.declaration (d.take count)) c = .ok entities c₁ ∧ c'.symbols = c₁.symbols := by
  cases i with
  | declaration d =>
      rcases declaration_error ev hRun with hSymbols | ⟨count, hTaken⟩
      · exact .inl hSymbols
      · obtain ⟨entities, c₁, hTaken⟩ := hTaken
        exact .inr ⟨d, count, entities, c₁, rfl, hTaken⟩
  | definition d =>
      rcases bind_eq_error.mp hRun with hDefinition | ⟨entity, c₁, -, hPure⟩
      · exact .inl (definition_failsClean ev d c e c' hDefinition)
      · exact nomatch hPure

end Lower

/-! ### Units -/

namespace Lowering

theorem items_append (ev : Evaluator) (first second : List ExternalDeclaration) :
    items ev (first ++ second) = items ev first >>= fun _ => items ev second := by
  induction first with
  | nil => rfl
  | cons i rest ih =>
      rw [List.cons_append, items, items, ih]
      simp only [bind_assoc]

/-- One more item is lowered where those before it have led. -/
theorem items_snoc_run {ev : Evaluator} {before : List ExternalDeclaration} {s s₁ : Session}
    (hBefore : items ev before s = .ok () s₁) (i : ExternalDeclaration) :
    items ev (before ++ [i]) s = match Lower.item ev i s₁.context with
      | .ok entities c => .ok () ⟨c, s₁.declarations ++ entities⟩
      | .error e c => .error e { s₁ with context := c } := by
  rw [items_append, bind_run, hBefore]
  dsimp only
  rw [items_cons_run]
  rfl

/-- The items before the first one with a mismatch can be lowered. -/
theorem items_error (ev : Evaluator) {contents : List ExternalDeclaration} {s s' : Session}
    {e : ShapeMismatch} (hRun : items ev contents s = .error e s') :
    ∃ before i later s₁ c, contents = before ++ i :: later ∧ items ev before s = .ok () s₁ ∧
      Lower.item ev i s₁.context = .error e c ∧ s' = { s₁ with context := c } := by
  induction contents generalizing s with
  | nil => cases hRun
  | cons i rest ih =>
      rcases items_cons_eq_error.mp hRun with ⟨c, hItem, rfl⟩ | ⟨entities, c, hHere, hRest⟩
      · exact ⟨[], i, rest, s, c, rfl, rfl, hItem, rfl⟩
      · obtain ⟨before, j, later, s₁, c₁, rfl, hBefore, hItem, rfl⟩ := ih hRest
        refine ⟨i :: before, j, later, s₁, c₁, rfl, ?_, hItem, rfl⟩
        exact items_cons_eq_ok.mpr ⟨entities, c, hHere, hBefore⟩

/-- A unit has the mismatch of its items. -/
theorem unit_eq_error {ev : Evaluator} {contents : List ExternalDeclaration} {s s' : Session}
    {e : ShapeMismatch} : unit ev contents s = .error e s' ↔ items ev contents s = .error e s' := by
  rw [unit_run]
  cases items ev contents s <;> simp

/-- A unit declares and records what its items do. -/
theorem unit_of_items {ev : Evaluator} {contents : List ExternalDeclaration} {s s' : Session}
    (hRun : items ev contents s = .ok () s') :
    ∃ n s₁, unit ev contents s = .ok n s₁ ∧ s₁.declarations = s'.declarations ∧
      s₁.context.symbols = s'.context.symbols := by
  rw [unit_run, hRun]
  exact ⟨_, _, rfl, rfl, rfl⟩

end Lowering

/-- A unit with a mismatch stops at the first item that has one.  Its declarations are those of the items
before it, and so are the symbols, unless the mismatch is behind the first declarator of a declaration. -/
theorem Lowering.unit_error {ev : Evaluator} {contents : List ExternalDeclaration}
    {s s' : Session} {e : ShapeMismatch} (hRun : unit ev contents s = .error e s') :
    ∃ before i later n s₁, contents = before ++ i :: later ∧ unit ev before s = .ok n s₁ ∧
      (∃ s₂, unit ev (before ++ [i]) s = .error e s₂) ∧ s'.declarations = s₁.declarations ∧
      (s'.context.symbols = s₁.context.symbols ∨
        ∃ d count n' s₂, i = .declaration d ∧ 0 < count ∧ count < d.initDeclarators.length ∧
          unit ev (before ++ [.declaration (d.take count)]) s = .ok n' s₂ ∧
          s'.context.symbols = s₂.context.symbols) := by
  obtain ⟨before, i, later, s₀, c, rfl, hBefore, hItem, rfl⟩ :=
    items_error ev (unit_eq_error.mp hRun)
  obtain ⟨n, s₁, hUnit, hDeclarations, hSymbols⟩ := unit_of_items hBefore
  refine ⟨before, i, later, n, s₁, rfl, hUnit, ?_, hDeclarations.symm, ?_⟩
  · refine ⟨{ s₀ with context := c }, unit_eq_error.mpr ?_⟩
    rw [items_snoc_run hBefore, hItem]
  · rcases Lower.item_error ev hItem with hSame |
      ⟨d, count, entities, c₁, rfl, hPos, hLt, hTaken, hEq⟩
    · exact .inl (hSame.trans hSymbols.symm)
    · have hItems : items ev (before ++ [.declaration (d.take count)]) s =
          .ok () ⟨c₁, s₀.declarations ++ entities⟩ := by rw [items_snoc_run hBefore, hTaken]
      obtain ⟨n', s₂, hUnit', -, hSymbols'⟩ := unit_of_items hItems
      exact .inr ⟨d, count, n', s₂, rfl, hPos, hLt, hUnit', hEq.trans hSymbols'.symm⟩

/-! ### Names with an entity -/

/-- Every recorded name is that of a declared entity. -/
def Session.AllDeclared (s : Session) : Prop :=
  ∀ name ∈ s.context.symbols.keys, ∃ e ∈ s.declarations.toList, e.name = name

theorem Session.Adds.allDeclared {ev : Evaluator} {expressions : List (Option Expr)}
    {s s' : Session} (hAdds : Adds ev expressions s s') (hs : s.AllDeclared) : s'.AllDeclared := by
  obtain ⟨entities, hDeclarations, hSymbols, -⟩ := hAdds
  intro name hName
  rw [hSymbols, SymbolTable.mem_keys_enter] at hName
  rw [hDeclarations]
  rcases hName with hOld | ⟨e, hMem, rfl⟩
  · obtain ⟨e, hMem, rfl⟩ := hs name hOld
    exact ⟨e, List.mem_append_left _ hMem, rfl⟩
  · exact ⟨e, List.mem_append_right _ hMem, rfl⟩

/-- Where a declaration has one declarator at most, no name is left without an entity. -/
theorem Lowering.unit_allDeclared {ev : Evaluator} {contents : List ExternalDeclaration}
    (hSingle : ∀ d, .declaration d ∈ contents → d.initDeclarators.length ≤ 1) {s : Session}
    (hs : s.AllDeclared) : (s.after ev contents).AllDeclared := by
  unfold Session.after
  cases hRun : unit ev contents s with
  | ok n s' => exact (unit_adds hRun).allDeclared hs
  | error e s' =>
      obtain ⟨before, i, later, n, s₁, rfl, hBefore, -, hDeclarations, hSymbols⟩ := unit_error hRun
      have hFirst : s₁.AllDeclared := (unit_adds hBefore).allDeclared hs
      rcases hSymbols with hSame | ⟨d, count, -, -, rfl, hPos, hLt, -⟩
      · show ∀ name ∈ s'.context.symbols.keys, ∃ e ∈ s'.declarations.toList, e.name = name
        rw [hSame, hDeclarations]
        exact hFirst
      · have hLength := hSingle d (by simp)
        omega

/-- **What a mismatch leaves.**  A unit with a mismatch stops at the first item that has one.  Then the
declarations are those of the items before it.  The symbols are so too, unless the item is a
declaration that has its mismatch behind the first declarator: then they are those of the items before
it and of this declaration, cut down to the declarators before the mismatch.  So in a session in which
each declaration has one declarator at most, every recorded name is that of a declared entity. -/
theorem symbols_after_mismatch (ev : Evaluator) :
    (∀ (contents : List ExternalDeclaration) (s s' : Session) (e : ShapeMismatch),
      Lowering.unit ev contents s = .error e s' →
        ∃ before i later n s₁, contents = before ++ i :: later ∧
          Lowering.unit ev before s = .ok n s₁ ∧
          (∃ s₂, Lowering.unit ev (before ++ [i]) s = .error e s₂) ∧
          s'.declarations = s₁.declarations ∧
          (s'.context.symbols = s₁.context.symbols ∨
            ∃ d count n' s₂, i = .declaration d ∧ 0 < count ∧ count < d.initDeclarators.length ∧
              Lowering.unit ev (before ++ [.declaration (d.take count)]) s = .ok n' s₂ ∧
              s'.context.symbols = s₂.context.symbols)) ∧
    ∀ (report : Report) (units : List (List ExternalDeclaration)),
      (∀ contents ∈ units, ∀ d, .declaration d ∈ contents → d.initDeclarators.length ≤ 1) →
        (Session.run ev report units).AllDeclared := by
  refine ⟨fun _ _ _ _ hRun => Lowering.unit_error hRun, fun report units hSingle => ?_⟩
  refine Session.run_units (fun name hName => ?_) fun contents hMem s hs =>
    Lowering.unit_allDeclared (hSingle contents hMem) hs
  simp [Session.fresh, Table.keys, Table.empty] at hName

/-- The declaration `int n = 4, f(struct { int a; } int p);`. -/
def Declaration.interrupted : Declaration :=
  let record := RecordSpecifier.definition .struct none
    [.ofParts [.ofType (.keyword .int)] [.declarator (.ofDirect (.ofName "a"))]]
  let p := ParameterDeclaration.named [.ofType (.record record), .ofType (.keyword .int)]
    (.ofDirect (.ofName "p")) .empty
  let f := DirectDeclarator.functionWith (.ofName "f") (.parameters (.ofParams [p]))
  .ofParts [.ofType (.keyword .int)]
    [⟨.ofDirect (.ofName "n"), some (.expr (.int 4))⟩, ⟨.ofDirect f, none⟩]

/-- Nothing is declared by `n` and `f` together; in declarations of their own, only `f` is missing. -/
theorem interrupted_declarations :
    (∃ e s', Lowering.unit .constant [.declaration .interrupted] (.fresh {}) = .error e s' ∧
      s'.declarations = #[]) ∧
    (Session.run .constant {} [[.declaration (Declaration.interrupted.take 1)],
      [.declaration { Declaration.interrupted with
        initDeclarators := Declaration.interrupted.initDeclarators.drop 1 }]]).AllDeclared := by
  obtain ⟨hUnit, hSession⟩ := symbols_after_mismatch .constant
  constructor
  · have hFails : succeeds (Lowering.unit .constant [.declaration .interrupted]) (.fresh {}) =
        false := by cbv
    obtain ⟨e, s', hRun⟩ := succeeds_eq_false_iff.mp hFails
    obtain ⟨before, i, later, n, s₁, hContents, hBefore, -, hDeclarations, -⟩ := hUnit _ _ _ _ hRun
    -- The only item is the first one with a mismatch.
    obtain ⟨rfl, -⟩ : before = [] ∧ later = [] := by
      have hLength := congrArg List.length hContents
      simp only [List.length_append, List.length_cons, List.length_nil] at hLength
      exact ⟨List.length_eq_zero_iff.mp (by omega), List.length_eq_zero_iff.mp (by omega)⟩
    obtain ⟨-, rfl⟩ := EStateM.Result.ok.inj hBefore
    exact ⟨e, s', hRun, hDeclarations⟩
  · refine hSession {} _ ?_
    simp [Declaration.interrupted, Declaration.take, Declaration.ofParts]

/-- The only item has a mismatch and is the first one that has, and before it there is no symbol; but the
name of its first declarator stays, and has no entity. -/
theorem interrupted_keeps_name :
    ∃ e s' s₁, Lowering.unit .constant [.declaration .interrupted] (.fresh {}) = .error e s' ∧
      Lowering.unit .constant [] (.fresh {}) = .ok 0 s₁ ∧
      s'.context.symbols.entries = [("n", some (.int 4))] ∧ s₁.context.symbols.entries = [] ∧
      s'.declarations = #[] := by
  have hFails : succeeds (Lowering.unit .constant [.declaration .interrupted]) (.fresh {}) =
      false := by cbv
  obtain ⟨e, s', hRun⟩ := succeeds_eq_false_iff.mp hFails
  have hFinal : s' = finalState (Lowering.unit .constant [.declaration .interrupted]
      (.fresh {})) := by rw [hRun]; rfl
  refine ⟨e, s', _, hRun, rfl, ?_, rfl, ?_⟩
  · rw [hFinal]
    cbv
  · rw [hFinal]
    cbv

end CDecl
