import CDecl.Proofs.Agreement
import CDecl.Proofs.History
import CDecl.Syntax.Build

/-!
# A unit reads nothing but constants

The value of a constant expression depends on the values of its names alone, also where an operand is
left out (`Expr.eval_congr`).  So what a session has recorded matters to a unit only through the values
of the names in its expressions: in sessions that agree on these, the unit has the same answer, and the
sessions gain the same, also where a mismatch stops the unit (`unit_settled_by_names`).
-/

namespace CDecl

/-! ### Names in expressions -/

mutual

/-- The names in an expression. -/
def Expr.names : Expr → List String
  | ⟨kind, _⟩ => kind.names

/-- The names in a form of expression. -/
def ExprKind.names : ExprKind → List String
  | .ident name => [name]
  | .paren inner => inner.names
  | .unary _ operand => operand.names
  | .binary _ lhs rhs => lhs.names ++ rhs.names
  | .conditional condition thenExpr elseExpr =>
      condition.names ++ thenExpr.names ++ elseExpr.names
  | .cast _ operand => operand.names
  | .literal _ | .sizeOfType _ | .verbatim _ => []

end

mutual

/-- An expression has the same value where its names have the same values. -/
theorem Expr.eval_congr {t t' : SymbolTable} : ∀ (e : Expr),
    (∀ name ∈ e.names, t.value? name = t'.value? name) → e.eval t = e.eval t'
  | ⟨kind, _⟩, hNames => by
      rw [Expr.names] at hNames
      rw [Expr.eval, Expr.eval]
      exact kind.eval_congr hNames

theorem ExprKind.eval_congr {t t' : SymbolTable} : ∀ (kind : ExprKind),
    (∀ name ∈ kind.names, t.value? name = t'.value? name) → kind.eval t = kind.eval t'
  | .literal value, _ => rfl
  | .ident name, hNames => by
      rw [ExprKind.eval, ExprKind.eval]
      exact hNames name (by simp [ExprKind.names])
  | .paren inner, hNames => by
      rw [ExprKind.names] at hNames
      rw [ExprKind.eval, ExprKind.eval]
      exact inner.eval_congr hNames
  | .unary op operand, hNames => by
      rw [ExprKind.names] at hNames
      rw [ExprKind.eval, ExprKind.eval, operand.eval_congr hNames]
  | .binary op lhs rhs, hNames => by
      rw [ExprKind.names, List.forall_mem_append] at hNames
      rw [ExprKind.eval, ExprKind.eval, lhs.eval_congr hNames.1, rhs.eval_congr hNames.2]
  | .conditional condition thenExpr elseExpr, hNames => by
      rw [ExprKind.names, List.forall_mem_append, List.forall_mem_append] at hNames
      obtain ⟨⟨hCondition, hThen⟩, hElse⟩ := hNames
      rw [ExprKind.eval, ExprKind.eval, condition.eval_congr hCondition,
        thenExpr.eval_congr hThen, elseExpr.eval_congr hElse]
  | .cast typeName operand, hNames => by
      rw [ExprKind.names] at hNames
      rw [ExprKind.eval, ExprKind.eval]
      exact operand.eval_congr hNames
  | .sizeOfType _, _ => rfl
  | .verbatim _, _ => rfl

end

/-- The names in the expressions that lowering a unit comes to.  Widths of bit-fields, brace lists and
whatever else is left out are not among these expressions. -/
def namesRead (contents : List ExternalDeclaration) : List String :=
  ((contents.flatMap ExternalDeclaration.sites).filterMap Site.expression?).flatMap Expr.names

/-- Values of the names that are read settle every expression. -/
theorem readsAt_namesRead (contents : List ExternalDeclaration) :
    ReadsAt ((Agreement.onNames (namesRead contents)).Settles .constant)
      (contents.flatMap ExternalDeclaration.sites) := by
  intro e hExpression t t' hSame
  refine e.eval_congr fun name hName => hSame name ?_
  exact List.mem_flatMap.mpr ⟨e, hExpression, hName⟩

/-- **What a unit depends on.**  In two sessions with the same policy that have the same values for the
names in the expressions of a unit, or no values, the unit has the same answer, a number or a mismatch.
In both cases it adds the same entities, the same diagnostics and the same events, and so records the
same names with their values and the same tags with their records, in the same order. -/
theorem unit_settled_by_names (contents : List ExternalDeclaration) (s t : Session)
    (hPolicy : s.context.report.policy = t.context.report.policy)
    (hValues : ∀ name ∈ namesRead contents,
      s.context.symbols.value? name = t.context.symbols.value? name) :
    answerOf (Lowering.unit .constant contents s) = answerOf (Lowering.unit .constant contents t) ∧
      ∃ g : Gain, s.Gains g (s.after .constant contents) ∧ t.Gains g (t.after .constant contents) := by
  obtain ⟨events, entities, answer, -, hRun⟩ :=
    Lowering.unit_settledBy (readsAt_namesRead contents) s.context.symbols
  have hFirst : Lowering.unit .constant contents s = Lowering.play events entities answer s :=
    hRun s fun _ _ => rfl
  have hSecond : Lowering.unit .constant contents t = Lowering.play events entities answer t :=
    hRun t hValues
  refine ⟨?_, ⟨entities, events.filterMap (Event.diagnostic? s.context.report.policy), events⟩, ?_, ?_⟩
  · rw [hFirst, hSecond, Lowering.answerOf_play, Lowering.answerOf_play]
  · rw [Session.after, hFirst, Lowering.finalState_play]
    exact s.gains_extend events entities
  · rw [Session.after, hSecond, Lowering.finalState_play, hPolicy]
    exact t.gains_extend events entities

/-- A session that has seen `int n = 4;`. -/
def Session.brief : Session :=
  run .constant {} [[.declaration (.ofParts [.ofType (.keyword .int)]
    [⟨.ofDirect (.ofName "n"), some (.expr (.int 4))⟩])]]

/-- A session that has seen `struct t { int : 3; } v;`, `int n = 1;` and `int n = 2 + 2;`. -/
def Session.eventful : Session :=
  let record := RecordSpecifier.definition .struct (some "t")
    [.ofParts [.ofType (.keyword .int)] [.bitField none (.int 3) .empty]]
  let v := Declaration.ofParts [.ofType (.record record)] [⟨.ofDirect (.ofName "v"), none⟩]
  let n := fun value => Declaration.ofParts [.ofType (.keyword .int)]
    [⟨.ofDirect (.ofName "n"), some (.expr value)⟩]
  run .constant {} [[.declaration v], [.declaration (n (.int 1))],
    [.declaration (n (.binary .add (.int 2) (.int 2)))]]

/-- The declaration `int m = n + 1, a[m], f(struct s { int b; } int p);`, with its mismatch in the
parameter. -/
def ExternalDeclaration.readsConstants : ExternalDeclaration :=
  let record := RecordSpecifier.definition .struct (some "s")
    [.ofParts [.ofType (.keyword .int)] [.declarator (.ofDirect (.ofName "b"))]]
  let p := ParameterDeclaration.named [.ofType (.record record), .ofType (.keyword .int)]
    (.ofDirect (.ofName "p")) .empty
  .declaration (.ofParts [.ofType (.keyword .int)]
    [⟨.ofDirect (.ofName "m"), some (.expr (.binary .add (.ident "n") (.int 1)))⟩,
      ⟨.ofDirect (.arrayOf (.ofName "a") (.sized (some (.ident "m")))), none⟩,
      ⟨.ofDirect (.functionWith (.ofName "f") (.parameters (.ofParams [p]))), none⟩])

/-- The sessions differ in their names, tags, entities and diagnostics, but not in the value of `n`, and
neither has one of `m`.  They gain the same from a declaration that stops midway. -/
theorem readsConstants_settled :
    namesRead [.readsConstants] = ["n", "m"] ∧
    Session.brief.context.symbols.keys = ["n"] ∧
    Session.eventful.context.symbols.keys = ["v", "n"] ∧
    (∃ e, answerOf (Lowering.unit .constant [.readsConstants] .brief) = .error e ∧
      answerOf (Lowering.unit .constant [.readsConstants] .eventful) = .error e) ∧
    ∃ g : Gain, Session.brief.Gains g (Session.brief.after .constant [.readsConstants]) ∧
      Session.eventful.Gains g (Session.eventful.after .constant [.readsConstants]) ∧
      g.symbols = [("m", some (.int 5)), ("a", none)] ∧ g.tags.map Prod.fst = ["s"] := by
  have hPolicy : Session.brief.context.report.policy = Session.eventful.context.report.policy := by cbv
  have hNames : namesRead [.readsConstants] = ["n", "m"] := by cbv
  have hValues : ∀ name ∈ namesRead [.readsConstants],
      Session.brief.context.symbols.value? name = Session.eventful.context.symbols.value? name := by
    rw [hNames]
    simp only [List.forall_mem_cons, List.not_mem_nil, false_implies, implies_true, and_true]
    exact ⟨by cbv, by cbv⟩
  obtain ⟨hAnswer, g, hBrief, hEventful⟩ :=
    unit_settled_by_names [.readsConstants] .brief .eventful hPolicy hValues
  have hFails : succeeds (Lowering.unit .constant [.readsConstants]) .brief = false := by cbv
  obtain ⟨e, s', hRun⟩ := succeeds_eq_false_iff.mp hFails
  -- The events of the gain are those behind the ones that were there.
  have hEvents : g.events = (Session.brief.after .constant [.readsConstants]).context.events.toList.drop
      Session.brief.context.events.toList.length := by
    rw [hBrief.events, List.drop_left]
  refine ⟨hNames, by cbv, by cbv, ⟨e, by rw [hRun]; rfl, ?_⟩, g, hBrief, hEventful, ?_, ?_⟩
  · rw [← hAnswer, hRun]
    rfl
  · rw [Gain.symbols, hEvents]
    cbv
  · rw [Gain.tags, hEvents]
    cbv

end CDecl
