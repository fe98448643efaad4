import CDecl.Proofs.Agreement
import CDecl.Proofs.Interruption

/-!
# Sessions only grow

Whether a unit can be lowered to its end or not, it takes nothing away: declarations, diagnostics, names
and tags stay in their order and new ones come behind them (`Session.GrowsTo`).  Only the values of
names and the records of tags may be replaced.

The main result, `session_grows`, also says how many declarations come: those that a unit counts, or,
where a mismatch stops it, those of the items before.
-/

namespace CDecl

/-- What was declared and reported in the first session, and its names and tags, are where they were in
the second one, with more behind them at most. -/
structure Session.GrowsTo (s s' : Session) : Prop where
  declarations : s.declarations.toList <+: s'.declarations.toList
  diagnostics : s.context.report.diagnostics.toList <+: s'.context.report.diagnostics.toList
  symbols : s.context.symbols.keys <+: s'.context.symbols.keys
  tags : s.context.tags.keys <+: s'.context.tags.keys

namespace Session

theorem GrowsTo.refl (s : Session) : s.GrowsTo s :=
  ⟨List.prefix_rfl, List.prefix_rfl, List.prefix_rfl, List.prefix_rfl⟩

theorem GrowsTo.trans {s s' s'' : Session} (hFirst : s.GrowsTo s') (hSecond : s'.GrowsTo s'') :
    s.GrowsTo s'' where
  declarations := hFirst.declarations.trans hSecond.declarations
  diagnostics := hFirst.diagnostics.trans hSecond.diagnostics
  symbols := hFirst.symbols.trans hSecond.symbols
  tags := hFirst.tags.trans hSecond.tags

/-- Symbols and tags may be entered again, but then they keep their places. -/
theorem Gains.growsTo {s s' : Session} {g : Gain} (hGains : s.Gains g s') : s.GrowsTo s' where
  declarations := hGains.declarations ▸ List.prefix_append _ _
  diagnostics := hGains.diagnostics ▸ List.prefix_append _ _
  symbols := hGains.symbols ▸ Table.keys_prefix_insertAll _ _
  tags := hGains.tags ▸ Table.keys_prefix_insertAll _ _

end Session

/-- A unit adds events and entities to a session, and counts the entities if it comes to its end. -/
theorem Lowering.unit_extends (ev : Evaluator) (contents : List ExternalDeclaration) (s : Session) :
    ∃ events entities answer, (∀ n, answer = .ok n → n = entities.length) ∧
      unit ev contents s = play events entities answer s := by
  obtain ⟨events, entities, answer, hCount, hRun⟩ :=
    unit_settledBy (Agreement.readsAt_same ev _) s.context.symbols
  exact ⟨events, entities, answer, hCount, hRun s rfl⟩

namespace Session

theorem after_growsTo (ev : Evaluator) (s : Session) (contents : List ExternalDeclaration) :
    s.GrowsTo (s.after ev contents) := by
  obtain ⟨events, entities, answer, -, hRun⟩ := Lowering.unit_extends ev contents s
  rw [after, hRun, Lowering.finalState_play]
  exact (s.gains_extend events entities).growsTo

/-- The session at a later time has grown from the one at an earlier time. -/
theorem run_growsTo (ev : Evaluator) (report : Report) (units later : List (List ExternalDeclaration)) :
    (run ev report units).GrowsTo (run ev report (units ++ later)) := by
  unfold run
  rw [List.foldl_append]
  generalize units.foldl (after ev) (fresh report) = s
  induction later generalizing s with
  | nil => exact .refl s
  | cons contents rest ih => exact (after_growsTo ev s contents).trans (ih (s.after ev contents))

end Session

/-- **A session only grows.**  A unit, whether it can be lowered to its end or not, leaves declarations,
diagnostics, names and tags in their places, and so does any number of units.  A unit that gives a
number has added that many declarations.  A unit with a mismatch has added those of the items before
the first one that has a mismatch. -/
theorem session_grows (ev : Evaluator) :
    (∀ (s : Session) (contents : List ExternalDeclaration), s.GrowsTo (s.after ev contents)) ∧
    (∀ (report : Report) (units later : List (List ExternalDeclaration)),
      (Session.run ev report units).GrowsTo (Session.run ev report (units ++ later))) ∧
    (∀ (s s' : Session) (contents : List ExternalDeclaration) (n : Nat),
      Lowering.unit ev contents s = .ok n s' →
        s'.declarations.size = s.declarations.size + n) ∧
    ∀ (s s' : Session) (contents : List ExternalDeclaration) (e : ShapeMismatch),
      Lowering.unit ev contents s = .error e s' →
        ∃ before i later n s₁, contents = before ++ i :: later ∧
          Lowering.unit ev before s = .ok n s₁ ∧
          (∃ s₂, Lowering.unit ev (before ++ [i]) s = .error e s₂) ∧
          s'.declarations = s₁.declarations := by
  refine ⟨fun s contents => s.after_growsTo ev contents,
    fun report units later => Session.run_growsTo ev report units later,
    fun s s' contents n hRun => ?_, fun s s' contents e hRun => ?_⟩
  · obtain ⟨events, entities, answer, hCount, hPlay⟩ := Lowering.unit_extends ev contents s
    rw [hPlay] at hRun
    cases answer with
    | error e => cases hRun
    | ok m =>
        obtain ⟨rfl, rfl⟩ := EStateM.Result.ok.inj hRun
        have hDeclarations := (s.gains_extend events entities).declarations
        rw [hCount m rfl, ← Array.length_toList, hDeclarations, List.length_append,
          Array.length_toList]
  · obtain ⟨before, i, later, n, s₁, hContents, hBefore, hFails, hDeclarations, -⟩ :=
      Lowering.unit_error hRun
    exact ⟨before, i, later, n, s₁, hContents, hBefore, hFails, hDeclarations⟩

/-- A session with the names `x`, `y`, `v` and `f`. -/
def Session.redeclared : Session := run .constant {} ExternalDeclaration.redeclaringUnits

/-- The declaration `int x = 1, *y;`, and one that has its mismatch behind the first declarator. -/
def ExternalDeclaration.partlyLowered : List ExternalDeclaration :=
  let name := fun n => Declarator.ofDirect (.ofName n)
  [.declaration (.ofParts [.ofType (.keyword .int)]
      [⟨name "x", some (.expr (.int 1))⟩, ⟨(name "y").pointers 1, none⟩]),
    .declaration .interrupted]

/-- The first declaration adds two entities.  The second one adds none, although its first name is
recorded; the names before keep their places. -/
theorem partlyLowered_grows :
    Session.redeclared.GrowsTo (Session.redeclared.after .constant ExternalDeclaration.partlyLowered) ∧
    Session.redeclared.context.symbols.keys = ["x", "y", "v", "f"] ∧
    (Session.redeclared.after .constant ExternalDeclaration.partlyLowered).context.symbols.keys =
      ["x", "y", "v", "f", "n"] ∧
    (∃ s', Lowering.unit .constant (ExternalDeclaration.partlyLowered.take 1) .redeclared = .ok 2 s' ∧
      s'.declarations.size = Session.redeclared.declarations.size + 2) ∧
    ∃ e s' s₁, Lowering.unit .constant ExternalDeclaration.partlyLowered .redeclared = .error e s' ∧
      Lowering.unit .constant (ExternalDeclaration.partlyLowered.take 1) .redeclared = .ok 2 s₁ ∧
      s'.declarations = s₁.declarations := by
  obtain ⟨hAfter, -, hCount, hError⟩ := session_grows .constant
  have hFirst : answerOf (Lowering.unit .constant (ExternalDeclaration.partlyLowered.take 1)
      .redeclared) = .ok 2 := by cbv
  have hFails : succeeds (Lowering.unit .constant ExternalDeclaration.partlyLowered) .redeclared =
      false := by cbv
  obtain ⟨s₁, hFirst⟩ := answerOf_eq_ok_iff.mp hFirst
  obtain ⟨e, s', hRun⟩ := succeeds_eq_false_iff.mp hFails
  refine ⟨hAfter _ _, by cbv, by cbv, ⟨s₁, hFirst, hCount _ _ _ _ hFirst⟩, e, s', s₁, hRun, hFirst, ?_⟩
  obtain ⟨before, i, later, n, s₂, hContents, hBefore, ⟨s₃, hItem⟩, hDeclarations⟩ :=
    hError _ _ _ _ hRun
  -- The first declaration alone has no mismatch, so it is the second one that stops the unit.
  cases before with
  | nil =>
      obtain ⟨rfl, -⟩ := List.cons.inj hContents
      have hBoth := hFirst.symm.trans hItem
      cases hBoth
  | cons first more =>
      obtain ⟨rfl, hRest⟩ := List.cons.inj hContents
      cases more with
      | nil =>
          obtain ⟨-, rfl⟩ := EStateM.Result.ok.inj (hFirst.symm.trans hBefore)
          exact hDeclarations
      | cons second more =>
          have hLength := congrArg List.length hRest
          simp at hLength

end CDecl
