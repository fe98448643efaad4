import CDecl.Proofs.Recording
import CDecl.Syntax.Build

/-!
# Lowering the same specifiers again

A specifier list can be lowered any number of times.  It reads nothing but the symbols and records none,
so that a second time it gives the same answer, reports the same and completes the same definitions in
the same order.  Definitions that were replaced by later ones come up again then, but they are replaced
again too: the tag table is the one after the first time.

`specifiers_repeatable` is the statement; it covers lists that meet a mismatch as well.
-/

namespace CDecl

/-- Events that record no symbol leave the tables of the first time when they come again, and report what
they reported then. -/
theorem Context.replay_replay (c : Context) {events : List Event}
    (hEvents : ∀ e ∈ events, e.recordsSymbol = false) :
    ((c.replay events).replay events).symbols = c.symbols ∧
      ((c.replay events).replay events).tags = (c.replay events).tags ∧
      ∃ added : List Diagnostic,
        (c.replay events).report.diagnostics.toList = c.report.diagnostics.toList ++ added ∧
        ((c.replay events).replay events).report.diagnostics.toList =
          (c.replay events).report.diagnostics.toList ++ added := by
  refine ⟨?_, ?_, events.filterMap (Event.diagnostic? c.report.policy), ?_, ?_⟩
  · rw [symbols_replay hEvents, symbols_replay hEvents]
  · simp only [replay_eq]
    exact Table.insertAll_insertAll c.tags _
  · simp [replay_eq]
  · -- The policy is the one of the first time, so the same findings are listed.
    have hPolicy : (c.replay events).report.policy = c.report.policy := by rw [replay_eq]
    rw [replay_eq (c.replay events), hPolicy]
    simp

/-- **Specifiers can be lowered again.**  In any context, a specifier list that is lowered twice in a row
gives the same descriptor and storage class, or the same mismatch, both times.  Symbols are not
touched.  After the second time the tag table is what it was after the first, and the diagnostics that
the first time has added are there twice. -/
theorem specifiers_repeatable (ev : Evaluator) (specs : List DeclarationSpecifier) (c : Context) :
    let first := Lower.specifiers ev specs {} c
    let second := Lower.specifiers ev specs {} (finalState first)
    answerOf second = answerOf first ∧
      (finalState first).symbols = c.symbols ∧ (finalState second).symbols = c.symbols ∧
      (finalState second).tags = (finalState first).tags ∧
      ∃ added : List Diagnostic,
        (finalState first).report.diagnostics.toList = c.report.diagnostics.toList ++ added ∧
        (finalState second).report.diagnostics.toList =
          (finalState first).report.diagnostics.toList ++ added := by
  intro first second
  obtain ⟨events, answer, hEvents, hPlay⟩ := Lower.specifiers_replays ev specs {} c.symbols
  have hSymbols : (c.replay events).symbols = c.symbols := Context.symbols_replay hEvents c
  have hFirst : first = Lower.play events answer c := hPlay c rfl
  have hLeft : finalState first = c.replay events := by rw [hFirst, Lower.finalState_play]
  have hSecond : second = Lower.play events answer (c.replay events) := by
    show Lower.specifiers ev specs {} (finalState first) = _
    rw [hLeft, hPlay _ hSymbols]
  obtain ⟨hSymbols', hTags, hAdded⟩ := c.replay_replay hEvents
  rw [hLeft, hSecond, hFirst, Lower.answerOf_play, Lower.answerOf_play, Lower.finalState_play]
  exact ⟨rfl, hSymbols, hSymbols', hTags, hAdded⟩

-- In `struct s { struct s { int a; } b; } enum e struct s { int c; }` each definition of `s` replaces the
-- one before it, and of the three only the last one is left.
example :
    let member := fun (kind : TypeSpecifierKind) name => MemberDeclaration.ofParts
      [.ofType kind] [.declarator (.ofDirect (.ofName name))]
    let define := fun members => TypeSpecifierKind.record (.definition .struct (some "s") members)
    let specs : List DeclarationSpecifier :=
      [.ofType (define [member (define [member (.keyword .int) "a"]) "b"]),
        .ofType (.enum ⟨some (.ofName "e"), none, .empty⟩),
        .ofType (define [member (.keyword .int) "c"])]
    let twice := finalState ((do
      let _ ← Lower.specifiers .constant specs {}
      Lower.specifiers .constant specs {} : Lower Specified) {})
    twice.tags.entries.map (fun (tag, a) => (tag, a.members.map (·.name))) = [("s", ["c"])] ∧
      twice.report.diagnostics.size = 2 := by
  cbv

end CDecl
