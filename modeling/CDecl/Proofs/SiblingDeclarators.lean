import CDecl.Proofs.Agreement
import CDecl.Proofs.AtomicQualifiers

/-!
# Declarators of one declaration

A declaration with several declarators declares what it would declare in pieces, one for each declarator
with the specifiers repeated, as long as no record is defined in the specifiers.  Nothing that a declarator
does to its copy of the descriptor reaches the next one; what does reach it are the symbols and tags that
have been recorded, and these are the same in the pieces.

Specifiers without a definition are `Inert`: they leave symbols and tags alone and give the same
descriptor wherever they are lowered.  So the two runs go side by side (`Alongside`), from declarator to
declarator, and the main result, `siblings_independent`, reads off what they leave.
-/

namespace CDecl

/-! ### Contexts with the same tables -/

/-- The contexts have recorded the same symbols and tags, and have the same report if asked for. -/
structure Context.SameTables (reports : Prop) (c c' : Context) : Prop where
  symbols : c.symbols = c'.symbols
  tags : c.tags = c'.tags
  report : reports → c.report = c'.report

namespace Context.SameTables

variable {reports : Prop} {c c' c'' : Context}

theorem refl (c : Context) : SameTables reports c c := ⟨rfl, rfl, fun _ => rfl⟩

theorem symm (h : SameTables reports c c') : SameTables reports c' c :=
  ⟨h.symbols.symm, h.tags.symm, fun hReports => (h.report hReports).symm⟩

theorem trans (h : SameTables reports c c') (h' : SameTables reports c' c'') :
    SameTables reports c c'' :=
  ⟨h.symbols.trans h'.symbols, h.tags.trans h'.tags,
    fun hReports => (h.report hReports).trans (h'.report hReports)⟩

/-- Tables that are the same stay so under the same events. -/
theorem replay (h : SameTables reports c c') (events : List Event) :
    SameTables reports (c.replay events) (c'.replay events) where
  symbols := by simp only [replay_eq, h.symbols]
  tags := by simp only [replay_eq, h.tags]
  report hReports := by simp only [replay_eq, h.report hReports]

end Context.SameTables

namespace DeclarationSpecifier

/-- Whether an element defines no record; a reference to one will do. -/
def isBare : DeclarationSpecifier → Bool
  | .type ⟨.record r, _⟩ => r.members.isNone
  | _ => true

/-- Whether an element is reported: function specifiers, enumerations and `_Atomic` are. -/
def isReported : DeclarationSpecifier → Bool
  | .function _ => true
  | .type ⟨.enum _, _⟩ => true
  | .qualifier q => q.kind = .atomic
  | _ => false

end DeclarationSpecifier

namespace Lower

variable {α β : Type} {reports : Prop} {ev : Evaluator}

/-- What depends on symbols only has the same answer in contexts with the same tables, and the tables are
the same again. -/
theorem SettledBy.sameTables {x : Lower α} (hx : SettledBy .same x) {c c' : Context}
    (h : c.SameTables reports c') : answerOf (x c) = answerOf (x c') ∧
      (finalState (x c)).SameTables reports (finalState (x c')) := by
  obtain ⟨events, answer, hPlay⟩ := hx c.symbols
  rw [hPlay c rfl, hPlay c' h.symbols]
  simp only [answerOf_play, finalState_play]
  exact ⟨trivial, h.replay events⟩

/-! ### Specifiers without definitions -/

/-- The computation has one answer in all contexts and leaves their tables alone, and the reports too if
asked for. -/
def Inert (reports : Prop) (x : Lower α) : Prop :=
  ∃ answer, ∀ c, answerOf (x c) = answer ∧ (finalState (x c)).SameTables reports c

namespace Inert

theorem pure (a : α) : Inert reports (Pure.pure a : Lower α) :=
  ⟨.ok a, fun c => ⟨rfl, .refl c⟩⟩

theorem mismatch (e : ShapeMismatch) : Inert reports (throw e : Lower α) :=
  ⟨.error e, fun c => ⟨rfl, .refl c⟩⟩

theorem bind {x : Lower α} {f : α → Lower β} (hx : Inert reports x)
    (hf : ∀ a, Inert reports (f a)) : Inert reports (x >>= f) := by
  obtain ⟨answer, hFirst⟩ := hx
  cases answer with
  | error e =>
      refine ⟨.error e, fun c => ?_⟩
      obtain ⟨hAnswer, hTables⟩ := hFirst c
      rw [bind_run]
      cases hRun : x c with
      | ok a c' =>
          rw [hRun] at hAnswer
          cases hAnswer
      | error e' c' =>
          rw [hRun] at hAnswer hTables
          obtain rfl : e' = e := Except.error.inj hAnswer
          exact ⟨rfl, hTables⟩
  | ok a =>
      obtain ⟨answer, hSecond⟩ := hf a
      refine ⟨answer, fun c => ?_⟩
      obtain ⟨hAnswer, hTables⟩ := hFirst c
      obtain ⟨c', hRun⟩ := answerOf_eq_ok_iff.mp hAnswer
      rw [hRun] at hTables
      obtain ⟨hAnswer', hTables'⟩ := hSecond c'
      rw [bind_run, hRun]
      exact ⟨hAnswer', hTables'.trans hTables⟩

theorem note (event : Event) : Inert reports (Lower.note event) :=
  ⟨.ok (), fun _ => ⟨rfl, rfl, rfl, fun _ => rfl⟩⟩

/-- A report does no harm where reports do not count. -/
theorem unsupported (hReports : ¬reports) (construct : Unsupported) (code : GrammarCase)
    (location : Span) : Inert reports (Lower.unsupported construct code location) :=
  ⟨.ok (), fun _ => ⟨rfl, rfl, rfl, fun h => absurd h hReports⟩⟩

theorem onlyIf {p : Prop} [Decidable p] {x : Lower Unit} (hx : p → Inert reports x) :
    Inert reports (onlyIf p x) := by
  unfold Lower.onlyIf
  split
  · next hp => exact hx hp
  · exact pure ()

theorem changeScalar (change : Scalar → Scalar) (location : Span) (d : Descriptor) :
    Inert reports (changeScalar change location d) := by
  cases d with
  | scalar s => exact pure _
  | aggregate a => exact mismatch _
  | function f => exact mismatch _

end Inert

/-- An element of a specifier list that defines no record has the same effect in all contexts and
records nothing. -/
theorem typeSpecifier_inert (ev : Evaluator) : ∀ (t : TypeSpecifier) (built : Descriptor),
    (DeclarationSpecifier.type t).isBare = true →
    (reports → (DeclarationSpecifier.type t).isReported = false) →
    Inert reports (typeSpecifier ev t built)
  | ⟨.keyword k, span⟩, built, _, _ => by
      rw [typeSpecifier]
      exact .changeScalar _ span built
  | ⟨.typedefName name, span⟩, built, _, _ => by
      rw [typeSpecifier]
      exact .changeScalar _ span built
  | ⟨.enum e, span⟩, built, _, hReports => by
      rw [typeSpecifier]
      refine .bind (.unsupported (fun h => ?_) _ _ _) fun _ => .pure built
      simpa [DeclarationSpecifier.isReported] using hReports h
  | ⟨.record ⟨kind, tag, none, span⟩, span'⟩, built, _, _ => by
      rw [typeSpecifier, record]
      exact .bind (.bind (.note _) fun _ => .pure _) fun a => .pure _
  | ⟨.record ⟨kind, tag, some members, span⟩, span'⟩, built, hBare, _ => by
      cases hBare

theorem specifiers_inert (ev : Evaluator) : ∀ (specs : List DeclarationSpecifier)
    (built : Specified), (∀ s ∈ specs, s.isBare = true) →
    (reports → ∀ s ∈ specs, s.isReported = false) → Inert reports (specifiers ev specs built)
  | [], built, _, _ => by
      rw [specifiers]
      exact .pure built
  | s :: rest, built, hBare, hReports => by
      have hRest := fun next => specifiers_inert ev rest next
        (fun s' hMem => hBare s' (.tail _ hMem)) fun h s' hMem => hReports h s' (.tail _ hMem)
      have hHere := fun h => hReports h s (.head _)
      cases s with
      | storageClass s =>
          rw [specifiers]
          exact .bind (.note _) fun _ => hRest _
      | type t =>
          rw [specifiers]
          exact .bind (typeSpecifier_inert ev t _ (hBare _ (.head _)) hHere) fun d => hRest _
      | qualifier q =>
          rw [specifiers, qualifier_eq]
          refine .bind (.bind (.onlyIf fun hAtomic => .unsupported (fun h => ?_) _ _ _) fun _ => ?_)
            fun d => hRest _
          · simpa [DeclarationSpecifier.isReported, hAtomic] using hHere h
          · exact .bind (.onlyIf fun _ => .note _) fun _ => .pure _
      | function f =>
          rw [specifiers]
          refine .bind (.unsupported (fun h => ?_) _ _ _) fun _ => hRest _
          simpa [DeclarationSpecifier.isReported] using hHere h

end Lower

/-! ### A declaration and its parts -/

/-- The parts are declarations with the same specifiers, one for each declarator and in their order. -/
def Declaration.SplitsInto (d : Declaration) (parts : List Declaration) : Prop :=
  List.Forall₂ (fun x part => part.specifiers = d.specifiers ∧ part.initDeclarators = [x])
    d.initDeclarators parts

/-- How the rest of a declaration and the parts for it may end: with entities that both declare, here
behind given ones, and with the same tables, or with the same mismatch. -/
inductive Alongside (reports : Prop) (before : Array Entity) :
    EStateM.Result ShapeMismatch Context (List Entity) →
    EStateM.Result ShapeMismatch Session Unit → Prop
  | ok {entities : List Entity} {c : Context} {s : Session}
      (hTables : c.SameTables reports s.context) (hDeclared : s.declarations = before ++ entities) :
      Alongside reports before (.ok entities c) (.ok () s)
  | error (e : ShapeMismatch) (c : Context) (s : Session) :
      Alongside reports before (.error e c) (.error e s)

/-- An entity that both have declared before. -/
theorem Alongside.cons {reports : Prop} {before : Array Entity} {e : Entity}
    {r : EStateM.Result ShapeMismatch Context (List Entity)}
    {r' : EStateM.Result ShapeMismatch Session Unit} (h : Alongside reports (before ++ [e]) r r') :
    Alongside reports before (mapResult id (e :: ·) r) r' := by
  cases h with
  | ok hTables hDeclared => exact .ok hTables (by simp [hDeclared])
  | error e c s => exact .error e c s

namespace Lower

variable {reports : Prop} {ev : Evaluator} {specs : List DeclarationSpecifier} {spec : Specified}

/-- A declaration with declarators gets no remark. -/
theorem declaration_of_ne_nil {d : Declaration} (hDeclarators : d.initDeclarators ≠ []) :
    declaration ev d =
      specifiers ev d.specifiers {} >>= fun spec => initDeclarators ev spec d.initDeclarators := by
  have hNonempty : d.initDeclarators.isEmpty = false := by simpa using hDeclarators
  rw [declaration_eq]
  simp only [onlyIf, hNonempty]
  rfl

/-- A declaration with one declarator declares what the declarator does behind the specifiers. -/
theorem declaration_single {d : Declaration} {x : InitDeclarator} (hSpecs : d.specifiers = specs)
    (hSingle : d.initDeclarators = [x]) {c : Context}
    (hAnswer : answerOf (specifiers ev specs {} c) = .ok spec) :
    declaration ev d c = mapResult id ([·])
      (initDeclarator ev spec x (finalState (specifiers ev specs {} c))) := by
  obtain ⟨c', hRun⟩ := answerOf_eq_ok_iff.mp hAnswer
  rw [declaration_of_ne_nil (by simp [hSingle]), hSpecs, hSingle, bind_run, hRun, finalState]
  show (initDeclarator ev spec x >>= fun e => _) c' = _
  rw [bind_run]
  cases initDeclarator ev spec x c' <;> rfl

/-- Each declarator goes the same way as its part, whatever descriptor the specifiers give. -/
theorem initDeclarators_alongside (hSpecs : ∀ c, answerOf (specifiers ev specs {} c) = .ok spec ∧
      (finalState (specifiers ev specs {} c)).SameTables reports c)
    {declarators : List InitDeclarator} {parts : List Declaration}
    (hParts : List.Forall₂ (fun x part => part.specifiers = specs ∧ part.initDeclarators = [x])
      declarators parts) {c : Context} {s : Session} (hTables : c.SameTables reports s.context) :
    Alongside reports s.declarations (initDeclarators ev spec declarators c)
      (Lowering.items ev (parts.map .declaration) s) := by
  induction hParts generalizing c s with
  | nil => exact .ok hTables (by simp)
  | @cons x part rest parts hPart _ ih =>
      obtain ⟨hAnswer, hInert⟩ := hSpecs s.context
      have hSettled : SettledBy .same (initDeclarator ev spec x) :=
        (SettledBy.compositional .same ev).initDeclarator SettledBy.recordSymbol spec
          (Agreement.readsAt_same ev _)
      -- The part lowers the specifiers again, which leaves the tables of its declarator as they are here.
      obtain ⟨hSameAnswer, hAfter⟩ := hSettled.sameTables (hTables.trans hInert.symm)
      rw [initDeclarators, bind_run, List.map_cons, Lowering.items_cons_run, item,
        declaration_single hPart.1 hPart.2 hAnswer]
      rcases cases_of_answerOf_eq hSameAnswer with
        ⟨e, c₁, c₂, hHere, hThere⟩ | ⟨e, c₁, c₂, hHere, hThere⟩
      · rw [hHere, hThere] at hAfter
        rw [hHere, hThere]
        exact (ih (s := ⟨c₂, s.declarations ++ [e]⟩) hAfter).cons
      · rw [hHere, hThere]
        exact .error e c₁ _

/-- A declaration goes the same way as its parts.  If the specifiers have a mismatch, it is the one of the
first part. -/
theorem declaration_alongside {d : Declaration} {parts : List Declaration}
    (hInert : Inert reports (specifiers ev d.specifiers {})) (hDeclarators : d.initDeclarators ≠ [])
    (hParts : d.SplitsInto parts) (s : Session) :
    Alongside reports s.declarations (declaration ev d s.context)
      (Lowering.items ev (parts.map .declaration) s) := by
  obtain ⟨answer, hSpecs⟩ := hInert
  obtain ⟨hAnswer, hTables⟩ := hSpecs s.context
  rw [declaration_of_ne_nil hDeclarators, bind_run]
  cases hRun : specifiers ev d.specifiers {} s.context with
  | ok spec c =>
      rw [hRun] at hAnswer hTables
      obtain rfl : .ok spec = answer := hAnswer
      exact initDeclarators_alongside hSpecs hParts hTables
  | error e c =>
      obtain ⟨x, rest, hList⟩ := List.exists_cons_of_ne_nil hDeclarators
      rw [Declaration.SplitsInto, hList, List.forall₂_cons_left_iff] at hParts
      obtain ⟨part, parts, ⟨hPartSpecs, hPartSingle⟩, -, rfl⟩ := hParts
      rw [List.map_cons, Lowering.items_cons_run, item,
        declaration_of_ne_nil (by simp [hPartSingle]), hPartSpecs, bind_run, hRun]
      exact .error e c _

end Lower

namespace Lowering

/-- Where an item goes the same way as other items, units of them do. -/
theorem unit_alongside {reports : Prop} {ev : Evaluator} {i : ExternalDeclaration}
    {contents : List ExternalDeclaration} {s : Session}
    (h : Alongside reports s.declarations (Lower.item ev i s.context) (items ev contents s)) :
    (∃ n s₁ s₂, unit ev [i] s = .ok n s₁ ∧ unit ev contents s = .ok n s₂ ∧
      s₁.declarations = s₂.declarations ∧ s₁.context.SameTables reports s₂.context) ∨
    ∃ e s₁ s₂, unit ev [i] s = .error e s₁ ∧ unit ev contents s = .error e s₂ := by
  rw [unit_run, unit_run, items_cons_run]
  generalize Lower.item ev i s.context = whole at h
  generalize items ev contents s = parts at h
  cases h with
  | @ok entities c s' hTables hDeclared =>
      obtain ⟨c', declared⟩ := s'
      obtain rfl : declared = s.declarations ++ entities := hDeclared
      exact .inl ⟨_, _, _, rfl, rfl, rfl, hTables.symbols, hTables.tags, hTables.report⟩
  | error e c s' => exact .inr ⟨e, _, _, rfl, rfl⟩

end Lowering

/-- **Declarators of one declaration are independent.**  Let the specifiers of a declaration with
declarators define no record.  In any session, the declaration and its parts, one for each declarator,
add the same number of entities or have the same mismatch.  If there is none, they leave the same
declarations, symbols and tags, and the same report as well if no specifier is reported. -/
theorem siblings_independent (ev : Evaluator) {d : Declaration} {parts : List Declaration}
    (hBare : ∀ s ∈ d.specifiers, s.isBare = true) (hDeclarators : d.initDeclarators ≠ [])
    (hParts : d.SplitsInto parts) (s : Session) :
    let whole := Lowering.unit ev [.declaration d] s
    let split := Lowering.unit ev (parts.map .declaration) s
    answerOf whole = answerOf split ∧
      ∀ n s₁ m s₂, whole = .ok n s₁ → split = .ok m s₂ →
        s₁.declarations = s₂.declarations ∧
        s₁.context.symbols = s₂.context.symbols ∧ s₁.context.tags = s₂.context.tags ∧
        ((∀ s ∈ d.specifiers, s.isReported = false) → s₁.context.report = s₂.context.report) := by
  intro whole split
  have hAlongside := Lower.declaration_alongside
    (Lower.specifiers_inert ev d.specifiers {} hBare id) hDeclarators hParts s
  rcases Lowering.unit_alongside (i := .declaration d) hAlongside with
    ⟨n, s₁, s₂, hWhole, hSplit, hDeclared, hTables⟩ | ⟨e, s₁, s₂, hWhole, hSplit⟩
  · refine ⟨by simp only [whole, split, hWhole, hSplit, answerOf], ?_⟩
    intro n' s₁' m s₂' hOk hOk'
    obtain ⟨-, rfl⟩ := EStateM.Result.ok.inj (hWhole.symm.trans hOk)
    obtain ⟨-, rfl⟩ := EStateM.Result.ok.inj (hSplit.symm.trans hOk')
    exact ⟨hDeclared, hTables.symbols, hTables.tags, hTables.report⟩
  · refine ⟨by simp only [whole, split, hWhole, hSplit, answerOf], ?_⟩
    intro _ _ _ _ hOk
    cases hWhole.symm.trans hOk

namespace Declaration

/-- The declaration `static const int n = 4, *a[n], f(struct s { int m; } p);`. -/
def siblings : Declaration :=
  let record := RecordSpecifier.definition .struct (some "s")
    [.ofParts [.ofType (.keyword .int)] [.declarator (.ofDirect (.ofName "m"))]]
  let p := ParameterDeclaration.named [.ofType (.record record)] (.ofDirect (.ofName "p")) .empty
  let a := (Declarator.ofDirect ((DirectDeclarator.ofName "a").arrayOf
    (.sized (some (.ofKind (.ident "n")))))).pointers 1
  let f := DirectDeclarator.functionWith (.ofName "f") (.parameters (.ofParams [p]))
  .ofParts [.ofStorageClass .static, .ofQualifier .const, .ofType (.keyword .int)]
    [⟨.ofDirect (.ofName "n"), some (.expr (.int 4))⟩, ⟨a, none⟩, ⟨.ofDirect f, none⟩]

/-- The declarations of `siblings` one by one. -/
def siblingParts : List Declaration :=
  siblings.initDeclarators.map fun x => { siblings with initDeclarators := [x] }

end Declaration

/-- The bound of `a` is the value of `n` in the parts too, and the record of the parameter is recorded. -/
theorem siblings_split :
    ∃ s₁ s₂, Lowering.unit .constant [.declaration .siblings] (.start {}) = .ok 3 s₁ ∧
      Lowering.unit .constant (Declaration.siblingParts.map .declaration) (.start {}) = .ok 3 s₂ ∧
      s₁.output = s₂.output ∧
      s₂.declarations.toList.map (·.arrays) = [[], [.known 4], []] ∧
      s₂.context.tags.keys = ["s"] := by
  have hParts : Declaration.siblings.SplitsInto Declaration.siblingParts := by
    simp [Declaration.SplitsInto, Declaration.siblingParts, List.forall₂_map_right_iff]
  obtain ⟨hAnswers, hSame⟩ :=
    siblings_independent .constant (by decide) (by decide) hParts (.start {})
  have hWhole : answerOf (Lowering.unit .constant [.declaration .siblings] (.start {})) =
      .ok 3 := by cbv
  obtain ⟨s₁, hRun⟩ := answerOf_eq_ok_iff.mp hWhole
  obtain ⟨s₂, hRun'⟩ := answerOf_eq_ok_iff.mp (hAnswers.symm.trans hWhole)
  obtain ⟨hDeclarations, hSymbols, hTags, hReport⟩ := hSame 3 s₁ 3 s₂ hRun hRun'
  have hLeft : s₁ = finalState (Lowering.unit .constant [.declaration .siblings] (.start {})) :=
    eq_finalState hRun
  refine ⟨s₁, s₂, hRun, hRun', ?_, ?_, ?_⟩
  · rw [Session.output, Session.output, hDeclarations, hSymbols, hTags, hReport (by decide)]
  · rw [← hDeclarations, hLeft]
    cbv
  · rw [← hTags, hLeft]
    cbv

end CDecl
