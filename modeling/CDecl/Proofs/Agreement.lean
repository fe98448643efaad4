import CDecl.Proofs.Compositional
import CDecl.Proofs.Recording

/-!
# What decides about lowering

Lowering reads nothing of a context but the values of symbols, and these only by evaluating
expressions.  So if symbol tables agree as far as an evaluator can see (`Agreement`), lowering adds the
same events and the same entities and gives the same answer, whatever else has been recorded
(`SettledBy`).  Symbols that are recorded on the way are the same ones in the same order, so that the
tables keep agreeing.
-/

namespace CDecl

/-- A way for symbol tables to agree that recording the same symbol in both of them keeps. -/
structure Agreement where
  holds : SymbolTable → SymbolTable → Prop
  insert : ∀ {t t' : SymbolTable}, holds t t' →
    ∀ name value, holds (t.insert name value) (t'.insert name value)

namespace Agreement

/-- The tables are the same. -/
def same : Agreement where
  holds := Eq
  insert h name value := by rw [h]

/-- The tables show the same values for certain names. -/
def onNames (names : List String) : Agreement where
  holds t t' := ∀ name ∈ names, t.value? name = t'.value? name
  insert := by
    intro t t' hSame name value other hOther
    simp only [SymbolTable.value?, Table.find?_insert]
    split
    · rfl
    · exact hSame other hOther

theorem insertAll (R : Agreement) {t t' : SymbolTable} (hTables : R.holds t t')
    (entries : List (String × Option Value)) :
    R.holds (t.insertAll entries) (t'.insertAll entries) := by
  induction entries generalizing t t' with
  | nil => exact hTables
  | cons entry rest ih => exact ih (R.insert hTables entry.1 entry.2)

/-- Agreeing tables give the same value of an expression. -/
def Settles (R : Agreement) (ev : Evaluator) (e : Expr) : Prop :=
  ∀ t t', R.holds t t' → ev.evaluate e t = ev.evaluate e t'

/-- The same table settles every expression. -/
theorem readsAt_same (ev : Evaluator) (sites : List Site) : ReadsAt (same.Settles ev) sites :=
  fun e _ _ _ hSame => congrArg (ev.evaluate e) hSame

end Agreement

variable {R : Agreement} {ev : Evaluator} {α β : Type}

/-! ### Computations of contexts -/

namespace Lower

/-- Where the symbols agree with given ones, the computation adds the same events and gives the same
answer. -/
def SettledBy (R : Agreement) {α : Type} (x : Lower α) : Prop :=
  ∀ symbols, ∃ (events : List Event) (answer : Except ShapeMismatch α),
    ∀ c : Context, R.holds symbols c.symbols → x c = play events answer c

namespace SettledBy

/-- The two parts of a sequence add their events one after the other. -/
theorem bind {x : Lower α} {f : α → Lower β} (hx : SettledBy R x) (hf : ∀ a, SettledBy R (f a)) :
    SettledBy R (x >>= f) := by
  intro symbols
  obtain ⟨first, answer, hFirst⟩ := hx symbols
  cases answer with
  | error e =>
      refine ⟨first, .error e, fun c hc => ?_⟩
      rw [bind_run, hFirst c hc]
      rfl
  | ok a =>
      obtain ⟨second, answer, hSecond⟩ := hf a (symbols.insertAll (first.filterMap Event.symbol?))
      refine ⟨first ++ second, answer, fun c hc => ?_⟩
      -- Both tables have got the symbols of the first part.
      have hKept : R.holds (symbols.insertAll (first.filterMap Event.symbol?))
          (c.replay first).symbols := by
        rw [Context.replay_eq]
        exact R.insertAll hc _
      rw [bind_run, hFirst c hc]
      show f a (c.replay first) = play (first ++ second) answer c
      rw [hSecond _ hKept]
      simp only [play, Context.replay_append]

theorem recordSymbol (name : String) (value : Option Value) :
    SettledBy R (recordSymbol name value) :=
  fun _ => ⟨[.symbolRecorded name value], .ok (), fun _ _ => rfl⟩

/-- The steps of lowering are settled where the expressions are. -/
theorem compositional (R : Agreement) (ev : Evaluator) :
    Compositional ev (R.Settles ev) (@SettledBy R) where
  pure a := fun _ => ⟨[], .ok a, fun _ _ => rfl⟩
  bind := bind
  mismatch e := fun _ => ⟨[], .error e, fun _ _ => rfl⟩
  note event hPlain := fun _ => ⟨[event], .ok (), fun c _ => note_run hPlain c⟩
  unsupported construct code location := fun _ =>
    ⟨[.unsupportedMet construct code location], .ok (), fun _ _ => rfl⟩
  remark message location := fun _ => ⟨[.remarkMade message location], .ok (), fun _ _ => rfl⟩
  define a := fun _ => ⟨[.recordDefined a], .ok a, fun c _ => define_run a c⟩
  evaluate e hSettles := fun symbols =>
    ⟨[], .ok (ev.evaluate e symbols), fun c hc => by
      show EStateM.Result.ok (ev.evaluate e c.symbols) c = .ok (ev.evaluate e symbols) c
      rw [hSettles symbols c.symbols hc]⟩

end SettledBy

theorem item_settledBy {i : ExternalDeclaration} (hReads : ReadsAt (R.Settles ev) i.sites) :
    SettledBy R (item ev i) :=
  (SettledBy.compositional R ev).item SettledBy.recordSymbol hReads

end Lower

/-! ### Computations of sessions -/

namespace Lowering

/-- The computation that adds the given events and entities and gives the given answer. -/
def play (events : List Event) (entities : List Entity) (answer : Except ShapeMismatch α) :
    Lowering α := fun s =>
  match answer with
  | .ok a => .ok a (s.extend events entities)
  | .error e => .error e (s.extend events entities)

theorem finalState_play (events : List Event) (entities : List Entity)
    (answer : Except ShapeMismatch α) (s : Session) :
    finalState (play events entities answer s) = s.extend events entities := by
  cases answer <;> rfl

theorem answerOf_play (events : List Event) (entities : List Entity)
    (answer : Except ShapeMismatch α) (s : Session) :
    answerOf (play events entities answer s) = answer := by
  cases answer <;> rfl

/-- Where the symbols agree with given ones, the computation adds the same events and entities and
gives the same answer. -/
def SettledBy (R : Agreement) (x : Lowering α) : Prop :=
  ∀ symbols, ∃ (events : List Event) (entities : List Entity) (answer : Except ShapeMismatch α),
    ∀ s : Session, R.holds symbols s.context.symbols → x s = play events entities answer s

theorem SettledBy.bind {x : Lowering α} {f : α → Lowering β} (hx : SettledBy R x)
    (hf : ∀ a, SettledBy R (f a)) : SettledBy R (x >>= f) := by
  intro symbols
  obtain ⟨events, entities, answer, hFirst⟩ := hx symbols
  cases answer with
  | error e =>
      refine ⟨events, entities, .error e, fun s hs => ?_⟩
      rw [bind_run, hFirst s hs]
      rfl
  | ok a =>
      obtain ⟨events', entities', answer, hSecond⟩ :=
        hf a (symbols.insertAll (events.filterMap Event.symbol?))
      refine ⟨events ++ events', entities ++ entities', answer, fun s hs => ?_⟩
      have hKept : R.holds (symbols.insertAll (events.filterMap Event.symbol?))
          (s.extend events entities).context.symbols := by
        rw [Session.extend, Context.replay_eq]
        exact R.insertAll hs _
      rw [bind_run, hFirst s hs]
      show f a (s.extend events entities) = play (events ++ events') (entities ++ entities') answer s
      rw [hSecond _ hKept]
      simp only [play, Session.extend_extend]

theorem onContext_settledBy {x : Lower α} (hx : Lower.SettledBy R x) :
    SettledBy R (onContext x) := by
  intro symbols
  obtain ⟨events, answer, hRun⟩ := hx symbols
  refine ⟨events, [], answer, fun s hs => ?_⟩
  rw [onContext, hRun s.context hs]
  cases answer <;> simp [Lower.play, play, Session.extend]

theorem items_settledBy : ∀ {contents : List ExternalDeclaration},
    ReadsAt (R.Settles ev) (contents.flatMap ExternalDeclaration.sites) →
    SettledBy R (items ev contents)
  | [], _ => fun _ => ⟨[], [], .ok (), fun s _ => by simp [play, Session.extend]; rfl⟩
  | i :: rest, hReads => by
      rw [List.flatMap_cons] at hReads
      rw [items]
      refine (onContext_settledBy (Lower.item_settledBy hReads.left)).bind fun entities => ?_
      have hAdded : SettledBy R
          (modify fun s : Session => { s with declarations := s.declarations ++ entities }) :=
        fun _ => ⟨[], entities, .ok (), fun _ _ => rfl⟩
      exact hAdded.bind fun _ => items_settledBy hReads.right

/-- A unit counts the entities that it adds. -/
theorem unit_settledBy {contents : List ExternalDeclaration}
    (hReads : ReadsAt (R.Settles ev) (contents.flatMap ExternalDeclaration.sites)) :
    ∀ symbols, ∃ (events : List Event) (entities : List Entity) (answer : Except ShapeMismatch Nat),
      (∀ n, answer = .ok n → n = entities.length) ∧
      ∀ s : Session, R.holds symbols s.context.symbols →
        unit ev contents s = play events entities answer s := by
  intro symbols
  obtain ⟨events, entities, answer, hRun⟩ := items_settledBy hReads symbols
  cases answer with
  | error e =>
      refine ⟨events, entities, .error e, nofun, fun s hs => ?_⟩
      rw [unit_run, hRun s hs]
      rfl
  | ok _ =>
      refine ⟨events ++ [.unitLowered entities.length], entities, .ok entities.length, ?_, ?_⟩
      · rintro _ ⟨⟩
        rfl
      · intro s hs
        have hCount : (s.declarations ++ entities).size - s.declarations.size = entities.length := by
          rw [← Array.length_toList, Array.toList_appendList, List.length_append]
          simp
        rw [unit_run, hRun s hs]
        simp only [play, Session.extend, hCount, Context.replay_append]
        rfl

theorem units_settledBy : ∀ {units : List (List ExternalDeclaration)},
    ReadsAt (R.Settles ev) (units.flatMap fun items => items.flatMap ExternalDeclaration.sites) →
    SettledBy R (Lowering.units ev units)
  | [], _ => fun _ => ⟨[], [], .ok (), fun s _ => by simp [play, Session.extend]; rfl⟩
  | contents :: rest, hReads => by
      rw [List.flatMap_cons] at hReads
      have hUnit : SettledBy R (unit ev contents) := fun symbols => by
        obtain ⟨events, entities, answer, -, hRun⟩ := unit_settledBy hReads.left symbols
        exact ⟨events, entities, answer, hRun⟩
      rw [units]
      exact hUnit.bind fun _ => units_settledBy hReads.right

end Lowering

end CDecl
