import CDecl.Proofs.Agreement
import CDecl.Proofs.Interruption

/-!
# Chains of units

How items are distributed over the units of a chain leaves no trace but in the log, where every unit
counts what it has added.  Computations that differ in nothing else are `SameButLog`; sequencing keeps
this, so that it is shown for single units first and for chains of any length by induction.

The main result, `chain_lowered_as_one`, also says which units a chain has when another one is appended.
-/

namespace CDecl

/-- The session without its log. -/
def Session.unlogged (s : Session) : Session :=
  { s with context := { s.context with events := #[] } }

namespace Session

theorem unlogged_eq_iff {s s' : Session} :
    s.unlogged = s'.unlogged ↔ s.declarations = s'.declarations ∧
      s.context.symbols = s'.context.symbols ∧ s.context.tags = s'.context.tags ∧
      s.context.report = s'.context.report := by
  obtain ⟨⟨symbols, tags, report, events⟩, declarations⟩ := s
  obtain ⟨⟨symbols', tags', report', events'⟩, declarations'⟩ := s'
  simp [unlogged]
  tauto

theorem unlogged_extend {s s' : Session} (hSame : s.unlogged = s'.unlogged) (events : List Event)
    (entities : List Entity) :
    (s.extend events entities).unlogged = (s'.extend events entities).unlogged := by
  obtain ⟨hDeclarations, hSymbols, hTags, hReport⟩ := unlogged_eq_iff.mp hSame
  simp only [unlogged, extend, Context.replay_eq, hDeclarations, hSymbols, hTags, hReport]

end Session

namespace Lowering

variable {α β γ δ : Type}

/-- From sessions that are the same but for the log, the computations lead to such sessions again, with
any values, or to the same mismatch. -/
def SameButLog (x : Lowering α) (y : Lowering β) : Prop :=
  ∀ s s' : Session, s.unlogged = s'.unlogged →
    mapResult Session.unlogged (fun _ => ()) (x s) = mapResult Session.unlogged (fun _ => ()) (y s')

namespace SameButLog

variable {x : Lowering α} {y : Lowering β} {z : Lowering γ} {f : α → Lowering γ} {g : β → Lowering δ}

theorem symm (hxy : SameButLog x y) : SameButLog y x :=
  fun s s' hSame => (hxy s' s hSame.symm).symm

theorem trans (hxy : SameButLog x y) (hyz : SameButLog y z) : SameButLog x z :=
  fun s s' hSame => (hxy s s' hSame).trans (hyz s' s' rfl)

theorem pure (a : α) (b : β) : SameButLog (Pure.pure a) (Pure.pure b) :=
  fun _ _ hSame => congrArg (EStateM.Result.ok ()) hSame

/-- Sequences are the same where their parts are. -/
theorem bind (hxy : SameButLog x y) (hfg : ∀ a b, SameButLog (f a) (g b)) :
    SameButLog (x >>= f) (y >>= g) := by
  intro s s' hSame
  have hFirst := hxy s s' hSame
  rw [bind_run, bind_run]
  cases hX : x s with
  | error e s₁ =>
      cases hY : y s' with
      | error e' s₁' =>
          rw [hX, hY] at hFirst
          obtain ⟨rfl, hLeft⟩ := EStateM.Result.error.inj hFirst
          exact congrArg (EStateM.Result.error e) hLeft
      | ok b s₁' =>
          rw [hX, hY] at hFirst
          exact nomatch hFirst
  | ok a s₁ =>
      cases hY : y s' with
      | error e' s₁' =>
          rw [hX, hY] at hFirst
          exact nomatch hFirst
      | ok b s₁' =>
          rw [hX, hY] at hFirst
          exact hfg a b s₁ s₁' (EStateM.Result.ok.inj hFirst).2

/-- A first part that only logs does not matter. -/
theorem skip (hx : SameButLog x (Pure.pure () : Lowering Unit)) (hf : ∀ a, SameButLog (f a) y) :
    SameButLog (x >>= f) y :=
  hx.bind (g := fun _ => y) fun a _ => hf a

/-- A second part that only logs does not matter. -/
theorem andThen (hxy : SameButLog x y) (hf : ∀ a, SameButLog (f a) (Pure.pure () : Lowering Unit)) :
    SameButLog (x >>= f) y := by
  intro s s' hSame
  have hFirst := hxy s s' hSame
  rw [bind_run]
  cases hX : x s with
  | error e s₁ =>
      rw [← hFirst, hX]
      rfl
  | ok a s₁ =>
      rw [← hFirst, hX]
      exact hf a s₁ s₁ rfl

end SameButLog

theorem note_sameButLog (event : Event) :
    SameButLog (onContext (Lower.note event)) (pure () : Lowering Unit) :=
  fun _ _ hSame => congrArg (EStateM.Result.ok ()) hSame

theorem get_sameButLog : SameButLog (get : Lowering Session) (pure () : Lowering Unit) :=
  fun _ _ hSame => congrArg (EStateM.Result.ok ()) hSame

/-! ### Items and units -/

variable (ev : Evaluator)

/-- No item reads the log. -/
theorem items_sameButLog (contents : List ExternalDeclaration) :
    SameButLog (items ev contents) (items ev contents) := by
  intro s s' hSame
  obtain ⟨events, entities, answer, hRun⟩ :=
    items_settledBy (Agreement.readsAt_same ev _) s.context.symbols
  rw [hRun s rfl, hRun s' (Session.unlogged_eq_iff.mp hSame).2.1]
  have hExtend := Session.unlogged_extend hSame events entities
  cases answer with
  | error e => exact congrArg (EStateM.Result.error e) hExtend
  | ok _ => exact congrArg (EStateM.Result.ok ()) hExtend

/-- A unit does what its items do, and logs their number. -/
theorem unit_sameButLog (contents : List ExternalDeclaration) :
    SameButLog (unit ev contents) (items ev contents) := by
  intro s s' hSame
  rw [← items_sameButLog ev contents s s' hSame, unit_run]
  cases items ev contents s <;> rfl

/-- Units do what all of their items do. -/
theorem units_sameButLog : ∀ units : List (List ExternalDeclaration),
    SameButLog (Lowering.units ev units) (items ev units.flatten)
  | [] => .pure () ()
  | contents :: rest => by
      rw [units, List.flatten_cons, items_append]
      exact (unit_sameButLog ev contents).bind fun _ _ => units_sameButLog rest

theorem units_append (first second : List (List ExternalDeclaration)) :
    Lowering.units ev (first ++ second) =
      Lowering.units ev first >>= fun _ => Lowering.units ev second := by
  induction first with
  | nil => rfl
  | cons contents rest ih =>
      rw [List.cons_append, Lowering.units, Lowering.units, ih]
      simp only [bind_assoc]

/-- The output of a result, or the mismatch that it stopped with. -/
def outcome : EStateM.Result ShapeMismatch Session α → Except ShapeMismatch Output
  | .ok _ s => .ok s.output
  | .error e _ => .error e

/-- The log is no part of the output. -/
theorem outcome_unlogged (r : EStateM.Result ShapeMismatch Session α) :
    outcome (mapResult Session.unlogged (fun _ => ()) r) = outcome r := by
  cases r <;> rfl

theorem SameButLog.outcome_eq {x : Lowering α} {y : Lowering β} (hxy : SameButLog x y)
    (s : Session) : outcome (x s) = outcome (y s) := by
  rw [← outcome_unlogged (x s), hxy s s rfl, outcome_unlogged]

end Lowering

/-! ### Chains -/

namespace TranslationUnit

theorem output?_eq_outcome (ev : Evaluator) (policy : WarningPolicy) (u : TranslationUnit) :
    u.output? ev policy = Lowering.outcome (Lowering.units ev u.units (.start policy)) := by
  unfold output? lower
  cases Lowering.units ev u.units (.start policy) <;> rfl

/-- The output for a chain in a session that starts with the given report. -/
def outputFrom (ev : Evaluator) (report : Report) (u : TranslationUnit) :
    Except ShapeMismatch Output :=
  Lowering.outcome (Lowering.units ev u.units (.fresh report))

/-- One unit with all the items of a chain. -/
def joined (u : TranslationUnit) : TranslationUnit := ⟨u.units.flatten, none⟩

/-- It does not matter at which end a chain is put together. -/
theorem chain_assoc : ∀ u v w : TranslationUnit, (u.chain v).chain w = u.chain (v.chain w)
  | ⟨items, none⟩, v, w => rfl
  | ⟨items, some next⟩, v, w => by simp only [chain, chain_assoc next v w]

/-- A unit that holds all the items of a chain is lowered like the chain. -/
theorem outputFrom_joined (ev : Evaluator) (report : Report) (u : TranslationUnit) :
    u.joined.outputFrom ev report = u.outputFrom ev report := by
  have hJoined : Lowering.SameButLog (Lowering.units ev u.joined.units)
      (Lowering.items ev u.units.flatten) := by
    have hUnits := Lowering.units_sameButLog ev u.joined.units
    rwa [joined, units, List.flatten_singleton] at hUnits
  exact (hJoined.trans (Lowering.units_sameButLog ev u.units).symm).outcome_eq (.fresh report)

/-- Units chained one after the other, the empty unit if there is none. -/
def chainAll : List TranslationUnit → TranslationUnit
  | [] => .empty
  | head :: rest => rest.foldl chain head

theorem units_chainAll (head : TranslationUnit) (rest : List TranslationUnit) :
    (chainAll (head :: rest)).units = (head :: rest).flatMap units := by
  show (rest.foldl chain head).units = _
  induction rest generalizing head with
  | nil => simp
  | cons next rest ih =>
      rw [List.foldl_cons, ih]
      simp [units_chain]

/-- Units chained one after the other are lowered like a list of units. -/
theorem chainAll_sameButLog (ev : Evaluator) : ∀ chains : List TranslationUnit,
    Lowering.SameButLog (Lowering.units ev (chainAll chains).units)
      (Lowering.units ev (chains.flatMap units))
  | [] => Lowering.units_sameButLog ev [[]]
  | head :: rest => by
      rw [units_chainAll]
      exact (Lowering.units_sameButLog ev _).trans (Lowering.units_sameButLog ev _).symm

end TranslationUnit

/-- **Chains are lowered as one unit.**  Appending a chain to another one puts its units behind those that
are there, so it does not matter in which order chains are put together.  Whatever has been reported
before and whatever the policy is, a chain has the same output or the same mismatch as one unit with all
of its items. -/
theorem chain_lowered_as_one :
    (∀ u v : TranslationUnit, (u.chain v).units = u.units ++ v.units) ∧
    (∀ u v w : TranslationUnit, (u.chain v).chain w = u.chain (v.chain w)) ∧
    (∀ (ev : Evaluator) (report : Report) (u : TranslationUnit),
      u.outputFrom ev report = u.joined.outputFrom ev report) ∧
    ∀ (ev : Evaluator) (policy : WarningPolicy) (u : TranslationUnit),
      u.output? ev policy = u.joined.output? ev policy := by
  refine ⟨TranslationUnit.units_chain, TranslationUnit.chain_assoc, fun ev report u => ?_,
    fun ev policy u => ?_⟩
  · exact (u.outputFrom_joined ev report).symm
  · rw [TranslationUnit.output?_eq_outcome, TranslationUnit.output?_eq_outcome]
    exact (u.outputFrom_joined ev { policy }).symm

end CDecl
