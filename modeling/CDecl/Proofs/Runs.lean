import Mathlib
import CDecl.Lowering.Session

/-!
# Running lowering computations

How a sequence of computations runs, what can be said of the value of a computation whatever it is
run on, and how a session runs the computations of its items.

Steps that only run under a condition are written as parts of a sequence here, so that no proof about
a sequence has to go through their branches.
-/

namespace CDecl

/-- Sequencing runs the second computation in the state that the first one leaves. -/
theorem bind_run {ε σ α β : Type} (x : EStateM ε σ α) (f : α → EStateM ε σ β) (s : σ) :
    (x >>= f) s = match x s with
      | .ok a s' => f a s'
      | .error e s' => .error e s' := by
  simp only [bind, EStateM.bind]
  cases x s <;> rfl

/-- A sequence gives a value exactly if both of its computations do. -/
theorem bind_eq_ok {ε σ α β : Type} {x : EStateM ε σ α} {f : α → EStateM ε σ β}
    {s s'' : σ} {b : β} :
    (x >>= f) s = .ok b s'' ↔ ∃ a s', x s = .ok a s' ∧ f a s' = .ok b s'' := by
  rw [bind_run]
  cases x s <;> simp [and_assoc]

/-- A sequence fails where its first computation does, or its second one after it. -/
theorem bind_eq_error {ε σ α β : Type} {x : EStateM ε σ α} {f : α → EStateM ε σ β}
    {s s'' : σ} {e : ε} :
    (x >>= f) s = .error e s'' ↔
      x s = .error e s'' ∨ ∃ a s', x s = .ok a s' ∧ f a s' = .error e s'' := by
  rw [bind_run]
  cases x s <;> simp [and_assoc]

/-- A computation that does nothing gives its value and leaves the state alone. -/
theorem pure_eq_ok {ε σ α : Type} {a b : α} {s s' : σ} :
    (pure a : EStateM ε σ α) s = .ok b s' ↔ a = b ∧ s = s' := by
  simp only [pure, EStateM.pure, EStateM.Result.ok.injEq]

/-- The state that a computation leaves, whether it gives a value or not. -/
def finalState {ε σ α : Type} : EStateM.Result ε σ α → σ
  | .ok _ s => s
  | .error _ s => s

theorem eq_finalState {ε σ α : Type} {x : EStateM ε σ α} {s s' : σ} {a : α}
    (hRun : x s = .ok a s') : s' = finalState (x s) := by
  rw [hRun, finalState]

/-- The answer of a computation, without the state that it leaves. -/
def answerOf {ε σ α : Type} : EStateM.Result ε σ α → Except ε α
  | .ok a _ => .ok a
  | .error e _ => .error e

theorem answerOf_eq_ok_iff {ε σ α : Type} {r : EStateM.Result ε σ α} {a : α} :
    answerOf r = .ok a ↔ ∃ s, r = .ok a s := by
  cases r <;> simp [answerOf]

/-- Computations with the same answer both give the same value or both have the same error. -/
theorem cases_of_answerOf_eq {ε σ τ α : Type} {r : EStateM.Result ε σ α}
    {r' : EStateM.Result ε τ α} (hSame : answerOf r = answerOf r') :
    (∃ a s t, r = .ok a s ∧ r' = .ok a t) ∨ ∃ e s t, r = .error e s ∧ r' = .error e t := by
  cases r <;> cases r' <;> simp_all [answerOf]

/-- A result with its value and its state replaced; the error stays. -/
def mapResult {ε σ α β : Type} (onState : σ → σ) (onValue : α → β) :
    EStateM.Result ε σ α → EStateM.Result ε σ β
  | .ok a s => .ok (onValue a) (onState s)
  | .error e s => .error e (onState s)

/-- Whether a computation gives a value when it starts in the given state. -/
def succeeds {ε σ α : Type} (x : EStateM ε σ α) (s : σ) : Bool :=
  match x s with
  | .ok .. => true
  | .error .. => false

theorem succeeds_iff {ε σ α : Type} {x : EStateM ε σ α} {s : σ} :
    succeeds x s = true ↔ ∃ a s', x s = .ok a s' := by
  unfold succeeds
  cases x s <;> simp

theorem succeeds_eq_false_iff {ε σ α : Type} {x : EStateM ε σ α} {s : σ} :
    succeeds x s = false ↔ ∃ e s', x s = .error e s' := by
  unfold succeeds
  cases x s <;> simp

/-- Whenever the computation gives a value, the value has the property. -/
def Yields {ε σ α : Type} (x : EStateM ε σ α) (holds : α → Prop) : Prop :=
  ∀ s a s', x s = .ok a s' → holds a

namespace Yields

variable {ε σ α β : Type} {x : EStateM ε σ α} {f : α → EStateM ε σ β} {holds : α → Prop}
  {holds' : β → Prop}

theorem pure {a : α} (ha : holds a) : Yields (Pure.pure a : EStateM ε σ α) holds := by
  intro s b s' hRun
  obtain ⟨rfl, -⟩ := pure_eq_ok.mp hRun
  exact ha

/-- The second part of a sequence may rely on what is known of the value of the first part. -/
theorem bind (hx : Yields x holds) (hf : ∀ a, holds a → Yields (f a) holds') :
    Yields (x >>= f) holds' := by
  intro s b s'' hRun
  obtain ⟨a, s', hFirst, hSecond⟩ := bind_eq_ok.mp hRun
  exact hf a (hx s a s' hFirst) s' b s'' hSecond

/-- A part whose value does not matter. -/
theorem skip (hf : ∀ a, Yields (f a) holds') : Yields (x >>= f) holds' := by
  have hAny : Yields x fun _ => True := fun _ _ _ _ => trivial
  exact hAny.bind fun a _ => hf a

end Yields

/-! ### Conditional steps -/

/-- What a qualifier of the given kind makes of a descriptor. -/
def Descriptor.qualified (kind : QualifierKind) : Descriptor → Descriptor
  | .scalar s => .scalar { s with isConst := kind == .const }
  | .aggregate a => .aggregate a
  | .function f => .function f

namespace Lower

/-- Runs a computation only under a condition. -/
def onlyIf (c : Prop) [Decidable c] (x : Lower Unit) : Lower Unit := if c then x else pure ()

/-- A qualifier is reported if it is `_Atomic`, logged if it stands behind a record, and applied. -/
theorem qualifier_eq (q : TypeQualifier) (d : Descriptor) :
    qualifier q d = (do
      onlyIf (q.kind = .atomic) (unsupported .atomicQualifier q.grammar q.span)
      onlyIf (d.kind ≠ .scalar) (note (.qualifierIgnored q.kind d.kind))
      return d.qualified q.kind) := by
  unfold qualifier onlyIf
  cases d <;> dsimp only <;> split <;> rfl

theorem declaration_eq (ev : Evaluator) (d : Declaration) :
    declaration ev d = (do
      let spec ← specifiers ev d.specifiers {}
      onlyIf (d.initDeclarators.isEmpty = true)
        (remark "declaration does not declare an identifier" d.span)
      initDeclarators ev spec d.initDeclarators) := by
  unfold declaration onlyIf
  congr 1
  funext spec
  dsimp only
  split <;> rfl

theorem definition_eq (ev : Evaluator) (d : FunctionDefinition) :
    definition ev d = (do
      let spec ← specifiers ev d.specifiers {}
      onlyIf (d.declarations.isEmpty = false)
        (unsupported .oldStyleDeclarations d.grammar d.span)
      let e ← declarator ev d.declarator (.ofType spec.descriptor)
      let e := { e with storage := spec.storage }
      recordSymbol e.name none
      note (.functionDefined e)
      return e) := by
  unfold definition onlyIf
  congr 1
  funext spec
  dsimp only
  cases d.declarations.isEmpty <;> rfl

end Lower

/-! ### Sessions -/

namespace Lowering

/-- The items behind one are lowered where it has led, with its entities added. -/
theorem items_cons_run (ev : Evaluator) (i : ExternalDeclaration) (rest : List ExternalDeclaration)
    (s : Session) :
    items ev (i :: rest) s = match Lower.item ev i s.context with
      | .ok entities c => items ev rest ⟨c, s.declarations ++ entities⟩
      | .error e c => .error e { s with context := c } := by
  rw [items, bind_run, onContext]
  cases Lower.item ev i s.context <;> rfl

theorem items_cons_eq_ok {ev : Evaluator} {i : ExternalDeclaration}
    {rest : List ExternalDeclaration} {s s' : Session} :
    items ev (i :: rest) s = .ok () s' ↔ ∃ entities c, Lower.item ev i s.context = .ok entities c ∧
      items ev rest ⟨c, s.declarations ++ entities⟩ = .ok () s' := by
  rw [items_cons_run]
  cases Lower.item ev i s.context <;> simp [and_assoc]

theorem items_cons_eq_error {ev : Evaluator} {i : ExternalDeclaration}
    {rest : List ExternalDeclaration} {s s' : Session} {e : ShapeMismatch} :
    items ev (i :: rest) s = .error e s' ↔
      (∃ c, Lower.item ev i s.context = .error e c ∧ s' = { s with context := c }) ∨
      ∃ entities c, Lower.item ev i s.context = .ok entities c ∧
        items ev rest ⟨c, s.declarations ++ entities⟩ = .error e s' := by
  rw [items_cons_run]
  cases Lower.item ev i s.context <;> simp [and_assoc, eq_comm]

/-- A unit runs its items, and then logs how many entities they have added. -/
theorem unit_run (ev : Evaluator) (contents : List ExternalDeclaration) (s : Session) :
    unit ev contents s = match items ev contents s with
      | .ok _ s' =>
          let count := s'.declarations.size - s.declarations.size
          .ok count { s' with
            context := { s'.context with
              events := s'.context.events.push (.unitLowered count) } }
      | .error e s' => .error e s' := by
  show (items ev contents >>= fun _ => _) s = _
  rw [bind_run]
  cases items ev contents s <;> rfl

end Lowering

end CDecl
