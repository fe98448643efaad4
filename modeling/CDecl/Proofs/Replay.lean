import CDecl.Proofs.Compositional

/-!
# Lowering replays its events

The event log is more than a log: every change of a context is the trace of an event.  This file
says what each event leaves behind, and proves that a computation of specifiers, records, parameters
and declarators does nothing else.  Which events it adds, and whether it gives a value or a mismatch,
is settled by its syntax, the evaluator and the recorded symbols.  Tags, diagnostics and earlier
events have no influence, and no symbol is recorded on the way.

`Replays` is the statement.  The single steps have it and sequencing keeps it, so all of lowering has it
but for the steps that record symbols (`Replays.compositional`).
-/

namespace CDecl

namespace Event

/-- Whether an event records a symbol. -/
def recordsSymbol : Event → Bool
  | .symbolRecorded .. => true
  | _ => false

end Event

namespace Context

/-- The context after an event: its trace, and what it records. -/
def after (c : Context) (event : Event) : Context :=
  let logged := { c with events := c.events.push event }
  match event with
  | .symbolRecorded name value => { logged with symbols := c.symbols.insert name value }
  | .recordDefined a =>
      match a.tag with
      | some tag => { logged with tags := c.tags.insert tag a }
      | none => logged
  | .unsupportedMet construct code location =>
      { logged with report := c.report.addUnsupported construct code location }
  | .remarkMade message location => { logged with report := c.report.addNote message location }
  | _ => logged

/-- The context after several events. -/
def replay (c : Context) (events : List Event) : Context := events.foldl after c

theorem replay_append (c : Context) (first second : List Event) :
    c.replay (first ++ second) = (c.replay first).replay second :=
  List.foldl_append

/-- Only the recording of a symbol changes the symbols. -/
theorem symbols_after {c : Context} {event : Event} (hEvent : event.recordsSymbol = false) :
    (c.after event).symbols = c.symbols := by
  cases event with
  | symbolRecorded name value => simp [Event.recordsSymbol] at hEvent
  | recordDefined a =>
      simp only [after]
      split <;> rfl
  | _ => rfl

theorem symbols_replay {events : List Event} (hEvents : ∀ e ∈ events, e.recordsSymbol = false)
    (c : Context) : (c.replay events).symbols = c.symbols := by
  induction events generalizing c with
  | nil => rfl
  | cons event rest ih =>
      have hRest : ∀ e ∈ rest, e.recordsSymbol = false := fun e he => hEvents e (.tail _ he)
      calc (c.replay (event :: rest)).symbols
          = ((c.after event).replay rest).symbols := rfl
        _ = (c.after event).symbols := ih hRest (c.after event)
        _ = c.symbols := symbols_after (hEvents event (.head _))

end Context

namespace Lower

variable {α β : Type}

/-- The computation that adds the given events and gives the given answer. -/
def play (events : List Event) (answer : Except ShapeMismatch α) : Lower α := fun c =>
  match answer with
  | .ok a => .ok a (c.replay events)
  | .error e => .error e (c.replay events)

theorem finalState_play (events : List Event) (answer : Except ShapeMismatch α) (c : Context) :
    finalState (play events answer c) = c.replay events := by
  cases answer <;> rfl

theorem answerOf_play (events : List Event) (answer : Except ShapeMismatch α) (c : Context) :
    answerOf (play events answer c) = answer := by
  cases answer <;> rfl

/-- Where the same symbols are recorded, the computation adds the same events and gives the same
answer.  None of the events records a symbol. -/
def Replays (x : Lower α) : Prop :=
  ∀ symbols : SymbolTable, ∃ (events : List Event) (answer : Except ShapeMismatch α),
    (∀ e ∈ events, e.recordsSymbol = false) ∧
      ∀ c : Context, c.symbols = symbols → x c = play events answer c

/-- The two steps that record a definition are the trace of one event. -/
theorem define_run (a : Aggregate) (c : Context) :
    (do note (.recordDefined a); recordTag a; return a : Lower Aggregate) c =
      .ok a (c.after (.recordDefined a)) := by
  show (note (.recordDefined a) >>= fun _ => recordTag a >>= fun _ => Pure.pure a) c = _
  cases hTag : a.tag with
  | none => simp only [recordTag, Context.after, hTag]; rfl
  | some tag => simp only [recordTag, Context.after, hTag]; rfl

/-- A plain event leaves nothing but itself. -/
theorem note_run {event : Event} (hPlain : event.isPlain = true) (c : Context) :
    note event c = .ok () (c.after event) := by
  cases event <;> first | rfl | cases hPlain

namespace Replays

theorem pure (a : α) : Replays (Pure.pure a : Lower α) :=
  fun _ => ⟨[], .ok a, by simp, fun _ _ => rfl⟩

theorem throw (e : ShapeMismatch) : Replays (throw e : Lower α) :=
  fun _ => ⟨[], .error e, by simp, fun _ _ => rfl⟩

/-- A sequence adds the events of its first part, and then those of its second part unless the first
one meets a mismatch. -/
theorem bind {x : Lower α} {f : α → Lower β} (hx : Replays x) (hf : ∀ a, Replays (f a)) :
    Replays (x >>= f) := by
  intro symbols
  obtain ⟨first, answer, hFirst, hRun⟩ := hx symbols
  cases answer with
  | error e =>
      refine ⟨first, .error e, hFirst, fun c hc => ?_⟩
      rw [bind_run, hRun c hc]
      rfl
  | ok a =>
      -- No event of the first part records a symbol, so the second part starts with the same ones.
      obtain ⟨second, answer, hSecond, hRun'⟩ := hf a symbols
      refine ⟨first ++ second, answer, ?_, fun c hc => ?_⟩
      · intro e he
        rcases List.mem_append.mp he with heFirst | heSecond
        · exact hFirst e heFirst
        · exact hSecond e heSecond
      · have hKept : (c.replay first).symbols = symbols :=
          (Context.symbols_replay hFirst c).trans hc
        rw [bind_run, hRun c hc]
        show f a (c.replay first) = play (first ++ second) answer c
        rw [hRun' _ hKept]
        simp only [play, Context.replay_append]

/-- Symbols are the same after a value. -/
theorem symbols_eq {x : Lower α} (hx : Replays x) {c c' : Context} {a : α} (hRun : x c = .ok a c') :
    c'.symbols = c.symbols := by
  obtain ⟨events, answer, hEvents, hPlay⟩ := hx c.symbols
  rw [hPlay c rfl] at hRun
  cases answer with
  | error e => simp [play] at hRun
  | ok b =>
      simp only [play, EStateM.Result.ok.injEq] at hRun
      obtain ⟨-, rfl⟩ := hRun
      exact Context.symbols_replay hEvents c

/-- Symbols are the same after a mismatch. -/
theorem symbols_eq_of_error {x : Lower α} (hx : Replays x) {c c' : Context} {e : ShapeMismatch}
    (hRun : x c = .error e c') : c'.symbols = c.symbols := by
  obtain ⟨events, answer, hEvents, hPlay⟩ := hx c.symbols
  rw [hPlay c rfl] at hRun
  cases answer with
  | ok a => simp [play] at hRun
  | error e' =>
      simp only [play, EStateM.Result.error.injEq] at hRun
      obtain ⟨-, rfl⟩ := hRun
      exact Context.symbols_replay hEvents c

/-- Where the same symbols are recorded, the value is the same. -/
theorem eq_ok_of_symbols {x : Lower α} (hx : Replays x) {c c' d : Context} {a : α}
    (hRun : x c = .ok a c') (hSymbols : d.symbols = c.symbols) : ∃ d', x d = .ok a d' := by
  obtain ⟨events, answer, hEvents, hPlay⟩ := hx c.symbols
  rw [hPlay c rfl] at hRun
  cases answer with
  | error e => simp [play] at hRun
  | ok b =>
      simp only [play, EStateM.Result.ok.injEq] at hRun
      obtain ⟨rfl, -⟩ := hRun
      exact ⟨d.replay events, hPlay d hSymbols⟩

/-! ### The steps that lowering is made of -/

/-- An event that records nothing but itself. -/
theorem note {event : Event} (hPlain : event.isPlain = true) : Replays (note event) := by
  intro _
  refine ⟨[event], .ok (), ?_, fun c _ => note_run hPlain c⟩
  rw [List.forall_mem_singleton]
  cases event <;> first | rfl | cases hPlain

theorem unsupported (construct : Unsupported) (code : GrammarCase) (location : Span) :
    Replays (unsupported construct code location) :=
  fun _ => ⟨[.unsupportedMet construct code location], .ok (), by simp [Event.recordsSymbol],
    fun _ _ => rfl⟩

theorem remark (message : String) (location : Span) : Replays (remark message location) :=
  fun _ => ⟨[.remarkMade message location], .ok (), by simp [Event.recordsSymbol],
    fun _ _ => rfl⟩

theorem define (a : Aggregate) :
    Replays (do Lower.note (.recordDefined a); recordTag a; return a) :=
  fun _ => ⟨[.recordDefined a], .ok a, by simp [Event.recordsSymbol], fun c _ => define_run a c⟩

theorem evaluate (ev : Evaluator) (e : Expr) : Replays (evaluate ev e) :=
  fun symbols => ⟨[], .ok (ev.evaluate e symbols), by simp, fun c hc => by
    show EStateM.Result.ok (ev.evaluate e c.symbols) c = .ok (ev.evaluate e symbols) c
    rw [hc]⟩

/-- Whatever the expressions are, lowering replays. -/
theorem compositional (ev : Evaluator) : Compositional ev (fun _ => True) @Replays where
  pure := pure
  bind := bind
  mismatch := throw
  note _ := note
  unsupported := unsupported
  remark := remark
  define := define
  evaluate e _ := evaluate ev e

theorem onlyIf {c : Prop} [Decidable c] {x : Lower Unit} (hx : Replays x) :
    Replays (onlyIf c x) :=
  (compositional .constant).onlyIf hx

end Replays

theorem specifiers_replays (ev : Evaluator) (specs : List DeclarationSpecifier) (built : Specified) :
    Replays (specifiers ev specs built) :=
  (Replays.compositional ev).specifiers specs [] built (.trivial _)

theorem declarator_replays (ev : Evaluator) (d : Declarator) (e : Entity) :
    Replays (declarator ev d e) :=
  (Replays.compositional ev).declarator d e (.trivial _)

theorem initializer_replays (ev : Evaluator) (init : Option Initializer) (e : Entity) :
    Replays (initializer ev init e) :=
  (Replays.compositional ev).initializer (.trivial _) e

end Lower

end CDecl
