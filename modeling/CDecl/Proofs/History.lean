import CDecl.Proofs.Replay

/-!
# Histories of sessions

A session lowers one unit after the other and goes on after one that could not be lowered to its end.
`Session.run` is the session after any number of such calls.

Every context that comes up in a session is a replay of events on the first one (`Session.run_induction`),
so that a fact about contexts holds throughout if it holds at first and if every single event keeps it.
The first such fact is about the tag table: it shows, for each tag, the last definition that the log has
of it (`Session.find?_tags`).
-/

namespace CDecl

/-! ### Events of whole declarations -/

namespace Lower

variable {α β : Type}

/-- Wherever the computation runs, what it leaves is a replay of events there. -/
def Logs (x : Lower α) : Prop := ∀ c, ∃ events, finalState (x c) = c.replay events

namespace Logs

theorem of_replays {x : Lower α} (hx : Replays x) : Logs x := by
  intro c
  obtain ⟨events, answer, -, hRun⟩ := hx c.symbols
  refine ⟨events, ?_⟩
  rw [hRun c rfl]
  cases answer <;> rfl

theorem pure (a : α) : Logs (Pure.pure a : Lower α) := fun _ => ⟨[], rfl⟩

theorem recordSymbol (name : String) (value : Option Value) : Logs (recordSymbol name value) :=
  fun _ => ⟨[.symbolRecorded name value], rfl⟩

theorem bind {x : Lower α} {f : α → Lower β} (hx : Logs x) (hf : ∀ a, Logs (f a)) :
    Logs (x >>= f) := by
  intro c
  obtain ⟨first, hFirst⟩ := hx c
  rw [bind_run]
  cases hRun : x c with
  | error e c₁ =>
      rw [hRun] at hFirst
      exact ⟨first, hFirst⟩
  | ok a c₁ =>
      rw [hRun] at hFirst
      obtain rfl : c₁ = c.replay first := hFirst
      obtain ⟨second, hSecond⟩ := hf a (c.replay first)
      exact ⟨first ++ second, by rw [Context.replay_append]; exact hSecond⟩

end Logs

/-- The steps of lowering leave replays. -/
theorem Logs.compositional (ev : Evaluator) : Compositional ev (fun _ => True) @Logs where
  pure := .pure
  bind := .bind
  mismatch e := .of_replays (.throw e)
  note _ hPlain := .of_replays (.note hPlain)
  unsupported construct code location := .of_replays (.unsupported construct code location)
  remark message location := .of_replays (.remark message location)
  define a := .of_replays (.define a)
  evaluate e _ := .of_replays (.evaluate ev e)

theorem item_logs (ev : Evaluator) (i : ExternalDeclaration) : Logs (item ev i) :=
  (Logs.compositional ev).item Logs.recordSymbol (.trivial _)

end Lower

/-! ### Sessions -/

namespace Session

/-- A session that has recorded nothing; its report may have a policy and diagnostics already. -/
def fresh (report : Report) : Session := { context := { report } }

/-- The session after a unit, whether the unit can be lowered to its end or not. -/
def after (ev : Evaluator) (s : Session) (contents : List ExternalDeclaration) : Session :=
  finalState (Lowering.unit ev contents s)

/-- The session after several units. -/
def run (ev : Evaluator) (report : Report) (units : List (List ExternalDeclaration)) : Session :=
  units.foldl (after ev) (fresh report)

end Session

/-- The session after an item, whether the item can be lowered or not. -/
def Session.afterItem (ev : Evaluator) (s : Session) (i : ExternalDeclaration) : Session :=
  match Lower.item ev i s.context with
  | .ok entities c => ⟨c, s.declarations ++ entities⟩
  | .error _ c => { s with context := c }

/-- What every item keeps holds after several, also where one of them stops the others. -/
theorem Lowering.items_keep {ev : Evaluator} {holds : Session → Prop} :
    ∀ {contents : List ExternalDeclaration},
      (∀ i ∈ contents, ∀ s, holds s → holds (s.afterItem ev i)) →
      ∀ {s : Session}, holds s → holds (finalState (items ev contents s))
  | [], _, s, hs => hs
  | i :: rest, hItem, s, hs => by
      have hHere := hItem i (.head _) s hs
      rw [items_cons_run]
      unfold Session.afterItem at hHere
      cases hRun : Lower.item ev i s.context with
      | error e c =>
          rw [hRun] at hHere
          exact hHere
      | ok entities c =>
          rw [hRun] at hHere
          exact items_keep (fun j hMem => hItem j (.tail _ hMem)) hHere

namespace Session

variable {ev : Evaluator} {report : Report} {holds : Session → Prop}

/-- A unit keeps what its items and its last event keep. -/
theorem after_keeps {contents : List ExternalDeclaration}
    (hItem : ∀ i ∈ contents, ∀ s, holds s → holds (s.afterItem ev i))
    (hEnd : ∀ count s, holds s → holds { s with context := s.context.after (.unitLowered count) })
    {s : Session} (hs : holds s) : holds (s.after ev contents) := by
  have hItems := Lowering.items_keep hItem hs
  rw [after, Lowering.unit_run]
  cases hRun : Lowering.items ev contents s with
  | error e s' =>
      rw [hRun] at hItems
      exact hItems
  | ok _ s' =>
      rw [hRun] at hItems
      exact hEnd _ s' hItems

/-- What every unit keeps, whether it can be lowered to its end or not, holds throughout. -/
theorem run_units (hFresh : holds (fresh report)) {units : List (List ExternalDeclaration)}
    (hUnit : ∀ contents ∈ units, ∀ s, holds s → holds (s.after ev contents)) :
    holds (run ev report units) := by
  unfold run
  generalize fresh report = s at hFresh ⊢
  induction units generalizing s with
  | nil => exact hFresh
  | cons contents rest ih =>
      have hNext := hUnit contents (.head _) s hFresh
      exact ih (fun unit hMem => hUnit unit (.tail _ hMem)) _ hNext

/-- An item replays events on the context of a session. -/
theorem afterItem_context (ev : Evaluator) (s : Session) (i : ExternalDeclaration) :
    ∃ events, (s.afterItem ev i).context = s.context.replay events := by
  obtain ⟨events, hEvents⟩ := Lower.item_logs ev i s.context
  refine ⟨events, hEvents ▸ ?_⟩
  unfold afterItem
  cases Lower.item ev i s.context <;> rfl

end Session

/-- What holds of a context and is kept by every event holds after any events. -/
theorem Context.replay_induction {holds : Context → Prop}
    (hAfter : ∀ c event, holds c → holds (c.after event)) {c : Context} (hStart : holds c)
    (events : List Event) : holds (c.replay events) := by
  induction events generalizing c with
  | nil => exact hStart
  | cons event rest ih => exact ih (hAfter c event hStart)

/-- What every event keeps holds of the contexts of a session throughout. -/
theorem Session.run_induction {holds : Context → Prop} (hFresh : ∀ report, holds { report })
    (hAfter : ∀ c event, holds c → holds (c.after event)) (ev : Evaluator) (report : Report)
    (units : List (List ExternalDeclaration)) : holds (run ev report units).context := by
  refine @run_units ev report (fun s => holds s.context) (hFresh report) units
    fun contents _ s hs => ?_
  refine @after_keeps ev (fun s => holds s.context) contents (fun i _ s hs => ?_)
    (fun count s hs => hAfter s.context (.unitLowered count) hs) s hs
  obtain ⟨events, hContext⟩ := s.afterItem_context ev i
  rw [hContext]
  exact Context.replay_induction hAfter hs events

/-! ### Definitions in the log -/

/-- The record whose definition an event completes. -/
def Event.definition? : Event → Option Aggregate
  | .recordDefined a => some a
  | _ => none

namespace Context

/-- The records that have been defined, in the order in which their definitions were completed. -/
def definitions (c : Context) : List Aggregate := c.events.toList.filterMap Event.definition?

/-- The definitions of a tag, in the order in which they were completed. -/
def definitionsOf (c : Context) (tag : String) : List Aggregate :=
  c.definitions.filter fun a => a.tag == some tag

theorem definitions_after (c : Context) (event : Event) :
    (c.after event).definitions = c.definitions ++ event.definition?.toList := by
  have hEvents : (c.after event).events = c.events.push event := by
    cases event with
    | recordDefined a =>
        simp only [after]
        split <;> rfl
    | _ => rfl
  rw [definitions, hEvents, Array.toList_push, List.filterMap_append, definitions]
  cases hDefinition : event.definition? <;> simp [hDefinition]

/-- Only definitions enter a tag. -/
theorem tags_after {c : Context} {event : Event} (hNone : event.definition? = none) :
    (c.after event).tags = c.tags := by
  cases event with
  | recordDefined a => simp [Event.definition?] at hNone
  | _ => rfl

/-- The tag table shows the last definition of each tag. -/
def ShowsLast (c : Context) : Prop := ∀ tag, c.tags.find? tag = (c.definitionsOf tag).getLast?

theorem ShowsLast.after_recordDefined {c : Context} (hc : c.ShowsLast) (a : Aggregate) :
    (c.after (.recordDefined a)).ShowsLast := by
  intro tag
  rw [definitionsOf, definitions_after, List.filter_append]
  cases hTag : a.tag with
  | none =>
      have hTags : (c.after (.recordDefined a)).tags = c.tags := by simp only [after, hTag]
      rw [hTags, hc tag]
      simp [Event.definition?, hTag, definitionsOf]
  | some own =>
      have hTags : (c.after (.recordDefined a)).tags = c.tags.insert own a := by
        simp only [after, hTag]
      rw [hTags, Table.find?_insert]
      by_cases hOwn : tag = own
      · simp [Event.definition?, hTag, hOwn]
      · have hOther : ¬own = tag := fun h => hOwn h.symm
        rw [if_neg hOwn, hc tag]
        simp [Event.definition?, hTag, hOther, definitionsOf]

theorem ShowsLast.after {c : Context} (hc : c.ShowsLast) (event : Event) :
    (c.after event).ShowsLast := by
  cases hDefinition : event.definition? with
  | none =>
      intro tag
      rw [tags_after hDefinition, definitionsOf, definitions_after, hDefinition,
        Option.toList_none, List.append_nil]
      exact hc tag
  | some a =>
      have hEvent : event = .recordDefined a := by
        cases event <;> simp_all [Event.definition?]
      exact hEvent ▸ hc.after_recordDefined a

end Context

/-- **The last definition wins.**  Throughout a session the tag table shows, for each tag, the last of
its definitions in the log. -/
theorem Session.find?_tags (ev : Evaluator) (report : Report)
    (units : List (List ExternalDeclaration)) : (run ev report units).context.ShowsLast := by
  refine run_induction (fun report tag => ?_) (fun c event hc => hc.after event) ev report units
  rfl

/-- The records in the tag table have been defined. -/
theorem Context.ShowsLast.mem_definitions {c : Context} (hc : c.ShowsLast) {a : Aggregate}
    (hMem : a ∈ c.tags.values) : a ∈ c.definitions := by
  obtain ⟨⟨tag, _⟩, hEntry, rfl⟩ := List.mem_map.mp hMem
  have hLast := (hc tag).symm.trans (Table.find?_eq_some_iff.mpr hEntry)
  exact List.mem_of_mem_filter (List.mem_of_getLast? hLast)

end CDecl
