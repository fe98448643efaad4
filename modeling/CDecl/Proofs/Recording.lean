import CDecl.Proofs.Replay
import CDecl.Proofs.Sites

/-!
# What a log records

The tables of a context are read off the events that have been added to it: each of them is the table
that was there with what the events record entered in their order (`Context.replay_eq`).

`Session.Gains` says the same of a session, whose declarations grow besides.
-/

namespace CDecl

namespace Event

/-- The name and the value that an event records. -/
@[simp] def symbol? : Event → Option (String × Option Value)
  | .symbolRecorded name value => some (name, value)
  | _ => none

/-- The tag and the record that an event enters into the tag table. -/
@[simp] def tagged? : Event → Option (String × Aggregate)
  | .recordDefined a => a.tag.map fun tag => (tag, a)
  | _ => none

/-- What an event reports. -/
@[simp] def finding? : Event → Option Finding
  | .unsupportedMet construct code location => some (.unsupported construct code location)
  | .remarkMade message location => some (.remark message location)
  | _ => none

/-- The diagnostic of an event under a policy. -/
def diagnostic? (policy : WarningPolicy) (event : Event) : Option Diagnostic :=
  event.finding?.bind (Finding.diagnostic? policy)

end Event

namespace Context

/-- An event leaves itself in the log, and what it records in the tables. -/
theorem after_eq (c : Context) (event : Event) : c.after event =
    { symbols := c.symbols.insertAll event.symbol?.toList
      tags := c.tags.insertAll event.tagged?.toList
      report := { c.report with diagnostics :=
        c.report.diagnostics ++ (event.diagnostic? c.report.policy).toList }
      events := c.events.push event } := by
  cases event with
  | recordDefined a => cases hTag : a.tag <;> simp [after, Event.diagnostic?, hTag]
  | unsupportedMet construct code location =>
      cases hLevel : c.report.policy.level? <;>
        simp [after, Event.diagnostic?, Report.addUnsupported, Finding.diagnostic?, hLevel]
  | remarkMade message location =>
      simp [after, Event.diagnostic?, Report.addNote, Finding.diagnostic?]
  | _ => simp [after, Event.diagnostic?]

/-- **What events leave.**  Each table is the one before with what the events record entered in their
order, and the log and the diagnostics go on where they ended. -/
theorem replay_eq (c : Context) (events : List Event) : c.replay events =
    { symbols := c.symbols.insertAll (events.filterMap Event.symbol?)
      tags := c.tags.insertAll (events.filterMap Event.tagged?)
      report := { c.report with diagnostics :=
        c.report.diagnostics ++ events.filterMap (Event.diagnostic? c.report.policy) }
      events := c.events ++ events } := by
  induction events generalizing c with
  | nil => simp [replay]
  | cons event rest ih =>
      show (c.after event).replay rest = _
      rw [ih, after_eq]
      simp only [List.filterMap_cons]
      congr 1
      · cases event.symbol? <;> rfl
      · cases event.tagged? <;> rfl
      · cases event.diagnostic? c.report.policy <;> simp

end Context

/-! ### Sessions -/

/-- What a session may gain: entities, diagnostics, and events with what they record. -/
structure Gain where
  entities : List Entity
  diagnostics : List Diagnostic
  events : List Event

namespace Gain

/-- The names that are recorded, with their values, in order. -/
def symbols (g : Gain) : List (String × Option Value) := g.events.filterMap Event.symbol?

/-- The tags that are entered, with their records, in order. -/
def tags (g : Gain) : List (String × Aggregate) := g.events.filterMap Event.tagged?

end Gain

/-- The second session is the first one with a gain. -/
structure Session.Gains (s : Session) (g : Gain) (s' : Session) : Prop where
  declarations : s'.declarations.toList = s.declarations.toList ++ g.entities
  diagnostics : s'.context.report.diagnostics.toList =
    s.context.report.diagnostics.toList ++ g.diagnostics
  symbols : s'.context.symbols = s.context.symbols.insertAll g.symbols
  tags : s'.context.tags = s.context.tags.insertAll g.tags
  events : s'.context.events.toList = s.context.events.toList ++ g.events

/-- The session with more events and entities. -/
def Session.extend (s : Session) (events : List Event) (entities : List Entity) : Session :=
  ⟨s.context.replay events, s.declarations ++ entities⟩

namespace Session

theorem extend_extend (s : Session) (events events' : List Event) (entities entities' : List Entity) :
    (s.extend events entities).extend events' entities' =
      s.extend (events ++ events') (entities ++ entities') := by
  simp only [extend, Context.replay_append, mk.injEq, true_and]
  exact Array.ext' (by simp)

theorem gains_extend (s : Session) (events : List Event) (entities : List Entity) :
    s.Gains ⟨entities, events.filterMap (Event.diagnostic? s.context.report.policy), events⟩
      (s.extend events entities) := by
  constructor <;> simp [extend, Context.replay_eq, Gain.symbols, Gain.tags]

end Session

end CDecl
