import CDecl.Constant.Eval
import CDecl.Constant.Render
import CDecl.Lowering.Event

/-!
# The context of lowering

Lowering reads constants from the symbols recorded so far, records symbols and tagged records, and
collects diagnostics.  `Lower` is a computation with this context; after a mismatch the context is
kept as it stood.
-/

namespace CDecl

/-- How expressions are evaluated and written.  Lowering uses nothing else of an expression. -/
structure Evaluator where
  evaluate : Expr → SymbolTable → Option Value
  render : Expr → String := Expr.render

/-- The evaluator of constant expressions. -/
def Evaluator.constant : Evaluator where
  evaluate e symbols := e.eval symbols

/-- What lowering has recorded. -/
structure Context where
  symbols : SymbolTable := .empty
  tags : Table Aggregate := .empty
  report : Report := {}
  events : Array Event := #[]
deriving Inhabited

/-- A computation that records in a context and may meet a mismatch. -/
abbrev Lower := EStateM ShapeMismatch Context

namespace Lower

/-- Adds an event. -/
def note (e : Event) : Lower Unit :=
  modify fun c => { c with events := c.events.push e }

/-- Reports a construct that is not modelled. -/
def unsupported (construct : Unsupported) (code : GrammarCase) (location : Span) : Lower Unit := do
  note (.unsupportedMet construct code location)
  modify fun c => { c with report := c.report.addUnsupported construct code location }

/-- Reports a remark. -/
def remark (message : String) (location : Span) : Lower Unit := do
  note (.remarkMade message location)
  modify fun c => { c with report := c.report.addNote message location }

/-- Records a name with its value. -/
def recordSymbol (name : String) (value : Option Value) : Lower Unit := do
  note (.symbolRecorded name value)
  modify fun c => { c with symbols := c.symbols.insert name value }

/-- Records a record under its tag, if it has one. -/
def recordTag (a : Aggregate) : Lower Unit :=
  match a.tag with
  | some tag => modify fun c => { c with tags := c.tags.insert tag a }
  | none => pure ()

/-- Evaluates an expression with the symbols recorded so far. -/
def evaluate (ev : Evaluator) (e : Expr) : Lower (Option Value) := do
  return ev.evaluate e (← get).symbols

end Lower

end CDecl
