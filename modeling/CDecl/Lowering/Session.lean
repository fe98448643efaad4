import CDecl.Lowering.Declarator
import CDecl.Model.Encode
import CDecl.Model.Outline

/-!
# Lowering sessions

A session lowers translation units one after the other.  It keeps what it has recorded when a unit
cannot be lowered to its end, and may go on with another unit.

Names are recorded one by one while a declaration is lowered, so that later declarators of the same
declaration can use the constants of earlier ones; its entities are added when it is complete.
-/

namespace CDecl

namespace Lower

/-- Applies an initializer: its value if it is constant, and its text.  A brace list is reported. -/
def initializer (ev : Evaluator) (init : Option Initializer) (e : Entity) : Lower Entity := do
  match init with
  | none => return e
  | some (.expr x) =>
      let value ← evaluate ev x
      return { e with value, expression := some (ev.render x) }
  | some (.list items trailingComma span) =>
      unsupported .initializerList (Initializer.list items trailingComma span).grammar span
      return e

/-- The entity that a declarator with its initializer declares. -/
def initDeclarator (ev : Evaluator) (spec : Specified) (d : InitDeclarator) : Lower Entity := do
  let e ← declarator ev d.declarator (.ofType spec.descriptor)
  let e ← initializer ev d.initializer { e with storage := spec.storage }
  -- Recorded before the next declarator is read, so that `n = 4, a[n]` finds `n`.
  recordSymbol e.name e.value
  note (.entityDeclared e)
  return e

/-- The entities of the declarators of one declaration. -/
def initDeclarators (ev : Evaluator) (spec : Specified) : List InitDeclarator → Lower (List Entity)
  | [] => pure []
  | d :: rest => do
      let e ← initDeclarator ev spec d
      return e :: (← initDeclarators ev spec rest)

/-- The entities of a declaration; one without declarators gets a remark. -/
def declaration (ev : Evaluator) (d : Declaration) : Lower (List Entity) := do
  let spec ← specifiers ev d.specifiers {}
  if d.initDeclarators.isEmpty then
    remark "declaration does not declare an identifier" d.span
  initDeclarators ev spec d.initDeclarators

/-- The entity of a function definition; it has no value. -/
def definition (ev : Evaluator) (d : FunctionDefinition) : Lower Entity := do
  let spec ← specifiers ev d.specifiers {}
  if !d.declarations.isEmpty then
    unsupported .oldStyleDeclarations d.grammar d.span
  let e ← declarator ev d.declarator (.ofType spec.descriptor)
  let e := { e with storage := spec.storage }
  recordSymbol e.name none
  note (.functionDefined e)
  return e

/-- The entities of an item. -/
def item (ev : Evaluator) : ExternalDeclaration → Lower (List Entity)
  | .declaration d => declaration ev d
  | .definition d => do return [← definition ev d]

end Lower

/-- What a session has recorded, and the entities declared at top level. -/
structure Session where
  context : Context := {}
  declarations : Array Entity := #[]
deriving Inhabited

/-- What lowering produces. -/
structure Output where
  declarations : List Entity
  symbols : SymbolTable
  tags : Table Aggregate
  diagnostics : List Diagnostic
deriving Inhabited

/-- A computation on a session that may meet a mismatch. -/
abbrev Lowering := EStateM ShapeMismatch Session

namespace Lowering

/-- Runs a computation on the context of a session. -/
def onContext {α : Type} (x : Lower α) : Lowering α := fun s =>
  match x s.context with
  | .ok a c => .ok a { s with context := c }
  | .error e c => .error e { s with context := c }

/-- Lowers the items of a unit, adding the entities of each as soon as it is complete. -/
def items (ev : Evaluator) : List ExternalDeclaration → Lowering Unit
  | [] => pure ()
  | i :: rest => do
      let entities ← onContext (Lower.item ev i)
      modify fun s => { s with declarations := s.declarations ++ entities }
      items ev rest

/-- Lowers one unit and gives the number of entities that it added. -/
def unit (ev : Evaluator) (contents : List ExternalDeclaration) : Lowering Nat := do
  let before := (← get).declarations.size
  items ev contents
  let count := (← get).declarations.size - before
  onContext (Lower.note (.unitLowered count))
  return count

/-- Lowers units one after the other. -/
def units (ev : Evaluator) : List (List ExternalDeclaration) → Lowering Unit
  | [] => pure ()
  | contents :: rest => do
      let _ ← unit ev contents
      units ev rest

end Lowering

namespace Session

/-- A session that has seen nothing yet. -/
def start (policy : WarningPolicy) : Session := { context := { report := { policy } } }

/-- The output of a session as it stands. -/
def output (s : Session) : Output where
  declarations := s.declarations.toList
  symbols := s.context.symbols
  tags := s.context.tags
  diagnostics := s.context.report.diagnostics.toList

end Session

/-- Lowers a unit and every unit chained after it, in a session of its own. -/
def TranslationUnit.lower (ev : Evaluator) (policy : WarningPolicy) (u : TranslationUnit) :
    EStateM.Result ShapeMismatch Session Unit :=
  Lowering.units ev u.units (.start policy)

/-- The output for a unit and every unit chained after it, or the mismatch that stopped lowering. -/
def TranslationUnit.output? (ev : Evaluator) (policy : WarningPolicy) (u : TranslationUnit) :
    Except ShapeMismatch Output :=
  match u.lower ev policy with
  | .ok _ s => .ok s.output
  | .error e _ => .error e

namespace Output

/-- The diagnostics that are more than notes. -/
def issues (o : Output) : List Diagnostic := o.diagnostics.filter (·.level != .note)

/-- Whether a diagnostic is an error. -/
def hasErrors (o : Output) : Bool := o.diagnostics.any (·.level == .error)

/-- The output if it has no issues, and otherwise their number. -/
def strict (o : Output) : Except Nat Output :=
  if o.issues.isEmpty then .ok o else .error o.issues.length

/-- The output as a document; symbols and tags are objects in their order. -/
def encode (o : Output) : Json :=
  .obj [("declarations", .ofList Entity.encode o.declarations),
    ("symbols", .obj (o.symbols.entries.map fun (name, value) =>
      (name, .ofOption Value.encode value))),
    ("tags", .obj (o.tags.entries.map fun (tag, a) => (tag, a.encode))),
    ("diagnostics", .ofList Diagnostic.encode o.diagnostics)]

/-- The outline of an output. -/
def outline (o : Output) : String := outlineWithTags o.declarations o.tags

end Output

end CDecl
