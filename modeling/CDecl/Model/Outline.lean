import CDecl.Model.Text
import CDecl.Text.Truncated

/-!
# Outlines

An outline shows entities as a tree of lines: parameters stand below their function and members
below their record.  Before its label, a line has three columns for each of its ancestors, a bar
while more siblings of that ancestor follow, and then a tee, or a corner for the last of its
siblings.

The columns of the ancestors are kept while the lines are written: they are made longer on the way
down to the entities below one, and are cut back behind them.
-/

namespace CDecl

/-- What stands before the label of a line. -/
def branch (isLast : Bool) : String := if isLast then "└─ " else "├─ "

/-- What the lines below a line begin with. -/
def trunk (isLast : Bool) : String := if isLast then "   " else "│  "

/-- Lines as a text; each one is ended. -/
def joinLines (lines : List String) : String := String.join (lines.map (· ++ "\n"))

/-- An outline that is being written: what its next lines begin with, and the text so far. -/
structure Outline where
  indent : String := ""
  text : String := ""

namespace Outline

/-- Adds a line that is not indented. -/
def heading (o : Outline) (content : String) : Outline := { o with text := o.text ++ content ++ "\n" }

/-- Adds a line behind the indent. -/
def line (o : Outline) (content : String) : Outline :=
  { o with text := o.text ++ (o.indent ++ content) ++ "\n" }

/-- Writes with a longer indent, which is cut back by as much afterwards. -/
def deeper (o : Outline) (more : String) (write : Outline → Outline) : Outline :=
  let written := write { o with indent := o.indent ++ more }
  { written with
    indent := Text.truncate written.indent (written.indent.utf8ByteSize - more.utf8ByteSize) }

end Outline

namespace Entity

/-- The label of an entity at top level. -/
def label (e : Entity) : String :=
  if e.isTypedef then "Typedef" else if e.isFunction then "Function" else "Var"

/-- The line of an entity from its label on.  A typedef does not name its storage class again. -/
def headline (label : String) (e : Entity) : String :=
  let name := if e.name.isEmpty then "<unnamed>" else e.name
  let storage := match e.storage with
    | some s => if label = "Typedef" then "" else " " ++ s.keyword
    | none => ""
  let expression := match e.expression with
    | some text => " = " ++ text
    | none => ""
  let value := match e.value with
    | some v => " => " ++ v.text
    | none => ""
  label ++ " '" ++ name ++ "' '" ++ e.typeText ++ "'" ++ storage ++ expression ++ value

end Entity

mutual

/-- Writes the line of an entity and what is below it. -/
def Entity.outline (label : String) (isLast : Bool) : Entity → Outline → Outline
  | e@⟨_, type, _, _, _, _, _, _⟩, o =>
      (o.line (branch isLast ++ e.headline label)).deeper (trunk isLast) type.outlineBelow

/-- Writes the lines below an entity with this descriptor. -/
def Descriptor.outlineBelow : Descriptor → Outline → Outline
  | .scalar _, o => o
  | .aggregate ⟨_, _, members⟩, o => Entity.outlineList "Field" members o
  | .function ⟨_, params, _⟩, o => Entity.outlineList "Param" params o

/-- Writes the lines of siblings with the same label. -/
def Entity.outlineList (label : String) : List Entity → Outline → Outline
  | [], o => o
  | e :: rest, o => Entity.outlineList label rest (e.outline label rest.isEmpty o)

end

/-- Writes the lines of the entities at top level, each with its own label. -/
def outlineTop : List Entity → Outline → Outline
  | [], o => o
  | e :: rest, o => outlineTop rest (e.outline e.label rest.isEmpty o)

/-- Writes the lines of records and of their members. -/
def outlineRecords : List Aggregate → Outline → Outline
  | [], o => o
  | a :: rest, o =>
      let o := o.line (branch rest.isEmpty ++ a.text)
      outlineRecords rest (o.deeper (trunk rest.isEmpty) (Entity.outlineList "Field" a.members))

/-- Writes the declared entities. -/
def outlineDeclarations (entities : List Entity) (o : Outline) : Outline :=
  outlineTop entities (o.heading "Declarations")

/-- The outline of declared entities. -/
def outline (entities : List Entity) : String := (outlineDeclarations entities {}).text

/-- The outline of declared entities, followed by the tagged records if there are any. -/
def outlineWithTags (entities : List Entity) (tags : Table Aggregate) : String :=
  let o := outlineDeclarations entities {}
  if tags.isEmpty then o.text else (outlineRecords tags.values (o.heading "Tags")).text

end CDecl
