import CDecl.CommandLine.Arguments
import CDecl.CommandLine.Files
import CDecl.Json.Writer
import CDecl.Lowering.Session
import CDecl.Syntax.Document

/-!
# Runs

A run reads every input, lowers them in order in one session, lists the diagnostics under the file
they belong to, and writes the result.  Nothing is written unless everything before it went well.
-/

namespace CDecl.CommandLine

/-- Why a run fails. -/
inductive Failure where
  | file (path : String) (error : FileError)
  | badTree (path : String)
  | mismatch (error : ShapeMismatch)
  | issues (count : Nat)
deriving DecidableEq

/-- How a failure is described. -/
def Failure.message : Failure → String
  | .file path error => path ++ ": " ++ error.message
  | .badTree path => path ++ ": invalid parse tree"
  | .mismatch error => error.message
  | .issues count => toString count ++ " unsupported construct(s) reported"

/-- What a run leaves behind, the written file apart. -/
structure Outcome where
  result : Except Failure Unit
  stdout : String := ""
  stderr : List String := []
  events : List Event := []

/-- The tree in the content of a file. -/
def parseInput (path : String) (content : ByteArray) : Except Failure TranslationUnit :=
  match String.fromUTF8? content with
  | none => .error (.file path .invalidText)
  | some text =>
      match Shape.ofDocument? .translationUnit text with
      | some u => .ok u
      | none => .error (.badTree path)

section Loading

variable {m : Type → Type} [Monad m]

/-- Reads the tree in a file. -/
def loadInput (files : FileAccess m) (path : String) : m (Except Failure TranslationUnit) := do
  match ← files.read path with
  | .ok content => return parseInput path content
  | .error error => return .error (.file path error)

/-- Reads the trees in several files, up to the first that cannot be read. -/
def loadInputs (files : FileAccess m) :
    List String → m (Except Failure (List (String × TranslationUnit)))
  | [] => return .ok []
  | path :: rest => do
      match ← loadInput files path with
      | .error failure => return .error failure
      | .ok u =>
          match ← loadInputs files rest with
          | .error failure => return .error failure
          | .ok inputs => return .ok ((path, u) :: inputs)

end Loading

/-! ### Lowering the inputs -/

/-- Notes the file in which a computation stops, if it does. -/
def namingFile {α : Type} (path : String) (x : Lowering α) : Lowering α := fun s =>
  match x s with
  | .ok a s => .ok a s
  | .error e s =>
      let stopped := Event.fileStopped path s.declarations.size e
      .error e { s with context.events := s.context.events.push stopped }

/-- Lowers the units of one file. -/
def lowerFile (ev : Evaluator) (path : String) : List (List ExternalDeclaration) → Lowering Unit
  | [] => pure ()
  | contents :: rest => do
      let count ← namingFile path (Lowering.unit ev contents)
      Lowering.onContext (Lower.note (.fileLowered path count))
      lowerFile ev path rest

/-- Lowers files one after the other.  For each it gives the number of diagnostics collected when it
was done. -/
def lowerFiles (ev : Evaluator) : List (String × TranslationUnit) → Lowering (List Nat)
  | [] => pure []
  | (path, u) :: rest => do
      lowerFile ev path u.units
      let done := (← get).context.report.diagnostics.size
      return done :: (← lowerFiles ev rest)

/-- What the inputs of a run are lowered to.  `ends` holds, for each input, the number of diagnostics
collected when it was done. -/
structure Lowered where
  output : Output
  ends : List Nat

/-- Lowers the trees of files in one session.  The events come with it, also when a tree cannot be
lowered. -/
def lowerTrees (options : List String) (inputs : List (String × TranslationUnit)) :
    Except Failure Lowered × List Event :=
  match lowerFiles .constant inputs (.start (.ofOptions options)) with
  | .error e s => (.error (.mismatch e), s.context.events.toList)
  | .ok ends s => (.ok ⟨s.output, ends⟩, s.context.events.toList)

/-- Reads and lowers the inputs of a run. -/
def lowerInputs {m : Type → Type} [Monad m] (files : FileAccess m) (c : Config) :
    m (Except Failure Lowered × List Event) := do
  match ← loadInputs files c.inputs with
  | .error failure => return (.error failure, [])
  | .ok inputs => return lowerTrees c.warnings inputs

/-! ### Output -/

/-- Cuts a list into sections, the first from `start` on, that end at the given places. -/
def sections {α : Type} (items : List α) (start : Nat) : List Nat → List (List α)
  | [] => []
  | stop :: rest => (items.take stop).drop start :: sections items stop rest

/-- The lines of the diagnostics of each file; notes are listed by a verbose run only. -/
def reportLines (c : Config) (diagnostics : List Diagnostic) (ends : List Nat) : List String :=
  let style : DiagnosticStyle := { notes := c.verbose }
  ((c.inputs.zip (sections diagnostics 0 ends)).map fun (path, part) =>
    style.lines (some path) part).flatten

/-- The text that a run writes. -/
def Emit.render (emit : Emit) (output : Output) : String :=
  match emit with
  | .tree => output.outline
  | .json => output.encode.pretty ++ "\n"

/-! ### The whole run -/

/-- Runs the program. -/
def run {m : Type → Type} [Monad m] (files : FileAccess m) (c : Config) : m Outcome := do
  let (lowered, events) ← lowerInputs files c
  match lowered with
  | .error failure => return { result := .error failure, events }
  | .ok ⟨output, ends⟩ =>
      let stderr := reportLines c output.diagnostics ends
      let issues := output.issues.length
      if c.isStrict && issues > 0 then
        return { result := .error (.issues issues), stderr, events }
      else
        let text := c.emit.render output
        match c.output with
        | none => return { result := .ok (), stdout := text, stderr, events }
        | some path =>
            match ← files.write path text with
            | .ok _ => return { result := .ok (), stderr, events }
            | .error error => return { result := .error (.file path error), stderr, events }

end CDecl.CommandLine
