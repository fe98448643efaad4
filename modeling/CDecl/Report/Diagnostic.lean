import CDecl.Syntax.Encode

/-!
# Diagnostics

A diagnostic tells of something that lowering leaves out.  Constructs that are recognised but have
no place in the model are warnings or errors and name their grammar case; remarks are notes and
name none.
-/

namespace CDecl

/-- How serious a diagnostic is. -/
inductive Level where
  | error
  | warning
  | note
deriving DecidableEq, Inhabited

/-- The name of a level in reports. -/
def Level.name : Level → String
  | .error => "error"
  | .warning => "warning"
  | .note => "note"

/-- Constructs that are recognised but not modelled. -/
inductive Unsupported where
  | bitField
  | enumeration
  | oldStyleParameters
  | abstractDeclarator
  | functionSpecifier
  | staticArrayQualifier
  | variableLengthArray
  | atomicQualifier
  | initializerList
  | oldStyleDeclarations
deriving DecidableEq, Inhabited

/-- What is said about a construct, and what becomes of it. -/
def Unsupported.message : Unsupported → String
  | .bitField => "bit-field members are not supported; member skipped"
  | .enumeration => "enumeration specifiers are not supported; base type left unset"
  | .oldStyleParameters => "old-style identifier lists are not supported; parameters skipped"
  | .abstractDeclarator => "abstract declarators are not supported; parameter skipped"
  | .functionSpecifier => "function specifiers are not supported; specifier ignored"
  | .staticArrayQualifier => "`static` in array bounds is not supported; qualifier ignored"
  | .variableLengthArray =>
      "variable length array markers are not supported; dimension left unsized"
  | .atomicQualifier => "`_Atomic` qualifiers are not supported; qualifier ignored"
  | .initializerList => "brace initializers are not supported; value left unset"
  | .oldStyleDeclarations =>
      "old-style parameter declarations are not supported; declarations ignored"

/-- One thing that was left out. -/
structure Diagnostic where
  level : Level
  message : String
  location : Span
  code : Option GrammarCase
deriving DecidableEq, Inhabited

/-- A level by its name. -/
def Level.encode : Level → Json
  | .error => .str "Error"
  | .warning => .str "Warning"
  | .note => .str "Note"

/-- A diagnostic as a document. -/
def Diagnostic.encode (d : Diagnostic) : Json :=
  .obj [("level", d.level.encode), ("message", .str d.message), ("location", d.location.encode),
    ("code", .ofOption GrammarCase.encode d.code)]

/-! ### Collecting -/

/-- What the warning options ask for: warnings that count as errors, or no warnings at all. -/
structure WarningPolicy where
  asErrors : Bool := false
  silenced : Bool := false
deriving DecidableEq, Inhabited

/-- The policy of a list of warning options; options with other names have no effect. -/
def WarningPolicy.ofOptions (options : List String) : WarningPolicy where
  asErrors := options.contains "error"
  silenced := options.contains "no-warnings"

/-- The level at which unsupported constructs are collected, if they are.  Counting them as errors
outweighs silencing them. -/
def WarningPolicy.level? (p : WarningPolicy) : Option Level :=
  if p.asErrors then some .error else if p.silenced then none else some .warning

/-- The diagnostics collected so far under a policy. -/
structure Report where
  policy : WarningPolicy := {}
  diagnostics : Array Diagnostic := #[]
deriving Inhabited

namespace Report

/-- Collects an unsupported construct as the policy asks. -/
def addUnsupported (r : Report) (construct : Unsupported) (code : GrammarCase) (location : Span) :
    Report :=
  match r.policy.level? with
  | none => r
  | some level =>
      { r with diagnostics := r.diagnostics.push ⟨level, construct.message, location, some code⟩ }

/-- Collects a remark, whatever the policy. -/
def addNote (r : Report) (message : String) (location : Span) : Report :=
  { r with diagnostics := r.diagnostics.push ⟨.note, message, location, none⟩ }

end Report

/-! ### Writing -/

/-- What the written form of diagnostics includes. -/
structure DiagnosticStyle where
  notes : Bool := true
  codes : Bool := true

namespace DiagnosticStyle

/-- Where a diagnostic belongs: the path if one is given, and the place if there is one. -/
def heading (path : Option String) (location : Span) : String :=
  match path with
  | some path => if location.isEmpty then path ++ ": " else path ++ ":" ++ location.range ++ ": "
  | none => if location.isEmpty then "" else location.text ++ ": "

/-- The line of one diagnostic. -/
def line (style : DiagnosticStyle) (path : Option String) (d : Diagnostic) : String :=
  let code := match d.code with
    | some code => if style.codes then " [" ++ code.text ++ "]" else ""
    | none => ""
  heading path d.location ++ d.level.name ++ ": " ++ d.message ++ code

/-- Whether a diagnostic is written at all. -/
def shows (style : DiagnosticStyle) (d : Diagnostic) : Bool := style.notes || d.level != .note

/-- The lines of those diagnostics that are written. -/
def lines (style : DiagnosticStyle) (path : Option String) (diagnostics : List Diagnostic) :
    List String :=
  (diagnostics.filter style.shows).map (style.line path)

end DiagnosticStyle

end CDecl
