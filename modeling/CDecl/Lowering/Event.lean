import CDecl.Model.Text
import CDecl.Report.Diagnostic

/-!
# Events

What happens during lowering, as data, and how each happening is told.  Events are only ever added;
nothing depends on those that were.
-/

namespace CDecl

/-- A specifier list asked for a scalar where another descriptor stood; lowering cannot go on. -/
structure ShapeMismatch where
  found : DescriptorKind
  location : Span
deriving DecidableEq, Inhabited

/-- What is said about a mismatch. -/
def ShapeMismatch.message (e : ShapeMismatch) : String :=
  "inconsistent declarator shape at " ++ e.location.text ++ ": expected scalar descriptor, found "
    ++ e.found.name

/-- How much an event matters. -/
inductive Importance where
  | debug
  | info
  | warn
deriving DecidableEq, Inhabited

/-- The name of an importance. -/
def Importance.name : Importance → String
  | .debug => "DEBUG"
  | .info => "INFO"
  | .warn => "WARN"

/-- Something that happened during lowering. -/
inductive Event where
  | storageClass (kind : StorageClass)
  | qualifierIgnored (kind : QualifierKind) (descriptor : DescriptorKind)
  | recordReferenced (a : Aggregate)
  | recordDefined (a : Aggregate)
  | pointersAdded (added total : UInt32)
  | dimensionAdded (d : Dimension)
  | functionWrapped (returns : Entity)
  | nameReached (name : String)
  | symbolRecorded (name : String) (value : Option Value)
  | entityDeclared (e : Entity)
  | functionDefined (e : Entity)
  | unitLowered (count : Nat)
  | unsupportedMet (construct : Unsupported) (code : GrammarCase) (location : Span)
  | remarkMade (message : String) (location : Span)
  | fileLowered (path : String) (count : Nat)
  | fileStopped (path : String) (count : Nat) (error : ShapeMismatch)
deriving Inhabited

namespace Event

/-- How much an event matters. -/
def importance : Event → Importance
  | .unsupportedMet .. => .warn
  | .remarkMade .. | .fileStopped .. => .info
  | _ => .debug

/-- An optional text, told with its quotes. -/
def optionalText : Option String → String
  | none => "None"
  | some s => "Some(" ++ Text.quoteString s ++ ")"

/-- An optional value, told with its kind. -/
def optionalValue : Option Value → String
  | none => "None"
  | some v => "Some(" ++ v.description ++ ")"

/-- How an event is told. -/
def message : Event → String
  | .storageClass kind => "storage class " ++ kind.keyword
  | .qualifierIgnored kind descriptor =>
      "qualifier " ++ kind.name ++ " on " ++ descriptor.name ++ " descriptor ignored"
  | .recordReferenced a => "reference to " ++ a.keyword ++ " " ++ optionalText a.tag
  | .recordDefined a => a.text ++ " with " ++ toString a.members.length ++ " members"
  | .pointersAdded added total => "pointer depth +" ++ toString added ++ " -> " ++ toString total
  | .dimensionAdded d => "array dimension [" ++ d.text ++ "]"
  | .functionWrapped returns => "function returning " ++ returns.typeText
  | .nameReached name => "identifier " ++ name
  | .symbolRecorded name value => "symbol " ++ name ++ " = " ++ optionalValue value
  | .entityDeclared e => "declared " ++ e.text
  | .functionDefined e => "defined " ++ e.text
  | .unitLowered count => "unit lowered into " ++ toString count ++ " declarations"
  | .unsupportedMet construct code location =>
      location.text ++ ": " ++ construct.message ++ " (" ++ code.text ++ ")"
  | .remarkMade message location => location.text ++ ": " ++ message
  | .fileLowered path count => path ++ ": " ++ toString count ++ " declarations"
  | .fileStopped path count error =>
      path ++ ": lowering stopped after " ++ toString count ++ " declarations: " ++ error.message

end Event

end CDecl
