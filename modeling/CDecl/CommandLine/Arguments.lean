/-!
# Command-line arguments

Arguments are read from left to right.  An option takes its value from the rest of its argument or
from the next one, and its value is only looked at when the next option is met or the arguments
end.  After `--` every argument is an input file.
-/

namespace CDecl.CommandLine

/-- How the output is laid out. -/
inductive Emit where
  | tree
  | json
deriving DecidableEq, Inhabited

/-- A run of the program. -/
structure Config where
  inputs : List String
  output : Option String := none
  emit : Emit := .tree
  verbose : Bool := false
  warnings : List String := []
deriving DecidableEq, Inhabited

/-- Whether unsupported constructs make the run fail. -/
def Config.isStrict (c : Config) : Bool := c.warnings.contains "error"

/-- Why arguments do not make a run. -/
inductive UsageError where
  | missingRequiredArgument
  | unknownArgument
  | invalidValue
  | tooManyValues
  | argumentConflict
  | displayHelp
deriving DecidableEq, Inhabited

/-- The name of a usage error. -/
def UsageError.name : UsageError → String
  | .missingRequiredArgument => "MissingRequiredArgument"
  | .unknownArgument => "UnknownArgument"
  | .invalidValue => "InvalidValue"
  | .tooManyValues => "TooManyValues"
  | .argumentConflict => "ArgumentConflict"
  | .displayHelp => "DisplayHelp"

/-- The options. -/
inductive Flag where
  | output
  | emit
  | verbose
  | warning
  | help
deriving DecidableEq, Inhabited

namespace Flag

/-- Whether an option takes a value. -/
def takesValue : Flag → Bool
  | .output | .emit | .warning => true
  | .verbose | .help => false

/-- The option with a long name. -/
def ofLong? : String → Option Flag
  | "output" => some .output
  | "emit" => some .emit
  | "verbose" => some .verbose
  | "help" => some .help
  | _ => none

/-- The option with a short name. -/
def ofShort? : Char → Option Flag
  | 'o' => some .output
  | 'W' => some .warning
  | 'v' => some .verbose
  | 'h' => some .help
  | _ => none

end Flag

/-- Values that have been read but not yet looked at: the value of an option, if it has come, or a
run of input files. -/
inductive Pending where
  | nothing
  | option (flag : Flag) (value : Option String)
  | inputs (paths : List String)

/-- The arguments read so far.  An option that may stand once is `none` until it is settled. -/
structure Parsing where
  inputs : List String := []
  output : Option String := none
  emit : Option Emit := none
  verbose : Bool := false
  warnings : List String := []
  pending : Pending := .nothing
  onlyInputs : Bool := false

namespace Parsing

/-- The layout with a name; case matters. -/
def emit? : String → Option Emit
  | "tree" => some .tree
  | "json" => some .json
  | _ => none

/-- Takes an option with its value into account.  Only warning options may be repeated. -/
def settle (p : Parsing) (flag : Flag) (value : String) : Except UsageError Parsing :=
  match flag with
  | .output =>
      if p.output.isSome then .error .argumentConflict
      else if value.isEmpty then .error .invalidValue
      else .ok { p with output := some value }
  | .emit =>
      if p.emit.isSome then .error .argumentConflict
      else match emit? value with
        | some emit => .ok { p with emit := some emit }
        | none => .error .invalidValue
  | .warning => .ok { p with warnings := p.warnings ++ [value] }
  | .verbose =>
      if p.verbose then .error .argumentConflict else .ok { p with verbose := true }
  | .help => .error .displayHelp

/-- Looks at what has been read so far.  An option without a value and an empty path are invalid. -/
def settlePending (p : Parsing) : Except UsageError Parsing :=
  let rest := { p with pending := .nothing }
  match p.pending with
  | .nothing => .ok p
  | .option _ none => .error .invalidValue
  | .option flag (some value) => rest.settle flag value
  | .inputs paths =>
      if paths.any (·.isEmpty) then .error .invalidValue
      else .ok { rest with inputs := p.inputs ++ paths }

/-- Takes an option whose value, if it has one, is attached to it. -/
def option (p : Parsing) (flag : Flag) (attached : Option String) : Except UsageError Parsing := do
  let p ← p.settlePending
  if flag.takesValue then
    match attached with
    | some value => p.settle flag value
    | none => return { p with pending := .option flag none }
  else p.settle flag ""

/-- Takes an argument that begins with two dashes, without them. -/
def long (p : Parsing) (body : List Char) : Except UsageError Parsing :=
  let name := String.ofList (body.takeWhile (· != '='))
  let attached := match body.dropWhile (· != '=') with
    | _ :: value => some (String.ofList value)
    | [] => none
  match Flag.ofLong? name with
  | none => .error .unknownArgument
  | some flag =>
      if attached.isSome && !flag.takesValue then .error .tooManyValues
      else p.option flag attached

/-- Takes the short options of one argument.  The first one that takes a value takes the rest of the
argument, without an equals sign in front of it. -/
def short (p : Parsing) : List Char → Except UsageError Parsing
  | [] => .ok p
  | c :: rest =>
      match Flag.ofShort? c with
      | none => .error .unknownArgument
      | some flag =>
          if flag.takesValue then
            match rest with
            | [] => p.option flag none
            | '=' :: value => p.option flag (some (String.ofList value))
            | value => p.option flag (some (String.ofList value))
          else (p.option flag none).bind fun p => p.short rest

/-- Takes an argument that is an input file. -/
def input (p : Parsing) (path : String) : Except UsageError Parsing :=
  match p.pending with
  | .inputs paths => .ok { p with pending := .inputs (paths ++ [path]) }
  | _ => p.settlePending.map fun p => { p with pending := .inputs [path] }

/-- Takes an argument that is no option: the value that an option waits for, or an input file. -/
def value (p : Parsing) (arg : String) : Except UsageError Parsing :=
  match p.pending with
  | .option flag none => .ok { p with pending := .option flag (some arg) }
  | _ => p.input arg

/-- Takes one argument.  A single dash is no option. -/
def step (p : Parsing) (arg : String) : Except UsageError Parsing :=
  if p.onlyInputs then p.input arg
  else match arg.toList with
    | ['-', '-'] => .ok { p with onlyInputs := true }
    | '-' :: '-' :: body => p.long body
    | '-' :: c :: body => p.short (c :: body)
    -- Here are the single dash, the empty argument and everything without a dash.
    | _ => p.value arg

/-- The run that the arguments ask for; there has to be an input file. -/
def finish (p : Parsing) : Except UsageError Config := do
  let p ← p.settlePending
  if p.inputs.isEmpty then throw .missingRequiredArgument
  return {
    inputs := p.inputs
    output := p.output
    emit := p.emit.getD .tree
    verbose := p.verbose
    warnings := p.warnings }

end Parsing

/-- The run that a list of arguments asks for. -/
def Config.ofArguments (args : List String) : Except UsageError Config := do
  let p ← args.foldlM Parsing.step {}
  p.finish

end CDecl.CommandLine
