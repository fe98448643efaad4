import CDecl.CommandLine.Run

/-!
# The program

`cdecl [OPTIONS] INPUT...` lowers the declaration trees in its input files.
-/

namespace CDecl.CommandLine

/-- How a failed file operation counts. -/
def FileError.ofSystem : IO.Error → FileError
  | .noFileOrDirectory .. => .notFound
  | .inappropriateType _ _ "Is a directory" => .isDirectory
  | .inappropriateType .. => .notDirectory
  | .invalidArgument _ _ "name too long" => .nameTooLong
  | .invalidArgument _ _ "string contains NUL bytes" => .zeroByte
  | e => .other (toString e)

/-- Access to the files on disk. -/
def diskAccess : FileAccess IO where
  read path := do
    try
      return .ok (← IO.FS.readBinFile path)
    catch e => return .error (.ofSystem e)
  write path text := do
    try
      IO.FS.writeFile path text
      return .ok ()
    catch e => return .error (.ofSystem e)

/-- Runs the program with its arguments; the result is its exit code. -/
def program (args : List String) : IO UInt32 := do
  match Config.ofArguments args with
  | .error .displayHelp =>
      IO.println "usage: cdecl [-v] [-W WARNING]... [--emit tree|json] [-o FILE] INPUT..."
      return 0
  | .error e =>
      IO.eprintln ("error: " ++ e.name)
      return 2
  | .ok c =>
      let outcome ← run diskAccess c
      for line in outcome.stderr do
        IO.eprintln line
      match outcome.result with
      | .ok _ =>
          IO.print outcome.stdout
          return 0
      | .error failure =>
          IO.eprintln ("error: " ++ failure.message)
          return 1

end CDecl.CommandLine

/-- The entry point. -/
def main (args : List String) : IO UInt32 := CDecl.CommandLine.program args
