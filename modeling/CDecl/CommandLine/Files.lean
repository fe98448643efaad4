import CDecl.Table

/-!
# Access to files

Runs of the program reach files through a `FileAccess`.  A `FileSystem` gives one that needs no disk, and
a `Directory` is the file system of a table of file contents.  A path is followed part by part from the
directory or from the root; names lead to the files of the table, and `..` to the directories above, in
which files can be written but which hold no other directory.
-/

namespace CDecl.CommandLine

/-- Why a file could not be read or written. -/
inductive FileError where
  | notFound
  | notDirectory
  | isDirectory
  | nameTooLong
  | zeroByte
  | invalidText
  | other (text : String)
deriving DecidableEq, Inhabited

/-- How a failure is described. -/
def FileError.message : FileError → String
  | .notFound => "No such file or directory (os error 2)"
  | .notDirectory => "Not a directory (os error 20)"
  | .isDirectory => "Is a directory (os error 21)"
  | .nameTooLong => "File name too long (os error 36)"
  | .zeroByte => "file name contained an unexpected NUL byte"
  | .invalidText => "stream did not contain valid UTF-8"
  | .other text => text

/-- Reading and writing whole files by their paths. -/
structure FileAccess (m : Type → Type) where
  read : String → m (Except FileError ByteArray)
  write : String → String → m (Except FileError Unit)

/-- A file system with states `σ`.  Reading leaves it as it is; a write changes it, perhaps also one
that fails. -/
structure FileSystem (σ : Type) where
  read : σ → String → Except FileError ByteArray
  write : σ → String → String → Except FileError Unit × σ

/-- Access to a file system that is carried along. -/
def FileSystem.access {σ : Type} (fs : FileSystem σ) : FileAccess (StateM σ) where
  read path := return fs.read (← get) path
  write path text := do
    let (result, s) := fs.write (← get) path text
    set s
    return result

/-- A directory that a path can lead to: one so many levels above the directory in which the program
runs, or the root. -/
inductive Folder where
  | above (levels : Nat)
  | root
deriving DecidableEq

namespace Folder

/-- The directory that holds a directory; the root holds itself. -/
def parent : Folder → Folder
  | .above levels => .above (levels + 1)
  | .root => .root

/-- The shortest path to a name in a directory. -/
def pathTo (folder : Folder) (name : String) : String :=
  match folder with
  | .above levels => String.join (List.replicate levels "../") ++ name
  | .root => "/" ++ name

end Folder

/-- What a path leads to: one of the directories, or a name in one of them. -/
inductive Place where
  | folder (folder : Folder)
  | entry (folder : Folder) (name : String)
deriving DecidableEq

/-- The most bytes of a name. -/
def longestName : Nat := 255

/-- The most bytes of a path. -/
def longestPath : Nat := 4095

/-- The contents of files by the shortest paths to them, as seen from a directory. -/
abbrev Directory := Table ByteArray

namespace Directory

/-- Why nothing can be reached through a name: no name is that of a directory. -/
def blocked (d : Directory) (folder : Folder) (name : String) : FileError :=
  if longestName < name.utf8ByteSize then .nameTooLong
  else if d.contains (folder.pathTo name) then .notDirectory
  else .notFound

/-- Follows the parts of a path, of which only the last one may be a name. -/
def follow (d : Directory) (folder : Folder) : List String → Except FileError Place
  | [] => .ok (.folder folder)
  | "." :: rest => follow d folder rest
  | ".." :: rest => follow d folder.parent rest
  | [name] => .ok (.entry folder name)
  | name :: _ => .error (d.blocked folder name)

/-- The place to which a path leads.  Slashes separate its parts, and several count as one. -/
def place (d : Directory) (path : String) : Except FileError Place :=
  if path.toList.contains '\x00' then .error .zeroByte
  else if path.isEmpty then .error .notFound
  else if longestPath < path.utf8ByteSize then .error .nameTooLong
  else
    let start := if path.startsWith "/" then .root else .above 0
    d.follow start ((path.splitOn "/").filter (· != ""))

/-- The content of the file at a path.  A slash behind its name would have to lead through it. -/
def read (d : Directory) (path : String) : Except FileError ByteArray :=
  match d.place path with
  | .error e => .error e
  | .ok (.folder _) => .error .isDirectory
  | .ok (.entry folder name) =>
      if path.endsWith "/" then .error (d.blocked folder name)
      else match d.find? (folder.pathTo name) with
        | some content => .ok content
        | none => .error (d.blocked folder name)

/-- The directory with new content for the file at a path.  A slash behind its name asks for a
directory, whether the name exists or not. -/
def write (d : Directory) (path : String) (content : ByteArray) : Except FileError Directory :=
  match d.place path with
  | .error e => .error e
  | .ok (.folder _) => .error .isDirectory
  | .ok (.entry folder name) =>
      if path.endsWith "/" then .error .isDirectory
      else if longestName < name.utf8ByteSize then .error .nameTooLong
      else .ok (d.insert (folder.pathTo name) content)

/-- A directory as a file system; a write that fails leaves it as it is. -/
def fileSystem : FileSystem Directory where
  read := read
  write d path text :=
    match d.write path text.toUTF8 with
    | .ok d' => (.ok (), d')
    | .error e => (.error e, d)

/-- Access to the files of a directory that is carried along. -/
def access : FileAccess (StateM Directory) := fileSystem.access

end Directory

end CDecl.CommandLine
