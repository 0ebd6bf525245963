import SqlLayout.Text.Basic

/-!
# The surroundings of a run

A run reads its input and its files through a host. A host over `IO` is the machine; the one in this
module holds everything in memory.
-/

namespace SqlLayout.Command

/-- Why input or a file cannot be read. -/
inductive ReadFault where
  | notFound
  | isDirectory
  | notADirectory
  | nameTooLong
  | invalidUtf8
  | other (message : Text)
  deriving DecidableEq

/-- The fault in the words of the operating system. -/
def ReadFault.message : ReadFault → Text
  | notFound => "No such file or directory (os error 2)".toList
  | isDirectory => "Is a directory (os error 21)".toList
  | notADirectory => "Not a directory (os error 20)".toList
  | nameTooLong => "File name too long (os error 36)".toList
  | invalidUtf8 => "stream did not contain valid UTF-8".toList
  | other message => message

/-- What a run can ask of its surroundings. -/
structure Host (m : Type → Type) where
  /-- Reads the rest of standard input. -/
  readInput : m (Except ReadFault Text)
  /-- Whether standard input is a terminal. -/
  isInteractive : m Bool
  /-- Whether a path names a file. -/
  isFile : Text → m Bool
  readFile : Text → m (Except ReadFault Text)
  /-- The home directory. -/
  home : m (Option Text)
  /-- The directory for settings, if one is set apart from the home directory. -/
  configHome : m (Option Text)

/-! ### Files in memory -/

/-- A path as the names on the way from the root. -/
abbrev Path := List Text

/-- The longest name of a file or directory, in bytes. -/
def maxNameLength : Nat := 255

/-- The longest path, in bytes. -/
def maxPathLength : Nat := 4095

/-- Files and directories in memory. -/
structure FileTree where
  files : List (Path × Text) := []
  directories : List Path := []

namespace FileTree

/-- Whether a path is a directory: the root, one that is listed, or one that holds something. -/
def isDirectory (t : FileTree) (path : Path) : Bool :=
  path.isEmpty
    || t.directories.any (path.isPrefixOf ·)
    || t.files.any fun file => path.isPrefixOf file.1 && path != file.1

/--
Follows names from a directory on. Every name but the last must lead to a directory, and none may be too
long; an empty name and a dot stay where they are, and two dots go up.
-/
def follow (t : FileTree) (here : Path) : List Text → Except ReadFault Path
  | [] => .ok here
  | name :: rest =>
    if (t.files.lookup here).isSome then .error .notADirectory
    else if !t.isDirectory here then .error .notFound
    else if name = [] ∨ name = ['.'] then follow t here rest
    else if name = ['.', '.'] then follow t here.dropLast rest
    else if maxNameLength < Text.byteLength name then .error .nameTooLong
    else follow t (here ++ [name]) rest

/-- The place that a path names, seen from a directory. -/
def resolve (t : FileTree) (base : Path) (path : Text) : Except ReadFault Path :=
  if path = [] then .error .notFound
  else if maxPathLength < Text.byteLength path then .error .nameTooLong
  else t.follow (if path.head? = some '/' then [] else base) (Text.pieces '/' path)

/-- Reads the file that a path names, seen from a directory. -/
def read (t : FileTree) (base : Path) (path : Text) : Except ReadFault Text :=
  match t.resolve base path with
  | .error fault => .error fault
  | .ok place =>
    match t.files.lookup place with
    | some content => .ok content
    | none => .error (if t.isDirectory place then .isDirectory else .notFound)

end FileTree

/-- Everything that a run in memory can ask for. -/
structure Memory where
  tree : FileTree
  /-- The working directory. -/
  workingDirectory : Path
  home : Option Text
  configHome : Option Text
  /-- What has not been read of standard input. -/
  input : Except ReadFault Text

/-- The host that holds everything in memory. Its input is no terminal, and can be read once. -/
def Memory.host : Host (StateM Memory) where
  readInput := do
    let memory ← get
    set { memory with input := .ok [] }
    return memory.input
  isInteractive := return false
  isFile path := do
    let memory ← get
    return (memory.tree.read memory.workingDirectory path).isOk
  readFile path := do
    let memory ← get
    return memory.tree.read memory.workingDirectory path
  home := return (← get).home
  configHome := return (← get).configHome

end SqlLayout.Command
