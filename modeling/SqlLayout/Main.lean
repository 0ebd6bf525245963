import SqlLayout.Command.Run

/-!
# The program

Runs the command line on the machine: files, standard input and the environment are those of the
process.
-/

namespace SqlLayout.Command

/-- The cause of a failed read: a path that leads through a file is reported with that path, and a
directory read as a file without one; a name that is too long is the system's error 36, with either
sign. -/
def ReadFault.ofError (e : IO.Error) : ReadFault :=
  match e with
  | .noFileOrDirectory _ _ _ => .notFound
  | .inappropriateType none _ _ => .isDirectory
  | .inappropriateType (some _) _ _ => .notADirectory
  | .invalidArgument _ code _ =>
    if code = 36 ∨ code = -36 then .nameTooLong else .other (toString e).toList
  | _ => .other (toString e).toList

/-- A text from its bytes. -/
def decodeUtf8 (bytes : ByteArray) : Except ReadFault Text :=
  match String.fromUTF8? bytes with
  | some s => .ok s.toList
  | none => .error .invalidUtf8

/-- Reads a stream to its end. -/
partial def readAll (stream : IO.FS.Stream) (bytes : ByteArray) : IO ByteArray := do
  let chunk ← stream.read 65536
  if chunk.isEmpty then return bytes else readAll stream (bytes ++ chunk)

/-- Reads a file. -/
def readFile (path : Text) : IO (Except ReadFault Text) := do
  match ← (IO.FS.readBinFile (String.ofList path)).toBaseIO with
  | .ok bytes => return decodeUtf8 bytes
  | .error e => return .error (.ofError e)

/-- Whether a read says that a path names a file. -/
def namesFile : Except ReadFault Text → Bool
  | .error .notFound | .error .notADirectory | .error .isDirectory | .error .nameTooLong => false
  | _ => true

/-- The machine as a host. -/
def machine : Host IO where
  readInput := do return decodeUtf8 (← readAll (← IO.getStdin) ByteArray.empty)
  isInteractive := do (← IO.getStdin).isTty
  isFile path := do return namesFile (← readFile path)
  readFile := readFile
  home := do return (← IO.getEnv "HOME").map String.toList
  configHome := do
    return ((← IO.getEnv "XDG_CONFIG_HOME").map String.toList).filter (·.head? = some '/')

end SqlLayout.Command

/-- Runs the command line with the arguments of the process. -/
def main (args : List String) : IO UInt32 := do
  let result ← SqlLayout.Command.run SqlLayout.Command.machine (args.map String.toList)
  IO.print (String.ofList result.stdout)
  IO.eprint (String.ofList result.stderr)
  return result.exit.toUInt32
