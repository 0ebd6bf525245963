import SqlLayout.Command.Host
import SqlLayout.Layout.Engine
import SqlLayout.Policy.Read

/-!
# The command line

Options, input and settings of a run, and what it writes. Options are read in order, and `-` reads
standard input where it stands. Without a file of settings on the command line, the first one found in
the working directory, the home directory and the directory for settings is read.
-/

namespace SqlLayout.Command

/-- Why a run stops before it formats anything. -/
inductive Failure where
  | unknownOption (option : Text)
  | missingValue (option : Text)
  | unreadableInput (fault : ReadFault)
  | unreadableSettings (path : Text) (fault : ReadFault)
  | invalidSettings (error : PolicyError)
  deriving DecidableEq

namespace Failure

/-- The reason in words. -/
def message : Failure → Text
  | unknownOption option => "unknown option: ".toList ++ option
  | missingValue option => option ++ " expects a value".toList
  | unreadableInput fault => "failed to read from stdin: ".toList ++ fault.message
  | unreadableSettings path fault =>
    "invalid configuration: cannot read ".toList ++ path ++ ": ".toList ++ fault.message
  | invalidSettings error => "invalid configuration: ".toList ++ error.message

/-- Whether the command line itself is at fault. -/
def isUsage : Failure → Bool
  | unknownOption _ | missingValue _ => true
  | _ => false

end Failure

/-- What the command line asks for. -/
structure Options where
  sql : Option Text := none
  config : Option Text := none
  noColor : Bool := false
  check : Bool := false
  help : Bool := false
  deriving DecidableEq, Inhabited

/-- What a run writes, and the status it ends with. -/
structure Outcome where
  exit : Nat := 0
  stdout : Text := []
  stderr : Text := []
  deriving DecidableEq, Inhabited

/-- Lines of the help text. -/
def helpLines : List String := [
  "trowel - SQL and PL/pgSQL Formatter",
  "",
  "USAGE:",
  "    trowel [OPTIONS] [SQL]",
  "    echo \"SELECT * FROM users\" | trowel",
  "",
  "OPTIONS:",
  "    -h, --help          Print this help message",
  "    -c, --config FILE   Read layout settings from FILE",
  "                        (default: ./.trowel, ~/.trowel, then",
  "                        $XDG_CONFIG_HOME/trowel/trowel.conf)",
  "    --check             Exit with status 1 if the input is not formatted",
  "    --no-color          Disable colored output",
  "    -                   Read SQL from stdin",
  "",
  "EXAMPLES:",
  "    # Format SQL from argument",
  "    trowel \"select id,name from users where active=true\"",
  "",
  "    # Format a file with a narrower line width",
  "    echo \"line-width = 60\" > narrow.conf",
  "    trowel -c narrow.conf < query.sql",
  "",
  "    # Verify a file is already formatted",
  "    trowel --check < query.sql",
  "",
  "Set RUST_LOG=trowel_format=debug to trace layout decisions.",
  ""]

/-- The help text. -/
def help : Text :=
  Text.join ['\n'] (helpLines.map String.toList) ++ ['\n']

/-- A line of text, ended. -/
def line (t : Text) : Text :=
  t ++ ['\n']

/-- What a run writes that stops for a failure. -/
def Failure.outcome (failure : Failure) : Outcome where
  exit := 1
  stderr :=
    line ("Error: ".toList ++ failure.message)
      ++ if failure.isUsage then line "Use --help for usage information".toList else []

/-- Lines that list the syntax errors of a source. -/
def errorListing (errors : List SyntaxError) : Text :=
  line "Error: Failed to parse SQL".toList
    ++ errors.flatMap (fun e =>
      line ("  • ".toList ++ e.message ++ s!" at offset {e.start}".toList))
    ++ line []

/-- What a run writes that breaks off for a fault. -/
def broken (fault : FormatFault) : Outcome where
  exit := 101
  stderr := line fault.message.toList

/-- What a run writes for a formatted source with the given syntax errors. -/
def formattedOutcome (isCheck : Bool) (sql formatted : Text) (errors : List SyntaxError) : Outcome :=
  if isCheck then
    if formatted = sql then {} else { exit := 1, stderr := line "input is not formatted".toList }
  else if errors.isEmpty then { stdout := formatted }
  else { exit := 1, stdout := formatted, stderr := errorListing errors }

/-- What a run writes for a source under a policy. -/
def outcome (isCheck : Bool) (policy : Policy) (sql : Text) : Outcome :=
  match Tree.parse sql with
  | .error fault => broken (.parse fault)
  | .ok tree =>
    match formatTreeBounded policy tree with
    | .error fault => broken (.layout fault)
    | .ok formatted => formattedOutcome isCheck sql formatted tree.errors.toList

section
variable {m : Type → Type} [Monad m] (host : Host m)

/-- Reads standard input. -/
def readInput : ExceptT Failure m Text := do
  match ← host.readInput with
  | .ok text => return text
  | .error fault => throw (.unreadableInput fault)

/-- Reads the options of a command line after those that have been read. -/
def readOptions (options : Options) : List Text → ExceptT Failure m Options
  | [] => return options
  | arg :: rest =>
    match String.ofList arg with
    | "-h" | "--help" => readOptions { options with help := true } rest
    | "-c" | "--config" =>
      match rest with
      | [] => throw (.missingValue "--config".toList)
      | path :: rest => readOptions { options with config := some path } rest
    | "--no-color" => readOptions { options with noColor := true } rest
    | "--check" => readOptions { options with check := true } rest
    | "-" => do
      let sql ← readInput host
      readOptions { options with sql := some sql } rest
    | _ =>
      if arg.head? = some '-' then throw (.unknownOption arg)
      else readOptions { options with sql := some arg } rest

/-- A name in a directory. -/
def inDirectory (directory : Text) (name : String) : Text :=
  directory ++ ['/'] ++ name.toList

/-- Paths at which settings are looked for, in order. -/
def settingsPaths (home configHome : Option Text) : List Text :=
  let configDirectory := configHome.orElse fun _ => home.map (inDirectory · ".config")
  [".trowel".toList]
    ++ (home.map (inDirectory · ".trowel")).toList
    ++ (configDirectory.map (inDirectory · "trowel/trowel.conf")).toList

/-- The first path that names a file. -/
def firstFile? : List Text → m (Option Text)
  | [] => return none
  | path :: rest => do
    if ← host.isFile path then return some path else firstFile? rest

/-- Reads the settings in a file. -/
def readSettings (path : Text) : ExceptT Failure m Policy := do
  match ← host.readFile path with
  | .error fault => throw (.unreadableSettings path fault)
  | .ok content =>
    match Policy.read content with
    | .ok policy => return policy
    | .error e => throw (.invalidSettings e)

/-- The policy of a run: from the file named, from one that is found, or the default. -/
def loadPolicy (config : Option Text) : ExceptT Failure m Policy := do
  match config with
  | some path => readSettings host path
  | none =>
    let paths := settingsPaths (← host.home) (← host.configHome)
    match ← ExceptT.lift (firstFile? host paths) with
    | some path => readSettings host path
    | none => return {}

/-- A run up to its failure, if it fails. -/
def attempt (args : List Text) : ExceptT Failure m Outcome := do
  let options ← readOptions host {} args
  let wantsHelp ← if options.sql.isNone then host.isInteractive else pure false
  if options.help || wantsHelp then return { stderr := help }
  else
    let sql ← match options.sql with
      | some sql => pure sql
      | none => readInput host
    let policy ← loadPolicy host options.config
    return outcome options.check policy sql

/-- A run with the given arguments. -/
def run (args : List Text) : m Outcome := do
  match ← (attempt host args).run with
  | .ok result => return result
  | .error failure => return failure.outcome

end
end SqlLayout.Command
