import LogTemplate.Command.Invocation
import LogTemplate.Command.Parse
import LogTemplate.Settings

/-!
# The command line

Brings the files that a command names into a workspace, runs the command there, and stores what it
has changed.  Databases are not stored.
-/

namespace LogTemplate.Main

/-- The text of a place. -/
def placeText (place : List String) : String := "/" ++ "/".intercalate place

/-- What lies at a path of the disk. -/
def nodeAt (path : String) : IO (Option Node) := do
  if ← ((← IO.currentDir) / path).isDir then return some .directory
  try
    return some (.file (.bytes (← IO.FS.readBinFile path).toList))
  catch _ =>
    return none

/-- The paths that a command names. -/
def namedPaths : Command → List Path
  | .validate patternFile => [patternFile]
  | .parse patternFile inputFile outputFile _ => [patternFile, inputFile, outputFile]

/-- Brings what lies on the way to a path into a workspace, and what lies at its end. -/
def fetch (w : Workspace) (p : Path) : IO Workspace := do
  let start := if p.root.isEmpty then w.home else []
  let mut place := start
  let mut w := w
  for name in p.names do
    place := if name == ".." then place.dropLast else place ++ [name]
    match ← nodeAt (placeText place) with
    | some node => w := w.setNode place node
    | none => pure ()
  return w

/-- Whether what lay at a place is what lies there now. -/
def isUnchanged : Option Node → Node → Bool
  | some .directory, .directory => true
  | some (.file (.bytes before)), .file (.bytes after) => before == after
  | _, _ => false

/-- Stores what differs from the workspace before the run. -/
def store (before after : Workspace) : IO Bool := do
  let mut isDone := true
  for (place, node) in after.nodes.reverse do
    if !isUnchanged (before.node? place) node then
      match node with
      | .directory => IO.FS.createDirAll (placeText place)
      | .file (.bytes bytes) => IO.FS.writeBinFile (placeText place) ⟨bytes.toArray⟩
      | .file (.database _) | .file (.log _) =>
        IO.eprintln s!"{placeText place}: databases are not stored"
        isDone := false
  return isDone

/-- The settings of the environment. -/
def settings : IO (Except Numeral.Error Settings) := do
  let mut found : List (String × String) := []
  for name in Settings.variableNames do
    match ← IO.getEnv name with
    | some value => found := (name, value) :: found
    | none => pure ()
  return Settings.ofVariables fun name => OrderedMap.lookup name found

/-- A text as a screen shows it, where a half that stands alone is shown by its number. -/
def screenText (s : Text) : String :=
  String.ofList <| s.toList.flatMap fun
    | .char c => [c]
    | .lone half => '\\' :: 'u' :: Nat.toDigits 16 (0xD800 + half.val)

/-- Says a text to whoever runs the program. -/
def say (s : Text) : IO Unit := IO.eprintln (screenText s)

/-- Runs a command, and gives the number with which the program ends. -/
def runCommand (settings : Settings) (invocation : Invocation) : IO UInt32 := do
  let home := (Path.ofText (← IO.currentDir).toString).names
  let mut before : Workspace := { home := home }
  for p in namedPaths invocation.command do
    before ← fetch before p
  let run := @Command.runWith .usual before (Command.sinkArguments settings) invocation.command
  for line in run.lines.filter (Log.Line.isShown invocation.isVerbose) do
    say line.text
  let (after, outcome) := run.value
  let isStored ← store before after
  match outcome with
  | .ok code => return if isStored then code.number.toUInt32 else 1
  | .error (.patternFile e) => say e.message; return 1
  | .error (.parsing (.sink e)) =>
    say (e.message?.getD "the output cannot be written")
    return 1
  | .error (.parsing .noWorkers) => IO.eprintln "--workers: a number is missing"; return 1

/-- How the program is called. -/
def usage : String :=
  "usage: logpattern [-h] [-v] validate PATTERN_FILE\n"
    ++ "       logpattern [-h] [-v] parse [--workers WORKERS] PATTERN_FILE INPUT_FILE OUTPUT_FILE"

end LogTemplate.Main

open LogTemplate LogTemplate.Main in
/-- The command line. -/
def main (arguments : List String) : IO UInt32 := do
  match ← settings with
  | .error e => say e.message; return 1
  | .ok settings =>
    match Invocation.ofArguments settings.workers arguments with
    | .ok invocation => runCommand settings invocation
    | .error .help => IO.println usage; return 0
    | .error .usage => IO.eprintln usage; return 2
