import LogTemplate.Command.Validate
import LogTemplate.Entry
import LogTemplate.InputFile
import LogTemplate.Sink.Open
import LogTemplate.Sink.Transfer

/-!
# The command that parses a file

The lines of a file are matched batch by batch, and the entries are written to a sink.  The sink is
opened before the file is read.
-/

namespace LogTemplate.Command

variable [Nesting]

/-- How many lines are parsed at a time. -/
def batchSize : Nat := 1000

/-- How many lines were parsed, and how many of them matched. -/
structure Tally where
  total : Nat := 0
  matched : Nat := 0
  deriving DecidableEq, Repr

/-- Counts entries. -/
def Tally.add (tally : Tally) (entries : List Entry) : Tally :=
  ⟨tally.total + entries.length, tally.matched + entries.countP (·.found.isSome)⟩

/-- What is logged when a file has been parsed. -/
def Tally.text (tally : Tally) (input : Path) : String :=
  s!"Parsed {tally.total} lines from {input.text}: {tally.matched} matched, "
    ++ s!"{tally.total - tally.matched} unmatched"

/-- The name of the sink in its session. -/
def sinkName : String := "output"

/-- Writes the entries of lines to the sink, batch by batch. -/
def writeBatches (index : Index) (workers : Int) :
    Sink.Session → Tally → List (List (List CodePoint)) → Sink.Session × Except Sink.Error Tally
  | s, tally, [] => (s, .ok tally)
  | s, tally, batch :: rest =>
    let entries := Entry.ofLines index workers (tally.total + 1) batch
    match s.write sinkName (entries.map Entry.document) with
    | (s, .error e) => (s, .error e)
    | (s, .ok ()) => writeBatches index workers s (tally.add entries) rest

/-- Why the lines of a file do not get to the end of a sink. -/
inductive ParseError where
  | sink (error : Sink.Error)
  /-- It is not known how many workers share the lines. -/
  | noWorkers
  deriving Repr

/-- What the operating system has reported, if it has. -/
def ParseError.fileError? : ParseError → Option FileError
  | .sink (.file e) => if e.fault.isReported then some e else none
  | _ => none

/-- Parses a file into the open sink of a session.  A file without lines needs no workers. -/
def parseInto (s : Sink.Session) (index : Index) (workers : Option Int) (input : Path)
    (size : Nat) : Logged (Sink.Session × Except ParseError Tally) := do
  match ← InputFile.linesLogged s.workspace input with
  | .error e => return (s, .error (.sink (.file e)))
  | .ok lines =>
    match lines, workers with
    | [], _ => return (s, .ok {})
    | _ :: _, none => return (s, .error .noWorkers)
    | lines, some workers =>
      let (s, outcome) := writeBatches index workers s {} (batches size lines)
      return (s, outcome.mapError .sink)

/-- Parses a file into a sink, which is made with some arguments, opened and closed. -/
def parseThrough (w : Workspace) (index : Index) (workers : Option Int) (input output : Path)
    (size : Nat) (arguments : Document) : Logged (Workspace × Except ParseError Tally) := do
  match Sink.ofPath output.text arguments with
  | .error e => return (w, .error (.sink e))
  | .ok sink =>
    match (Sink.Session.bind { workspace := w } sinkName sink).connect sinkName with
    | (s, .error e) => return (s.workspace, .error (.sink e))
    | (s, .ok ()) =>
      let (s, outcome) ← parseInto s index workers input size
      return ((s.close sinkName).1.workspace, outcome)

/-- Why a command does not come to an end. -/
inductive Failure where
  | patternFile (error : PatternFile.Error)
  | parsing (error : ParseError)
  deriving Repr

/-- Warns of the records that are left out. -/
def warnOfRecords : List Diagnostic → Logged Unit
  | [] => return ()
  | d :: rest => do
    Logged.write .warning .program ("Skipping pattern record: " ++ d.text)
    warnOfRecords rest

/-- Parses a file with the library of a pattern file.  If the sink or the file fails because of the
file system, this is logged; other errors of the sink are the caller's. -/
def parseFile (w : Workspace) (patternFile input output : Path) (workers : Option Int)
    (size : Nat) (arguments : Document) : Logged (Workspace × Except Failure ExitCode) := do
  match ← PatternFile.load w patternFile with
  | .error e =>
    if e.reason.failure == .value then return (w, .error (.patternFile e))
    else
      loadFailure e
      return (w, .ok .failed)
  | .ok loaded =>
    warnOfRecords loaded.diagnostics
    let index := Index.ofLibrary loaded.library
    let (w, outcome) ← parseThrough w index workers input output size arguments
    match outcome with
    | .ok tally =>
      Logged.write .info .program (tally.text input)
      return (w, .ok .ok)
    | .error e =>
      match e.fileError? with
      | some fileError =>
        Logged.write .error .program ("Parse failed: " ++ fileError.message)
        return (w, .ok .failed)
      | none => return (w, .error (.parsing e))

/-- The arguments for sinks under the settings of the program. -/
def sinkArguments (settings : Settings) : Document :=
  .mapping [("table", .text settings.resultsTable)]

/-- Runs a command, with some arguments for its sink. -/
def runWith (w : Workspace) (arguments : Document) :
    Command → Logged (Workspace × Except Failure ExitCode)
  | .validate patternFile => do
    let outcome ← checkPatterns w patternFile
    return (w, outcome.mapError .patternFile)
  | .parse patternFile input output workers =>
    parseFile w patternFile input output workers batchSize arguments

/-- Runs a command whose sink is left as it is by default. -/
def run (w : Workspace) (command : Command) : Logged (Workspace × Except Failure ExitCode) :=
  runWith w (.mapping []) command

end LogTemplate.Command
