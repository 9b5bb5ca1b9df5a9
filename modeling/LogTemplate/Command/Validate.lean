import LogTemplate.Command
import LogTemplate.PatternFile.Read
import LogTemplate.Validation

/-!
# The command that checks a pattern file

Every report on a record and every example that does not pass is logged, and counts as a failure.
-/

namespace LogTemplate.Command

variable [Nesting]

/-- What is logged about an example that does not pass. -/
def exampleText (library : Library) (o : Validation.Outcome) : Text :=
  let name : Text := ((library.get? o.uuid).map (·.name)).getD ""
  let expected := Document.shownTexts o.expected.entries
  let actual := (o.actual.map fun found => Document.shownTexts found.entries).getD Document.nullWord
  s!"Test message #{o.index} of " ++ name ++ " (" ++ o.uuid.text ++ ") failed: " ++ o.verdict.word
    ++ " expected=" ++ expected ++ " actual=" ++ actual

/-- Logs an error of the program for each item of a list. -/
def logErrors {α : Type} (text : α → Text) : List α → Logged Unit
  | [] => return ()
  | item :: rest => do
    Logged.write .error .program (text item)
    logErrors text rest

/-- What is logged about a pattern file that cannot be loaded. -/
def loadFailure (e : PatternFile.Error) : Logged Unit :=
  Logged.write .error .program (s!"Cannot load {e.path}: " ++ e.reason.message)

/-- Logs what is wrong with a loaded library. -/
def logReport (library : Library) (report : Validation.Report) : Logged Unit := do
  logErrors (fun d => "Invalid pattern record: " ++ d.text) report.diagnostics
  logErrors (exampleText library) report.failures
  let size := library.size
  let examples := report.outcomes.length
  let failed := report.failures.length
  let reports := report.diagnostics.length
  Logged.write .info .program
    s!"Validated {size} patterns: {examples} test messages, {failed} failed, {reports} diagnostics"

/-- Checks a pattern file.  A value in it that is out of range is the caller's. -/
def checkPatterns (w : Workspace) (file : Path) : Logged (Except PatternFile.Error ExitCode) := do
  match ← PatternFile.load w file with
  | .error e =>
    if e.reason.failure == .value then return .error e
    else
      loadFailure e
      return .ok .unreadable
  | .ok loaded =>
    let report := Validation.report loaded.library loaded.diagnostics
    logReport loaded.library report
    return .ok (if report.isValid then .ok else .failed)

end LogTemplate.Command
