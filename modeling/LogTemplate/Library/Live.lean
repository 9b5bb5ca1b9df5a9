import LogTemplate.Library.Match
import LogTemplate.PatternFile.Read

/-!
# Live libraries

A long-running program keeps a library that is loaded from a pattern file again and again.  What a
load gives is put in place as a whole: the library, what was reported, and the index.  A load that
fails changes nothing.
-/

namespace LogTemplate

/-- A library, the reports on its records, and its index. -/
structure Snapshot where
  library : Library := {}
  diagnostics : List Diagnostic := []
  index : Index := .ofLibrary library

/-- The snapshot of a loaded library. -/
def Snapshot.ofLoaded (loaded : Library.Loaded) : Snapshot where
  library := loaded.library
  diagnostics := loaded.diagnostics

/-- The pattern file of a library, and what its last successful load gave. -/
structure LiveLibrary where
  path : Option Path
  current : Snapshot := {}

namespace LiveLibrary

variable [Nesting]

/-- Why a library cannot be loaded again. -/
inductive Error where
  /-- There is no pattern file. -/
  | noFile
  | file (error : PatternFile.Error)
  deriving Repr

/-- The wording of an error. -/
def Error.message : Error → Text
  | .noFile => "PatternStore has no pattern file configured"
  | .file error => error.message

/-- The failure of the pattern file, if the error is one.  A value that is out of range is none. -/
def Error.fileFailure? : Error → Option PatternFile.Error
  | .noFile => none
  | .file error => if error.reason.failure == .value then none else some error

/-- Warns of what was reported on records. -/
def warn : List Diagnostic → Logged Unit
  | [] => return ()
  | d :: rest => do
    Logged.write .warning .patternFile ("Pattern diagnostic: " ++ d.text)
    warn rest

/-- Loads the library again. -/
def reload (live : LiveLibrary) (w : Workspace) : Logged (LiveLibrary × Except Error Unit) := do
  match live.path with
  | none => return (live, .error .noFile)
  | some path =>
    match ← PatternFile.load w path with
    | .error e => return (live, .error (.file e))
    | .ok loaded =>
      warn loaded.diagnostics
      return ({ live with current := .ofLoaded loaded }, .ok ())

end LiveLibrary

end LogTemplate
