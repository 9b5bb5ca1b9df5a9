import LogTemplate.Log
import LogTemplate.Text.Lines
import LogTemplate.Text.Utf8
import LogTemplate.Workspace

/-!
# Input files

The lines of a file that is to be parsed.  Bytes that are no text become replacement characters, and
every line counts, blank or not.
-/

namespace LogTemplate.InputFile

open Text

/-- The lines of the bytes of a file. -/
def linesOf (bytes : List UInt8) : List (List CodePoint) :=
  fileLines ((Utf8.decodeReplacing bytes).map .char)

/-- The lines of a file. -/
def lines (w : Workspace) (p : Path) : Except FileError (List (List CodePoint)) :=
  match w.read p with
  | .ok content => .ok (linesOf content.toBytes)
  | .error fault => .error ⟨fault, p.text⟩

/-- The lines of a file, each with its number, counted from one. -/
def numbered (w : Workspace) (p : Path) : Except FileError (List (Nat × List CodePoint)) := do
  return (← lines w p).zipIdx.map fun (line, index) => (index + 1, line)

/-- The lines of a file.  What the operating system has against reading it is reported. -/
def linesLogged (w : Workspace) (p : Path) : Logged (Except FileError (List (List CodePoint))) := do
  match lines w p with
  | .ok found => return .ok found
  | .error e =>
    if e.fault.isReported then
      Logged.write .error .inputFile (s!"RawHandler failed on {p.text}: " ++ e.message)
    return .error e

/-- The lines of a file, all at once.  How many they are is told, and what the operating system has
against reading it is reported. -/
def readLogged (w : Workspace) (p : Path) : Logged (Except FileError (List (List CodePoint))) := do
  match ← linesLogged w p with
  | .error e => return .error e
  | .ok found =>
    Logged.write .info .inputFile s!"Read {found.length} lines from {p.name}"
    return .ok found

end LogTemplate.InputFile
