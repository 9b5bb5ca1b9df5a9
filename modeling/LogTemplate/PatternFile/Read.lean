import LogTemplate.Library.Load
import LogTemplate.PatternFile.Decode

/-!
# Reading pattern files

A pattern file is read in the format that its name tells or, if that is no known one, in the format
that its first lines tell.
-/

namespace LogTemplate.PatternFile

open Text

variable [Nesting]

/-- How many lines are looked at to tell the format. -/
def sampleLines : Int := 5

/-- The bytes of a file. -/
def readBytes (w : Workspace) (p : Path) : Except FileError (List UInt8) :=
  match w.read p with
  | .ok content => .ok content.toBytes
  | .error fault => .error ⟨fault, p.text⟩

/-- The first lines of a file, whatever bytes of it are no text. -/
def sample (count : Int) (bytes : List UInt8) : List CodePoint :=
  [CodePoint.char '\n'].intercalate
    ((fileLines ((Utf8.decodeSkipping bytes).map .char)).take count.toNat)

/-- The format of a pattern file. -/
def formatOf (w : Workspace) (p : Path) (count : Int) : Logged (Except Error Format) := do
  match Format.ofPath? p with
  | some format => return .ok format
  | none =>
    match readBytes w p with
    | .error e =>
      if e.fault.isReported then
        Logged.write .error .sniffer (s!"Sniffer could not read {p.text}: " ++ e.message)
      return .error ⟨p.text, .unreadable e⟩
    | .ok bytes =>
      match ← sniffLogged (sample count bytes) with
      | none =>
        Logged.write .warning .sniffer s!"No pattern file handler recognized {p.name}"
        return .error ⟨p.text, .unrecognized⟩
      | some format =>
        Logged.write .debug .sniffer s!"Sniffer selected {format.readerName} for {p.name}"
        return .ok format

/-- The text of a pattern file, its line ends made one. -/
def readText (w : Workspace) (p : Path) : Except Reason (List CodePoint) :=
  match readBytes w p with
  | .error e => .error (.unreadable e)
  | .ok bytes =>
    match Utf8.decodeText bytes with
    | .error fault => .error (.notUtf8 fault)
    | .ok text => .ok (unifyBreaks text)

/-- The records of a pattern file in a format. -/
def readAs (w : Workspace) (p : Path) (format : Format) :
    Logged (Except Error (List Document)) := do
  match readText w p with
  | .error reason => return .error ⟨p.text, reason⟩
  | .ok text =>
    let records ← format.decode p.text text
    return records.mapError (⟨p.text, ·⟩)

/-- The records of a pattern file. -/
def read (w : Workspace) (p : Path) : Logged (Except Error (List Document)) := do
  match ← formatOf w p sampleLines with
  | .error e => return .error e
  | .ok format => readAs w p format

/-- The library of a list of records. -/
def loadRecords (records : List Document) : Logged Library.Loaded := do
  let loaded := Library.load records
  let size := loaded.library.size
  let reports := loaded.diagnostics.length
  Logged.write .debug .loader
    s!"Loaded {size} of {records.length} pattern records ({reports} diagnostics)"
  return loaded

/-- The library of a pattern file. -/
def load (w : Workspace) (p : Path) : Logged (Except Error Library.Loaded) := do
  match ← read w p with
  | .error e => return .error e
  | .ok records =>
    let loaded ← loadRecords records
    let size := loaded.library.size
    let reports := loaded.diagnostics.length
    Logged.write .info .patternFile
      s!"Loaded {size} patterns from {p.name} ({reports} diagnostics)"
    return .ok loaded

end LogTemplate.PatternFile
