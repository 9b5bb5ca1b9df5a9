import LogTemplate.Json.Reader
import LogTemplate.Log
import LogTemplate.PatternFile.Error
import LogTemplate.PatternFile.Format
import LogTemplate.Yaml.Reader

/-!
# Records in pattern files

The records that the text of a pattern file holds.  A JSON or YAML document is a list of records,
or a mapping with such a list.  Among lines of JSON each line that is not blank is a record; a line
that is no JSON stands for itself, so that loading reports it.  A text that is nested too deep gives
no records, even if this is so on one line only.
-/

namespace LogTemplate.PatternFile

open Text

variable [Nesting]

/-- The list of records that a document is, or that it holds under `patterns`. -/
def unwrap (d : Document) : Except Reason (List Document) :=
  match (d.get? "patterns").getD d with
  | .list records => .ok records
  | other => .error (.notList other)

/-- Says how many records a file holds. -/
def announce (channel : Log.Channel) (path : String) (records : List Document) : Logged Unit :=
  Logged.write .info channel s!"Decoded {records.length} pattern records from {path}"

/-- The records of a document that was read from a file. -/
def unwrapLogged (channel : Log.Channel) (path : String) (d : Document) :
    Logged (Except Reason (List Document)) := do
  match unwrap d with
  | .error reason => return .error reason
  | .ok records =>
    announce channel path records
    return .ok records

/-- The records of a JSON text. -/
def decodeJson (path : String) (text : List CodePoint) :
    Logged (Except Reason (List Document)) := do
  match Json.read text with
  | .error (.tooDeep what) => return .error (.tooDeep what)
  | .error e =>
    Logged.write .error .jsonFile (s!"Invalid JSON in {path}: " ++ e.message)
    return .error (.invalidJson e)
  | .ok d => unwrapLogged .jsonFile path d

/-- The record on a line. -/
def decodeLine (line : List CodePoint) : Except Json.Error Document := Json.read line

/-- The record on a line of a file, or the line itself. -/
def decodeLineLogged (path : String) (number : Nat) (line : List CodePoint) :
    Logged (Except Nesting.Excess Document) := do
  match decodeLine line with
  | .ok d => return .ok d
  | .error (.tooDeep what) => return .error what
  | .error e =>
    Logged.write .warning .jsonLinesFile (s!"Undecodable line {number} in {path}: " ++ e.message)
    return .ok (.text (Text.ofList line))

/-- The records of lines, the first of which has the given number. -/
def decodeLines (path : String) :
    (number : Nat) → List (List CodePoint) → Logged (Except Nesting.Excess (List Document))
  | _, [] => return .ok []
  | number, line :: rest => do
    let line := trim line
    if line.isEmpty then decodeLines path (number + 1) rest
    else match ← decodeLineLogged path number line with
      | .error what => return .error what
      | .ok record =>
        let records ← decodeLines path (number + 1) rest
        return records.map (record :: ·)

/-- The records of a text of JSON lines. -/
def decodeJsonLines (path : String) (text : List CodePoint) :
    Logged (Except Nesting.Excess (List Document)) := do
  match ← decodeLines path 1 (splitLines text) with
  | .error what => return .error what
  | .ok records =>
    announce .jsonLinesFile path records
    return .ok records

/-- The records of a YAML text. -/
def decodeYaml (path : String) (text : List CodePoint) :
    Logged (Except Reason (List Document)) := do
  match Yaml.read text with
  | .error .malformed =>
    Logged.write .error .yamlFile s!"Invalid YAML in {path}"
    return .error .invalidYaml
  | .error .tooDeep => return .error (.tooDeep .nodes)
  | .error e => return .error (.outOfRange e)
  | .ok d => unwrapLogged .yamlFile path d

/-- The records of a text in a format. -/
def Format.decode (format : Format) (path : String) (text : List CodePoint) :
    Logged (Except Reason (List Document)) :=
  match format with
  | .json => decodeJson path text
  | .jsonLines => do return (← decodeJsonLines path text).mapError .tooDeep
  | .yaml => decodeYaml path text

end LogTemplate.PatternFile
