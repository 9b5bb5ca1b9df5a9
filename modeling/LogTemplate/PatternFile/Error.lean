import LogTemplate.Document
import LogTemplate.Json.Error
import LogTemplate.Text.Utf8
import LogTemplate.Workspace
import LogTemplate.Yaml.Error

/-!
# Errors in pattern files

Why a pattern file gives no records.
-/

namespace LogTemplate.PatternFile

/-- Why a pattern file gives no records. -/
inductive Reason where
  | unreadable (error : FileError)
  | notUtf8 (fault : Text.Utf8.Fault)
  | invalidJson (error : Json.Error)
  | invalidYaml
  /-- A value in a YAML text is out of range. -/
  | outOfRange (error : Yaml.Error)
  /-- Collections are nested deeper than the program can go. -/
  | tooDeep (what : Nesting.Excess)
  /-- The document is no list of records. -/
  | notList (found : Document)
  /-- The file's name does not tell its format, and its first lines do not either. -/
  | unrecognized
  deriving Repr

/-- The wording of a reason. -/
def Reason.message : Reason → Text
  | .unreadable error => error.message
  | .notUtf8 fault => fault.message
  | .invalidJson error => "invalid JSON: " ++ error.message
  | .invalidYaml => "invalid YAML"
  | .outOfRange (.numeral error) => error.message
  | .outOfRange _ => "chr() arg not in range(0x110000)"
  | .tooDeep what => what.message
  | .notList found => "expected a list of patterns, got " ++ found.typeName
  | .unrecognized => "unrecognized pattern file format"

/-- What kind of failure a reason makes. -/
inductive Failure where
  /-- The file cannot be read as a text. -/
  | read
  /-- The text holds no list of records. -/
  | decode
  /-- A value is out of range or nested too deep, or the path is none; this is not reported as a
  failure of the file. -/
  | value
  deriving DecidableEq, Repr

/-- The kind of failure that a reason makes. -/
def Reason.failure : Reason → Failure
  | .unreadable error => if error.fault.isReported then .read else .value
  | .notUtf8 _ => .read
  | .invalidJson _ | .invalidYaml | .notList _ | .unrecognized => .decode
  | .outOfRange _ | .tooDeep _ => .value

/-- A pattern file, and why it gives no records. -/
structure Error where
  path : String
  reason : Reason
  deriving Repr

/-- The wording of an error.  A failure of a value does not name the file. -/
def Error.message (e : Error) : Text :=
  match e.reason.failure with
  | .value => e.reason.message
  | _ => e.path ++ ": " ++ e.reason.message

end LogTemplate.PatternFile
