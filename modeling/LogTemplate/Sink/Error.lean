import LogTemplate.Document
import LogTemplate.Json.Encoding
import LogTemplate.Json.Error
import LogTemplate.Text.Utf8
import LogTemplate.Workspace

/-!
# Errors of sinks

Why a sink cannot be made, opened, written to or read.
-/

namespace LogTemplate.Sink

/-- Why a sink cannot do what is asked of it. -/
inductive Error where
  /-- There is no sink of that kind. -/
  | unsupportedKind (kind : String)
  | invalidTableName (name : Text)
  /-- The name of a table is no text. -/
  | tableNotText
  /-- A sink of that kind takes no such argument. -/
  | wrongArgument
  /-- No sink has the name. -/
  | noSink (name : String)
  /-- The sink is not open. -/
  | notOpen
  | file (error : FileError)
  | notUtf8 (fault : Text.Utf8.Fault)
  | notJson (error : Json.Error)
  /-- The bytes of what should be a JSON text are no characters. -/
  | undecodable (fault : Json.Fault)
  /-- A line holds no mapping, so that it has no members to filter by. -/
  | noMembers
  /-- A record is no mapping. -/
  | notRecord
  | missingMember (key : String)
  /-- What should be an integer is no number and no text. -/
  | notInteger (found : Document)
  | numeral (error : Numeral.Error)
  | notANumber
  | infinite
  /-- A column cannot hold what the record has for it, or the record has nothing. -/
  | unbindable (column : String)
  /-- A column cannot hold an integer of more than 64 bits. -/
  | tooLarge
  /-- Neither a file nor a column can hold a half that stands alone. -/
  | unencodable (stray : Text.Stray)
  /-- The file of a database cannot be opened. -/
  | cannotOpen
  | notDatabase
  /-- The tables of a database are laid out in an unknown way. -/
  | unknownLayout
  /-- The name of the table is a reserved word. -/
  | reservedName (name : String)
  | noTable (name : String)
  /-- A table has columns of another kind. -/
  | otherTable (name : String)
  /-- A table or an index has the name already. -/
  | nameTaken (name : String)
  /-- The database cannot be read back with the table in it. -/
  | malformed (name : String)
  /-- The rows of the table cannot be read. -/
  | broken
  /-- The database is only read. -/
  | readOnly
  /-- Another sink holds the database. -/
  | locked
  /-- What is beside a file while it is changed was gone at the end. -/
  | noJournal
  /-- A row is not what its table admits, or a trigger refuses it. -/
  | refused
  /-- No number is left for a row. -/
  | full
  /-- The database speaks of what it does not hold. -/
  | unknown
  /-- A text of the database has bytes that are no characters. -/
  | garbled
  /-- A column holds bytes, which a record cannot. -/
  | bytes
  /-- What should be a JSON text is none at all. -/
  | notText
  deriving Repr

/-- Whether it is the database that reports an error. -/
def Error.isReported : Error → Bool
  | .notDatabase | .unknownLayout | .reservedName _ | .noTable _ | .otherTable _ | .nameTaken _
  | .malformed _ | .broken | .readOnly | .locked | .noJournal | .refused | .full | .unknown => true
  | _ => false

/-- Whether an error keeps a value from being bound to a column. -/
def Error.isUnbound : Error → Bool
  | .unbindable _ | .tooLarge | .unencodable _ => true
  | _ => false

/-- The wording of an error, where it has one. -/
def Error.message? : Error → Option Text
  | .unsupportedKind kind => some ("Unsupported DB type: " ++ (kind : Text))
  | .invalidTableName name => some ("Invalid table name: " ++ Text.quoted name)
  | .noSink name => some (Text.quoted name)
  | .file error => some error.message
  | .notUtf8 fault => some fault.message
  | .notJson error => some error.message
  | .undecodable fault => some fault.message
  | .unencodable stray => some (Text.Utf8.refusal stray)
  | .missingMember key => some (Text.quoted key)
  | .numeral error => some error.message
  | .notANumber => some "cannot convert float NaN to integer"
  | _ => none

end LogTemplate.Sink
