import LogTemplate.Json.Reader
import LogTemplate.Json.Writer
import LogTemplate.Sink.Definition
import LogTemplate.Sink.Error

/-!
# Rows from records

A record is first prepared: what it says of a match becomes an integer, its values and tags become
texts.  Then each of its members is bound to a cell.  On the way back a row becomes a record again,
with values and tags read from their texts.
-/

namespace LogTemplate.Sink

variable [Nesting]

/-- The integer that a document counts as. -/
def integerOf : Document → Except Error Int
  | .bool b => .ok (if b then 1 else 0)
  | .int n => .ok n
  | .float .nan => .error .notANumber
  | .float x =>
    match x.truncate? with
    | some n => .ok n
    | none => .error .infinite
  | .text s => (Numeral.readDecimal s.toList).mapError .numeral
  | found => .error (.notInteger found)

/-- A document as a cell. -/
def bind (column : String) : Option Document → Except Error Cell
  | some .null => .ok .null
  | some (.bool b) => .ok (.ofBool b)
  | some (.int n) => if fits n then .ok (.integer n) else .error .tooLarge
  | some (.float .nan) => .ok .null
  | some (.float x) => .ok (.real x)
  | some (.text s) =>
    match Text.chars s.toList with
    | .ok chars => .ok (.text (.ofList chars))
    | .error stray => .error (.unencodable stray)
  | _ => .error (.unbindable column)

/-- How values are written: characters as they are, entries sorted by key. -/
def valuesStyle : Json.Style := ⟨false, true, false⟩

/-- How tags are written: in ASCII. -/
def tagsStyle : Json.Style := ⟨true, false, false⟩

/-- A record whose members have been prepared. -/
structure Prepared where
  record : Document
  matched : Int
  values : Text
  tags : Text

/-- The member of a record. -/
def member (record : Document) (key : String) : Except Error Document :=
  match record.get? key with
  | some d => .ok d
  | none => .error (.missingMember key)

/-- Prepares a record. -/
def prepare (record : Document) : Except Error Prepared :=
  match record with
  | .mapping _ => do
    let matched ← integerOf (← member record "matched")
    let values ← member record "values"
    let tags ← member record "tags"
    return ⟨record, matched, Json.writeText valuesStyle values, Json.writeText tagsStyle tags⟩
  | _ => .error .notRecord

/-- The cells of a prepared record, each with the name of its column.  They are bound in order. -/
def Prepared.cells (p : Prepared) : Except Error (List (String × Cell)) := do
  let cell := fun (column : String) => bind column (p.record.get? column)
  let lineNumber ← cell "line_number"
  let line ← cell "line"
  if !fits p.matched then .error .tooLarge
  else
    let uuid ← cell "uuid"
    let name ← cell "name"
    let values ← bind "values" (some (.text p.values))
    let tags ← bind "tags" (some (.text p.tags))
    let contentHash ← cell "content_hash"
    return [("line_number", lineNumber), ("line", line), ("matched", .integer p.matched),
      ("uuid", uuid), ("name", name), ("values", values), ("tags", tags),
      ("content_hash", contentHash)]

namespace Cell

/-- A cell as a document, unless it holds bytes. -/
def document? : Cell → Option Document
  | .null => some .null
  | .integer n => some (.int n)
  | .real x => some (.float x)
  | .text s => some (.text s)
  | .garbled _ | .blob _ => none

/-- Whether a cell counts as true. -/
def isTrue : Cell → Bool
  | .null => false
  | .integer n => n != 0
  | .real x => !x.equalInt 0
  | .text s => !s.isEmpty
  | .garbled bytes | .blob bytes => !bytes.isEmpty

/-- The document that a JSON text in a cell denotes. -/
def readBack : Cell → Except Error Document
  | .text s => (Json.read (s : Text).toList).mapError .notJson
  | .blob bytes => do
    (Json.read (← (Json.decode bytes).mapError .undecodable)).mapError .notJson
  | .garbled _ => .error .garbled
  | _ => .error .notText

end Cell

/-- The record of the cells in which an entry stands, unless one of them holds bytes. -/
def recordOf : List Cell → Except Error (Option Document)
  | [lineNumber, line, matched, uuid, name, values, tags, contentHash] => do
    let values ← values.readBack
    let tags ← tags.readBack
    return do some <| .mapping [
      ("line_number", ← lineNumber.document?), ("line", ← line.document?),
      ("matched", .bool matched.isTrue), ("uuid", ← uuid.document?), ("name", ← name.document?),
      ("values", values), ("tags", tags), ("content_hash", ← contentHash.document?)]
  | _ => .error .unknown

/-- The records of rows.  No row is looked at unless the texts of all are characters, and bytes are
found last. -/
def recordsOf (rows : List (List Cell)) : Except Error (List Document) := do
  if rows.any (·.any (· matches .garbled _)) then .error .garbled
  else
    let records ← rows.mapM recordOf
    match records.mapM id with
    | some found => return found
    | none => .error .bytes

end LogTemplate.Sink
