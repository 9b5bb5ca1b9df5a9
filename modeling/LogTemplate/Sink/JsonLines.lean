import LogTemplate.Json.Reader
import LogTemplate.Json.Writer
import LogTemplate.Sink.Error
import LogTemplate.Text.Lines

/-!
# Records as lines of JSON

A file of records holds one JSON text on each line.  Whoever has opened such a file for writing goes
on at a place of its own, whatever else happens to the file.
-/

namespace LogTemplate.Sink.JsonLines

variable [Nesting]

/-- The line of a record. -/
def line (record : Document) : List CodePoint := Json.write Json.plain record ++ [.char '\n']

/-- The bytes of the lines of records, up to the first record whose line has none. -/
def encode : List Document → List UInt8 × Except Error Unit
  | [] => ([], .ok ())
  | record :: rest =>
    match Text.chars (line record) with
    | .error stray => ([], .error (.unencodable stray))
    | .ok chars =>
      let (bytes, outcome) := encode rest
      (Text.Utf8.encode chars ++ bytes, outcome)

/-- What a query asks of a record: the value of a member, for the UUID and for whether the line was
matched. -/
structure Filter where
  uuid : Option Document := none
  matched : Option Document := none

/-- The filter of a document; other members do not count. -/
def Filter.ofDocument (d : Document) : Filter := ⟨d.get? "uuid", d.get? "matched"⟩

/-- Whether a record has a member of the value that a filter asks for, if it asks for one. -/
def meets (key : String) (wanted : Option Document) (record : Document) : Except Error Bool :=
  match wanted with
  | none => .ok true
  | some value =>
    match record with
    | .mapping _ => .ok ((record.get key).same value)
    | _ => .error .noMembers

/-- Whether a record passes a filter. -/
def Filter.admits (f : Filter) (record : Document) : Except Error Bool := do
  if ← meets "uuid" f.uuid record then meets "matched" f.matched record else return false

/-- The records on some lines that pass a filter. -/
def select (f : Filter) : List (List CodePoint) → Except Error (List Document)
  | [] => .ok []
  | line :: rest =>
    if Text.isAllBlank line then select f rest
    else do
      let record ← (Json.read line).mapError .notJson
      let isAdmitted ← f.admits record
      let records ← select f rest
      return if isAdmitted then record :: records else records

/-- The records in the bytes of a file that pass a filter. -/
def query (f : Filter) (bytes : List UInt8) : Except Error (List Document) :=
  match Text.Utf8.decodeText bytes with
  | .error fault => .error (.notUtf8 fault)
  | .ok text => select f (Text.linesWithEnds (Text.unifyBreaks text))

end LogTemplate.Sink.JsonLines
