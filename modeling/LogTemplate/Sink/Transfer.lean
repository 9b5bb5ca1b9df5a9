import LogTemplate.Sink.Recovery

/-!
# Writing and reading records

A batch of records is written to a sink as a whole: one line for each record, or one row, unless its
hash is in the table.  If a record cannot become a row, the rows before it are added but not
committed.  A query gives the records that pass a filter.
-/

namespace LogTemplate.Sink.Session

variable [Nesting]

/-- Writes records as lines.  The lines before one that cannot be encoded are held back. -/
def writeLines (s : Session) (name : String) (sink : LineSink) (records : List Document) :
    Session × Except Error Unit :=
  match sink.handle with
  | none => (s, .error .notOpen)
  | some handle =>
    let (bytes, outcome) := JsonLines.encode records
    let handle := handle.hold bytes
    match outcome with
    | .error e => (s.bind name (.lines { sink with handle := some handle }), .error e)
    | .ok () =>
      ({ s with workspace := handle.flush s.workspace }.bind name
        (.lines { sink with handle := some handle.flushed }), .ok ())

/-- Adds rows to a table one by one, up to the first record that makes none or is refused.  There is
no database if everything is taken back. -/
def addRows (d : Database) (table : String) : List Prepared → Option Database × Except Error Unit
  | [] => (some d, .ok ())
  | record :: rest =>
    match record.cells with
    | .error e => (some d, .error e)
    | .ok cells =>
      match d.add table cells with
      | (some changed, none) => addRows changed table rest
      | (changed, e) => (changed, .error (e.getD .refused))

/-- Whether no record is bound before the first that cannot be. -/
def bindsNone (records : List Prepared) : Bool :=
  match records with
  | [] => true
  | record :: _ => record.cells.toOption.isNone

/-- What is reported for arguments of which one cannot be bound.  If it is the first, it is why the
database did not do what it was last told, if it did not; to bind an argument is to tell the
database something. -/
def unbound (c : Connection) (first : Option Document) (e : Error) : Connection × Error :=
  match first.map fun d => Sink.bind "" (some d) with
  | none => (c, e)
  | some (.error _) => (c, c.failure.getD e)
  | some (.ok _) => ({ c with failure := none }, e)

/-- Writes records of which none gets as far as the table. -/
def writeNoRows (s : Session) (name : String) (t : TableSink) (c : Connection)
    (records : List Prepared) : Session × Except Error Unit :=
  let (s, c, outcome) :=
    if c.isReady .insert then (s, c, .ok ())
    else
      let (s, c) := s.recover name c
      let (seen, found) := s.find name t c .insert
      (s, seen, found.map fun _ => ())
  match outcome with
  | .error e => (s.setConnection name t c, .error e)
  | .ok () =>
    let c := (c.remember .insert).begin
    match records.mapM Prepared.cells with
    | .error e =>
      let (c, e) := unbound c (records.head?.bind (·.record.get? "line_number")) e
      (s.setConnection name t c, .error e)
    | .ok _ => s.commit name t c

/-- Takes hold of a database, so that no other sink adds to it. -/
def hold (s : Session) (name : String) (t : TableSink) (c : Connection) : Connection :=
  match s.checkHold name c, s.view name c with
  | .ok (), .ok database => (s.holdTable name t c database).1
  | _, _ => c

/-- Writes prepared records as rows of a table.  The rows before one that cannot be bound are added
and stay uncommitted.  A sink whose table is gone finds that out when it has taken hold of the
database.  One that only reads does not look at it first. -/
def writePrepared (s : Session) (name : String) (t : TableSink) (c : Connection)
    (records : List Prepared) : Session × Except Error Unit :=
  if c.isReadOnly && c.isReady .insert then
    (s.setConnection name t (c.remember .insert).begin, .error .readOnly)
  else
    let (s, c) := s.recover name c
    let (seen, found) := s.find name t c .insert
    match found with
    | .error e =>
      let left := if c.isReady .insert then s.hold name t (seen.remember .insert).begin else seen
      (s.setConnection name t left, .error e)
    | .ok database =>
      let c := (seen.remember .insert).begin
      match s.checkHold name c with
      | .error e => (s.setConnection name t c, .error e)
      | .ok () =>
        match s.holdTable name t c database with
        | (c, .error e) => (s.setConnection name t c, .error e)
        | (c, .ok ()) =>
          let isBroken := (database.table? t.table).any Table.isBroken
          let added := if isBroken then (some database, .error .broken)
            else if !s.canUndo c database then (some database, .error .cannotOpen)
            else addRows database t.table records
          match added with
          | (none, outcome) => (s.dropBatch name t c, outcome)
          | (some changed, outcome) =>
            let c := { c with batch := { c.batch with pending := some changed }, failure := none }
            match outcome with
            | .error e => (s.setConnection name t c, .error e)
            | .ok () => s.commit name t c

/-- Writes records as rows of a table.  No row is added unless all records can be prepared. -/
def writeRows (s : Session) (name : String) (t : TableSink) (records : List Document) :
    Session × Except Error Unit :=
  match records.mapM prepare with
  | .error e => (s, .error e)
  | .ok records =>
    match t.connection with
    | none => (s, .error .notOpen)
    | some c =>
      let (s, outcome) :=
        if bindsNone records then s.writeNoRows name t c records
        else s.writePrepared name t c records
      (s.note name outcome, outcome)

/-- Writes records to the sink of a name. -/
def write (s : Session) (name : String) (records : List Document) : Session × Except Error Unit :=
  match s.get? name with
  | none => (s, .error (.noSink name))
  | some (.lines sink) => s.writeLines name sink records
  | some (.table t) => s.writeRows name t records

/-- The records in a file of lines that pass a filter. -/
def queryLines (s : Session) (sink : LineSink) (f : JsonLines.Filter) :
    Except Error (List Document) :=
  match s.workspace.read sink.path with
  | .error fault => .error (.file ⟨fault, sink.path.text⟩)
  | .ok content => JsonLines.query f content.toBytes

/-- Binds what is asked for to its columns. -/
def wantedOf (uuid : Option Document) (matched : Option Int) : Except Error Wanted := do
  let uuid ← uuid.mapM fun d => Sink.bind "uuid" (some d)
  if matched.any (!fits ·) then .error .tooLarge else return { uuid, matched }

/-- The records of a table that are asked for. -/
def recordsIn (d : Database) (table : String) (wanted : Wanted) : Except Error (List Document) :=
  if (d.table? table).any Table.isBroken then .error .broken
  else match wanted.select d table with
    | .ok rows => recordsOf rows
    | .error (.ended _) => .error .refused
    | .error .unknown => .error .unknown

/-- What a sink notes of a database whose table it has read. -/
def noteRead (c : Connection) (table : String) (d : Database) : Connection :=
  let cached := if c.batch.pending.isSome then c.cached else some d
  if c.batch.isOpen then
    let batch := { c.batch with
      snapshot := some (c.batch.snapshot.getD d), reads := table :: c.batch.reads }
    { c with batch, cached }
  else { c with cached }

/-- Looks up the records of a table by UUID and by whether they matched.  A sink for which the
statement is ready binds what is asked for before it looks. -/
def lookUp (s : Session) (name : String) (t : TableSink) (c : Connection) (uuid : Option Document)
    (matched : Option Int) : Session × Except Error (List Document) :=
  let statement := Statement.select uuid.isSome matched.isSome
  let first := (uuid <|> matched.map Document.int)
  let isUnbound := c.isReady statement && (wantedOf uuid matched).toOption.isNone
  let (s, c) := if isUnbound then (s, c) else s.recover name c
  let (seen, found) := s.find name t c statement
  match found, wantedOf uuid matched with
  | .error e, outcome =>
    match c.isReady statement, outcome with
    | true, .error e =>
      let (known, e) := unbound (c.remember statement) first e
      (s.setConnection name t known, .error e)
    | true, .ok _ => (s.setConnection name t (seen.remember statement), .error e)
    | false, _ => (s.setConnection name t seen, .error e)
  | .ok _, .error e =>
    let (known, e) := unbound (seen.remember statement) first e
    (s.setConnection name t known, .error e)
  | .ok database, .ok wanted =>
    let c := seen.remember statement
    let isWritten := (s.mates name c).any fun mate =>
      mate.batch.writes.any (Definition.sameName t.table)
    if isWritten then (s.setConnection name t c, .error .locked)
    else
      (s.setConnection name t (noteRead c t.table database),
        recordsIn database t.table wanted)

/-- The records in a table that pass a filter. -/
def queryRows (s : Session) (name : String) (t : TableSink) (f : JsonLines.Filter) :
    Session × Except Error (List Document) :=
  match t.connection, f.matched.mapM integerOf with
  | none, _ => (s, .error .notOpen)
  | some _, .error e => (s, .error e)
  | some c, .ok matched =>
    let (s, outcome) := s.lookUp name t c f.uuid matched
    (s.note name outcome, outcome)

/-- The records in the sink of a name that pass a filter. -/
def query (s : Session) (name : String) (f : JsonLines.Filter) :
    Session × Except Error (List Document) :=
  match s.get? name with
  | none => (s, .error (.noSink name))
  | some (.lines sink) => (s, s.queryLines sink f)
  | some (.table t) => s.queryRows name t f

end LogTemplate.Sink.Session
