import LogTemplate.Sink.Locator
import LogTemplate.Sink.Recovery

/-!
# Opening and closing sinks

A sink of JSON lines starts with an empty file.  A sink of a database makes its table and the index
to it if they are missing, and empties the table if it is meant to.  Closing a sink writes the lines
that it holds back, and drops what it has not committed.
-/

namespace LogTemplate.Sink.Session

/-- Whether a sink can change what tables its database has, for others to see. -/
def checkChange (s : Session) (name : String) (c : Connection) (d : Database) :
    Except Error Unit := do
  s.checkHold name c
  if !s.canUndo c d then .error .cannotOpen
  else if s.isRead name c d || (s.mates name c).any (·.batch.snapshot.isSome) then .error .locked

/-- The connection of a sink, after changes that may have replaced it. -/
def connection? (s : Session) (name : String) : Option (TableSink × Connection) :=
  match s.get? name with
  | some (.table t) => t.connection.map (t, ·)
  | _ => none

/-- Makes the table of a sink if it is missing. -/
def ensureTable (s : Session) (name : String) (t : TableSink) (c : Connection) :
    Except Error Session := do
  if TableName.isReserved t.table then .error (.reservedName t.table)
  else
    let database ← s.view name c
    if database.hasTable t.table then
      return s.setConnection name t { c.look database with seen := some (seenIn database t.table) }
    else if database.hasIndex t.table then .error (.nameTaken t.table)
    else
      s.checkHold name c
      if TableName.isMisread t.table then .error (.malformed t.table)
      else
        s.checkChange name c database
        return s.store name t { c with seen := some ⟨true, true⟩ } (database.addTable t.table)

/-- Makes the index to the table of a sink if it is missing.  It is an index by UUIDs, which only a
table can have that has a column for them. -/
def ensureIndex (s : Session) (name : String) (t : TableSink) (c : Connection) :
    Except Error Session := do
  let database ← s.view name c
  let index := Database.indexName t.table
  match database.table? t.table with
  | none => .error (.otherTable t.table)
  | some found =>
    if database.hasTable index then .error (.nameTaken index)
    else if database.hasIndex index then return s
    else if (found.definition.column? "uuid").isNone then .error (.otherTable t.table)
    else
      s.checkChange name c database
      if found.isBroken then .error .broken
      return s.store name t c (database.addIndex t.table)

/-- Makes the table of a sink and the index to it, if they are missing. -/
def makeTable (s : Session) (name : String) (t : TableSink) (c : Connection) :
    Session × Except Error Unit :=
  let s := s.setConnection name t c
  match s.ensureTable name t c with
  | .error e =>
    let seen := (s.view name c).toOption.map fun _ => (⟨false, false⟩ : Seen)
    (s.setConnection name t { c with seen }, .error e)
  | .ok s =>
    match s.connection? name with
    | none => (s, .ok ())
    | some (t, c) =>
      match s.ensureIndex name t c with
      | .error e => (s, .error e)
      | .ok s => (s, .ok ())

/-- Empties the table of a sink.  A view cannot be emptied. -/
def emptyTable (s : Session) (name : String) (t : TableSink) (c : Connection) :
    Session × Except Error Unit :=
  match s.view name c with
  | .error e => (s, .error e)
  | .ok database =>
    match database.table? t.table with
    | none => (s, .error (.otherTable t.table))
    | some found =>
      if !database.canFollow .deletion t.table then (s, .error .unknown) else
      let c := c.begin
      match s.checkHold name c with
      | .error e => (s.setConnection name t c, .error e)
      | .ok () =>
        match s.holdTable name t c database with
        | (c, .error e) => (s.setConnection name t c, .error e)
        | (c, .ok ()) =>
          if found.isBroken then (s.setConnection name t c, .error .broken)
          else if !s.canUndo c database then (s.setConnection name t c, .error .cannotOpen)
          else match database.clear t.table with
            | (some changed, none) =>
              s.commit name t { c with batch := { c.batch with pending := some changed } }
            | (some changed, some e) =>
              (s.setConnection name t
                { c with batch := { c.batch with pending := some changed } }, .error e)
            | (none, e) => (s.dropBatch name t c, .error (e.getD .refused))

/-- The bytes that the text of a database's place has to stay below. -/
def placeLimit : Nat := 512

/-- The place that names lead to from a directory, where a double dot takes away the name before it
even if no directory has that.  Whatever is on the way is looked up, and may be missing. -/
def trace (w : Workspace) (place : List String) : List String → Except Error (List String)
  | [] => .ok place
  | name :: rest =>
    if name == ".." then trace w place.dropLast rest
    else
      let next := place ++ [name]
      if placeLimit ≤ ("/".intercalate next).utf8ByteSize + 1 then .error .cannotOpen
      else match w.walk [] next with
        | .ok _ | .error .missing => trace w next rest
        | .error _ => .error .cannotOpen

/-- Where the file of a database lies.  A missing file is made, if it may be, in a directory that is
there. -/
def openFile (s : Session) (l : Locator) : Except Error (Session × List String) := do
  let p := Path.ofText l.name
  let place ← trace s.workspace (if p.root.isEmpty then s.workspace.home else []) p.names
  match s.workspace.node? place, s.workspace.node? place.dropLast with
  | some (.file _), _ => return (s, place)
  | none, some .directory =>
    if l.access == .create then
      return ({ s with workspace := s.workspace.write place (.bytes []) }, place)
    else .error .cannotOpen
  | _, _ => .error .cannotOpen

/-- A connection that shares what another one knows of a database is like that one. -/
def likeMate (s : Session) (name : String) (c : Connection) : Connection :=
  match s.mates name c with
  | mate :: _ => { c with isReadOnly := mate.isReadOnly, locking := mate.locking }
  | [] => c

/-- Opens a database, which has no table yet. -/
def openStore (s : Session) (name : String) (path : Option String) :
    Except Error (Session × Connection) := do
  match path with
  | none => .error .wrongArgument
  | some text =>
    if text.toList.contains '\x00' then .error (.file ⟨.zeroInPath, text⟩)
    else
      let l ← Locator.ofText text
      let connect := fun (store : Store) => ({
        store
        storage := l.storage
        sharesCache := l.isShared
        locking := l.locking
        isReadOnly := l.access == .read } : Connection)
      if l.isAlone then return (s, { connect (.memory {}) with sharesCache := false })
      else if l.isNamedMemory then
        if l.isFound then
          return (s, s.likeMate name (connect (.shared l.storage l.name)))
        else return (s, connect (.memory {}))
      else
        let (s, place) ← s.openFile l
        let c := connect (.file place)
        return (s, s.likeMate name { c with isReadOnly := c.isReadOnly || l.isImmutable })

/-- What others notice when a sink is closed. -/
def leave (s : Session) (name : String) : Session :=
  match s.connection? name with
  | some (_, c) => (s.release name c).dropLog name c
  | none => s

/-- A sink knows of its table what those have found who share with it what they know. -/
def learn (s : Session) (name : String) (t : TableSink) (c : Connection) : Connection :=
  if (s.mates name c).any (·.seen.isSome) then
    { c with seen := (s.committed c).toOption.map (seenIn · t.table) }
  else c

/-- Opens a sink that writes to a table. -/
def openTable (s : Session) (name : String) (t : TableSink) : Session × Except Error Unit :=
  match s.openStore name t.path with
  | .error e => (s, .error e)
  | .ok (s, c) =>
    let s := s.leave name
    let (s, c) := s.recover name (s.learn name t c)
    match s.makeTable name t c with
    | (s, .error e) => (s, .error e)
    | (s, .ok ()) =>
      match s.connection? name with
      | some (t, c) => if t.empties then s.emptyTable name t c else (s, .ok ())
      | none => (s, .ok ())

/-- Writes what a sink holds back of lines, if it does. -/
def flush (s : Session) : Sink → Session
  | .lines { handle := some handle, .. } => { s with workspace := handle.flush s.workspace }
  | _ => s

/-- Opens a sink of JSON lines: makes the directories of its file, and empties the file.  Lines that
it has held back are written only then, where they would have stood. -/
def openLines (s : Session) (name : String) (sink : LineSink) : Session × Except Error Unit :=
  match s.workspace.ensureParent sink.path with
  | .error e => (s, .error (.file e))
  | .ok w =>
    match w.writable sink.path with
    | .error fault => ({ s with workspace := w }, .error (.file ⟨fault, sink.path.text⟩))
    | .ok place =>
      let s := { s with workspace := w.write place (.bytes []) }.flush (.lines sink)
      (s.bind name (.lines { sink with handle := some { place, offset := 0 } }), .ok ())

/-- Opens the sink of a name. -/
def connect (s : Session) (name : String) : Session × Except Error Unit :=
  match s.get? name with
  | none => (s, .error (.noSink name))
  | some (.lines sink) => s.openLines name sink
  | some (.table t) => s.openTable name t

/-- A sink that is closed; what it has added and not committed is lost. -/
def shut : Sink → Sink
  | .lines sink => .lines { sink with handle := none }
  | .table t => .table { t with connection := none }

/-- Whether a sink uses a database in memory that has a name. -/
def uses (storage key : String) : Sink → Bool
  | .table { connection := some c, .. } => c.store.isSame (.shared storage key)
  | _ => false

/-- Drops the databases in memory that no sink uses. -/
def dropUnused (s : Session) : Session :=
  { s with shared := s.shared.filter fun ((storage, key), _) =>
      s.sinks.any fun (_, sink) => uses storage key sink }

/-- Closes the sink of a name. -/
def close (s : Session) (name : String) : Session × Except Error Unit :=
  match s.get? name with
  | none => (s, .error (.noSink name))
  | some sink => ((((s.leave name).flush sink).bind name (shut sink)).dropUnused, .ok ())

end LogTemplate.Sink.Session
