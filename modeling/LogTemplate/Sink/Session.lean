import LogTemplate.Sink
import LogTemplate.Sink.Beside
import LogTemplate.Sink.Change
import LogTemplate.Sink.Image.Schema
import LogTemplate.Sink.JsonLines
import LogTemplate.Sink.Row
import LogTemplate.Sink.Search
import LogTemplate.Sink.Sense

/-!
# Sinks in a workspace

A session is a workspace together with the sinks that are in use there, each under a name.  What a
sink adds to a database is seen by others once it is committed.  A database on which one sink holds
back additions takes none from another, and one that was read within a batch does not change before
the batch ends, unless it logs changes ahead: then the batch goes on to read what it has read.
While a batch waits for others to end theirs, no other sink begins to read.
-/

namespace LogTemplate.Sink

/-- A workspace and the sinks that are in use there. -/
structure Session where
  workspace : Workspace := {}
  sinks : List (String × Sink) := []
  /-- The databases in memory that have names, each with the kind of place where it lies. -/
  shared : List ((String × String) × Database) := []

namespace Session

/-- The sink of a name. -/
def get? (s : Session) (name : String) : Option Sink := OrderedMap.lookup name s.sinks

/-- Gives a sink a name. -/
def bind (s : Session) (name : String) (sink : Sink) : Session :=
  { s with sinks := OrderedMap.set name sink s.sinks }

/-- The open connections of other sinks to a database. -/
def others (s : Session) (name : String) (c : Connection) : List Connection :=
  s.sinks.filterMap fun (other, sink) =>
    match sink with
    | .table { connection := some d, .. } =>
      if other != name && d.store.isSame c.store then some d else none
    | _ => none

/-- Those that keep off a sink, and it off them. -/
def rivals (s : Session) (name : String) (c : Connection) : List Connection :=
  (s.others name c).filter c.isRival

/-- Those that share with a sink what they know of its database. -/
def mates (s : Session) (name : String) (c : Connection) : List Connection :=
  (s.others name c).filter c.isMate

/-- Whether a sink may not begin to read a database. -/
def isBlocked (s : Session) (name : String) (c : Connection) : Bool :=
  let mates := s.mates name c
  mates.any (·.batch.isWaiting)
    || (mates.all (·.batch.snapshot.isNone) && (s.rivals name c).any (·.isInTheWay))

/-- The database that a file holds. -/
def databaseOf : Content → Except Error Database
  | .database database => .ok database
  | .bytes bytes => Database.ofBytes bytes
  | .log _ => .error .notDatabase

/-- Whether a file has fewer bytes than a database; of one that sinks have changed that is not
known. -/
def isShorter (content : Content) (size : Nat) : Bool :=
  match content with
  | .bytes bytes => bytes.length < size
  | _ => false

/-- The database in a file of which a sink still knows the heading, and maybe all that it holds.
Pages of another size are none that it knows. -/
def foundAgain (content : Content) (stamp : Stamp) (size : Nat) (known : Option Database) :
    Except Error Database := do
  if isShorter content (size * stamp.pages) then .error .notDatabase
  else match known with
    | some d => return d
    | none =>
      let d ← databaseOf content
      if d.pageSize == size then return d else .error .notDatabase

/-- Whether a sink can use a log of the changes of a database: those who read one have to know of
each other. -/
def canUseLog (w : Workspace) (c : Connection) (place : List String) : Bool :=
  c.locking != .absent && c.locking != .whole && Beside.log.fits w place

/-- A database in a file as a sink finds it.  What it has read last serves as long as the heading
says that the database has not changed since, and for ever if it is said never to change.  A log
that lies beside the file counts whatever the heading says of that. -/
def found (w : Workspace) (c : Connection) (place : List String) (content : Content) :
    Except Error Database := do
  if c.locking == .immutable then
    match c.cached, c.heading with
    | some known, _ => return known
    | none, some (stamp, size) => foundAgain content stamp size none
    | none, none => databaseOf content
  else if Beside.log.isIn w place && !canUseLog w c place then .error .cannotOpen
  else
    let d ← databaseOf (loggedContent w place content)
    if d.keepsLog || Beside.log.isIn w place then
      if !canUseLog w c place then .error .cannotOpen
      else return { d with
        isLogged := true
        isReadOnly := d.isReadOnly || Beside.index.isDirectory w place }
    else match c.heading with
      | some (stamp, size) =>
        if stamp == d.stamp then
          foundAgain content stamp size (c.cached.filter (·.stamp == d.stamp))
        else return d
      | none => return d

/-- What a database holds for all to see. -/
def committed (s : Session) (c : Connection) : Except Error Database :=
  match c.store with
  | .memory database => .ok database
  | .shared storage name => .ok ((s.shared.lookup (storage, name)).getD {})
  | .file place =>
    match s.workspace.node? place with
    | some (.file content) => found s.workspace c place content
    | some .directory => .error .notDatabase
    | none => .ok {}

/-- What was left beside the database of a sink.  It does not count while another one changes the
database, nor where changes are logged ahead. -/
def leftover (s : Session) (name : String) (c : Connection) (place : List String) : Leftover :=
  let isHeld := (s.others name c).any fun d => d.locking == .ordinary && d.batch.pending.isSome
  if c.usesLog || (s.mates name c).any (·.usesLog) || c.locking == .whole
      || (isHeld && c.storage != "unix-none") then .nothing
  else Leftover.of s.workspace place

/-- Why a sink cannot begin to read a database because of what lies beside that. -/
def hindrance? (s : Session) (name : String) (c : Connection) : Option Error :=
  match c.store with
  | .file place =>
    if c.locking == .immutable then none
    else if c.locking == .whole && (Beside.lock.node? s.workspace place).isSome then some .locked
    else match s.leftover name c place with
      | .unreadable => some .cannotOpen
      | .change _ => some (if c.isReadOnly then .readOnly else .locked)
      | .nothing | .void =>
        if isVoid s.workspace place && Beside.log.isIn s.workspace place then some .cannotOpen
        else none
  | _ => none

/-- Whether a sink begins to read a database when it looks at it. -/
def begins (s : Session) (name : String) (c : Connection) : Bool :=
  c.batch.pending.isNone && c.batch.snapshot.isNone && !s.isBlocked name c
    && (s.mates name c).all (·.batch.snapshot.isNone)

/-- What a database holds for one sink. -/
def view (s : Session) (name : String) (c : Connection) : Except Error Database :=
  match c.batch.pending, c.batch.snapshot with
  | some database, _ | none, some database => .ok database
  | none, none =>
    if s.isBlocked name c then .error .locked
    else match (s.mates name c).findSome? (·.batch.snapshot) with
      | some database => .ok database
      | none =>
        match s.hindrance? name c with
        | some e => .error e
        | none => s.committed c

/-- Whether a sink has read a state of its database that is not the last one, where that may be. -/
def isStale (s : Session) (c : Connection) : Bool :=
  match c.batch.snapshot, s.committed c with
  | some read, .ok last => last.isLogged && read.stamp != last.stamp
  | _, _ => false

/-- Whether a sink can begin to change its database. -/
def checkHold (s : Session) (name : String) (c : Connection) : Except Error Unit :=
  if c.isReadOnly || (s.committed c).toOption.any (·.isReadOnly) then .error .readOnly
  else if c.batch.pending.isNone &&
      ((s.rivals name c ++ s.mates name c).any (·.batch.pending.isSome)
      || s.isStale c) then .error .locked
  else .ok ()

/-- Whether a database must not change because others read it. -/
def isRead (s : Session) (name : String) (c : Connection) (d : Database) : Bool :=
  !d.isLogged && (s.rivals name c).any (·.batch.snapshot.isSome)

/-- Binds the sink of a table with a connection. -/
def setConnection (s : Session) (name : String) (t : TableSink) (c : Connection) : Session :=
  s.bind name (.table { t with connection := some c })

/-- Notes for the sink of a name what came of what its database was told. -/
def note {α : Type} (s : Session) (name : String) (outcome : Except Error α) : Session :=
  match s.get? name with
  | some (.table t) =>
    s.bind name (.table { t with connection := t.connection.map (·.note outcome) })
  | _ => s

/-- Changes the other open connections to a database. -/
def tell (s : Session) (name : String) (c : Connection) (f : Connection → Connection) : Session :=
  { s with sinks := s.sinks.map fun (other, sink) =>
      match sink with
      | .table t =>
        match t.connection with
        | some d =>
          if other != name && d.store.isSame c.store then
            (other, .table { t with connection := some (f d) })
          else (other, sink)
        | none => (other, sink)
      | _ => (other, sink) }

/-- Removes what is beside a file while it is changed.  Sinks that do not keep off each other may
lose it to each other. -/
def dropJournals (s : Session) (name : String) (c : Connection) : Session :=
  if c.store.isFile then
    s.tell name c fun d => { d with batch := { d.batch with hasJournal := false } }
  else s

/-- Ends the waiting of the one that waits, if no one else who shares its cache reads or changes the
database. -/
def wake (s : Session) (name : String) (c : Connection) : Session :=
  let busy := (s.mates name c).filter (·.batch.snapshot.isSome)
  if c.batch.snapshot.isSome && busy.length == 1 then
    s.tell name c fun d =>
      if c.isMate d then { d with batch := { d.batch with isWaiting := false } } else d
  else s

/-- What others notice when the batch of a sink ends. -/
def release (s : Session) (name : String) (c : Connection) : Session :=
  let s := s.wake name c
  match c.store, c.batch.pending with
  | .file place, some d =>
    let s := s.dropJournals name c
    if d.isLogged then s
    else { s with workspace := Beside.journal.drop s.workspace place }
  | _, _ => s

/-- Shows a database to those who share what they know of it and are reading it. -/
def reveal (s : Session) (name : String) (c : Connection) (d : Database) : Session :=
  s.tell name c fun mate =>
    if c.isMate mate then
      { mate with batch := { mate.batch with snapshot := mate.batch.snapshot.map fun _ => d } }
    else mate

/-- Makes a database what it is to be. -/
def store (s : Session) (name : String) (t : TableSink) (c : Connection) (d : Database) : Session :=
  let d := d.changed
  let s := s.reveal name c d
  match c.store with
  | .memory _ => s.setConnection name t { c with store := .memory d }
  | .shared storage key =>
    { s.setConnection name t c with
      shared := ((storage, key), d) :: s.shared.filter (·.1 != (storage, key)) }
  | .file place =>
    let w := s.workspace
    { (s.setConnection name t { c.look d with cached := some d }).dropJournals name c with
      workspace :=
        if d.isLogged then Beside.log.write w place (.log d)
        else Beside.journal.drop (w.write place (.database d)) place }

/-- What a database becomes by a batch.  Others may have changed it since the batch began, if they
do not keep off each other. -/
def outcome (s : Session) (c : Connection) (d : Database) : Database :=
  match c.batch.snapshot, s.committed { c with cached := none } with
  | some base, .ok now => if base.stamp == now.stamp then d else d.rebased base now
  | _, _ => d

/-- Whether a change of a database could be undone if it did not come to its end. -/
def canUndo (s : Session) (c : Connection) (d : Database) : Bool :=
  match c.store with
  | .file place => d.isLogged || Beside.journal.fits s.workspace place
  | _ => true

/-- Whether what is needed to take back a batch, or another one, is beside a file. -/
def hasJournal (s : Session) (name : String) (c : Connection) : Bool :=
  (c :: s.others name c).any fun c => c.batch.pending.isSome && c.batch.hasJournal

/-- Ends a batch: commits what was added, if something was. -/
def commit (s : Session) (name : String) (t : TableSink) (c : Connection) :
    Session × Except Error Unit :=
  let done : Connection := { c with batch := {} }
  match c.batch.pending with
  | none => ((s.setConnection name t done).release name c, .ok ())
  | some database =>
    if s.isRead name c database then
      (s.setConnection name t { c with batch := { c.batch with isBlocking := true } },
        .error .locked)
    else
      let hasJournal := s.hasJournal name c || database.isLogged
      ((s.store name t done (s.outcome c database)).release name c,
        if hasJournal then .ok () else .error .noJournal)

/-- What a sink notes of a table that it is about to change: that it has taken hold of the database,
and has changed the table unless others who share its cache have read that. -/
def holdTable (s : Session) (name : String) (t : TableSink) (c : Connection) (d : Database) :
    Connection × Except Error Unit :=
  let isRead := (s.mates name c).any fun mate =>
    mate.batch.reads.any (Definition.sameName t.table)
  let batch := { c.batch with
    snapshot := some (c.batch.snapshot.getD d)
    pending := some d
    hasJournal := c.batch.hasJournal || c.batch.pending.isNone
    isWaiting := isRead
    writes := if isRead then c.batch.writes else t.table :: c.batch.writes }
  ({ c with batch }, if isRead then .error .locked else .ok ())

/-- Ends a batch of which everything is taken back. -/
def dropBatch (s : Session) (name : String) (t : TableSink) (c : Connection) : Session :=
  (s.setConnection name t { c with batch := {} }).release name c

/-- The table or view of a sink, as far as statements can make sense of it. -/
def seenIn (d : Database) (table : String) : Seen where
  selects := (d.relation? table).any Wanted.canSelect
  inserts := d.canAdd table Definition.entryColumns

/-- The database on which a statement works, and what its sink knows of it from then on.  For a sink
that has seen no such table there is none as long as it cannot look. -/
def find (s : Session) (name : String) (t : TableSink) (c : Connection) (statement : Statement) :
    Connection × Except Error Database :=
  if TableName.isReservedWord t.table then (c, .error (.reservedName t.table))
  else
    match s.view name c with
    | .error e =>
      (c, .error (if c.seen.any (!·.admits statement) then .noTable t.table else e))
    | .ok database =>
      let seen := seenIn database t.table
      let seen := if c.locking == .immutable then c.seen.getD seen else seen
      let outcome := if seen.admits statement then .ok database
        else if database.hasTable t.table then .error (.otherTable t.table)
        else .error (.noTable t.table)
      ({ c.look database with seen := some seen }, outcome)

end Session

end LogTemplate.Sink
