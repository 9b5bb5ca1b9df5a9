import LogTemplate.Sink.Session

/-!
# What a sink does about what lies beside its database

A sink that begins to read a database first undoes the change that was left unfinished, and makes
sure that there is a log if one is used.  The last sink that uses a log takes it away.
-/

namespace LogTemplate.Sink.Session

/-- A workspace once the change is undone that was left in the file of a database. -/
def undone (w : Workspace) (place : List String) (journal : List UInt8) : Workspace :=
  let w := Beside.journal.drop w place
  match w.node? place with
  | some (.file (.bytes bytes)) => w.write place (.bytes (Journal.undo journal bytes))
  | _ => w

/-- A workspace where a log lies beside a database, and an index to it. -/
def logged (w : Workspace) (place : List String) (hasIndex : Bool) : Workspace :=
  let w := match Beside.log.node? w place with
    | none => Beside.log.write w place (.bytes [])
    | some _ => w
  if hasIndex && !Beside.index.isDirectory w place then
    Beside.index.write w place (.bytes Log.indexHeading)
  else w

/-- Whether the heading of the file of a database says that changes are logged ahead. -/
def keepsLog (w : Workspace) (place : List String) : Bool :=
  match w.node? place with
  | some (.file (.bytes bytes)) => Image.isOfLogged bytes
  | some (.file (.database d)) => d.keepsLog
  | _ => false

/-- A workspace once what the log of a database holds is in the file of that, and the log is
gone. -/
def settled (w : Workspace) (place : List String) : Workspace :=
  let w := match w.node? place with
    | some (.file content) => w.write place (loggedContent w place content)
    | _ => w
  Beside.index.drop (Beside.log.drop w place) place

/-- A workspace as a sink leaves it that clears away the journal beside a database, and whether it
can go on. -/
def clearJournal (s : Session) (name : String) (c : Connection) (place : List String) :
    Workspace × Bool :=
  let w := s.workspace
  match s.leftover name c place with
  | .nothing => (w, true)
  | .void => (if c.isReadOnly then w else Beside.journal.drop w place, true)
  | .unreadable => (w, false)
  | .change journal =>
    let isUsed := (s.rivals name c).any fun d => d.batch.snapshot.isSome || d.usesLog
    if c.isReadOnly || isUsed then (w, false)
    else (undone w place journal, true)

/-- The kind of place whose files one program has for itself, so that no index lies there. -/
def ownStorage : String := "unix-excl"

/-- What a sink does before it reads a database. -/
def recover (s : Session) (name : String) (c : Connection) : Session × Connection :=
  match c.store with
  | .file place =>
    if c.locking == .immutable || !s.begins name c
        || (c.locking == .whole && (Beside.lock.node? s.workspace place).isSome) then (s, c)
    else
      let (w, isClear) := s.clearJournal name c place
      if !isClear then ({ s with workspace := w }, c)
      else if isVoid w place then
        let w := if Beside.log.isIn w place then Beside.log.drop w place else w
        ({ s with workspace := w }, c)
      else if !c.usesLog && (Beside.log.isIn w place || keepsLog w place) &&
          canUseLog w c place then
        let isFirst := (s.others name c).all (!·.usesLog)
        ({ s with workspace := logged w place (isFirst && c.storage != ownStorage) },
          { c with usesLog := true })
      else ({ s with workspace := w }, c)
  | _ => (s, c)

/-- What the last sink that uses a log does when it is closed.  One that only reads lets the log
be. -/
def dropLog (s : Session) (name : String) (c : Connection) : Session :=
  match c.store with
  | .file place =>
    let isLast := (s.others name c).all fun d => !d.usesLog && !c.isMate d
    let w := s.workspace
    if c.usesLog && isLast && !c.isReadOnly && !Beside.index.isDirectory w place then
      { s with workspace := settled w place }
    else s
  | _ => s

/-- The files as others find them, with the directories that keep them off databases. -/
def files (s : Session) : Workspace :=
  s.sinks.foldl (fun w (_, sink) =>
    match sink with
    | .table { connection := some { store := .file place, locking := .whole, batch, .. }, .. } =>
      if batch.snapshot.isSome then w.setNode (Beside.lock.place place) .directory else w
    | _ => w) s.workspace

end LogTemplate.Sink.Session
