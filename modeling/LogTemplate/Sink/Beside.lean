import LogTemplate.Sink.Image.Journal
import LogTemplate.Sink.Image.Log

/-!
# What lies beside a database

While a database is used, files lie beside its own, whose names go on where its name ends.  They are
made and removed by those who use the database; one that was left by others, or put there, is taken
for what its name says.  An empty file counts as none.
-/

namespace LogTemplate.Sink

/-- What may lie beside the file of a database. -/
inductive Beside where
  /-- What undoes a change that is under way. -/
  | journal
  /-- Changes that are logged ahead. -/
  | log
  /-- Where the pages in a log are. -/
  | index
  /-- A directory that keeps others off. -/
  | lock
  deriving DecidableEq, Repr

namespace Beside

/-- What follows the name of a database in the name of what lies beside it. -/
def ending : Beside → String
  | .journal => "-journal"
  | .log => "-wal"
  | .index => "-shm"
  | .lock => ".lock"

/-- Where something lies beside a database at a place. -/
def place (b : Beside) (database : List String) : List String :=
  database.dropLast ++ [database.getLastD "" ++ b.ending]

/-- What lies beside a database. -/
def node? (b : Beside) (w : Workspace) (database : List String) : Option Node :=
  w.node? (b.place database)

/-- Whether something lies beside a database. -/
def isIn (b : Beside) (w : Workspace) (database : List String) : Bool :=
  match b.node? w database with
  | some .directory => true
  | some (.file content) => !content.toBytes.isEmpty
  | none => false

/-- Whether a directory lies beside a database. -/
def isDirectory (b : Beside) (w : Workspace) (database : List String) : Bool :=
  (b.node? w database).any Node.isDirectory

/-- Whether a file can lie beside a database. -/
def fits (b : Beside) (w : Workspace) (database : List String) : Bool :=
  !b.isDirectory w database
    && (database.getLastD "" ++ b.ending).utf8ByteSize ≤ Workspace.nameLimit

/-- The bytes of the file beside a database. -/
def bytes (b : Beside) (w : Workspace) (database : List String) : List UInt8 :=
  match b.node? w database with
  | some (.file content) => content.toBytes
  | _ => []

/-- Puts a file beside a database. -/
def write (b : Beside) (w : Workspace) (database : List String) (content : Content) : Workspace :=
  w.write (b.place database) content

/-- Takes away the file beside a database; a directory stays. -/
def drop (b : Beside) (w : Workspace) (database : List String) : Workspace :=
  if b.isDirectory w database then w else w.dropNode (b.place database)

end Beside

/-- Whether the file of a database is empty.  One of one byte is taken for an empty one. -/
def isVoid (w : Workspace) (database : List String) : Bool :=
  match w.node? database with
  | some (.file content) => content.toBytes.length ≤ 1
  | _ => false

/-- What the file of a database holds once the changes in the log beside it are in it. -/
def loggedContent (w : Workspace) (database : List String) (content : Content) : Content :=
  match Beside.log.node? w database, content with
  | some (.file (.log held)), _ => .database held
  | some (.file (.bytes log)), .bytes bytes => .bytes (Log.apply log bytes)
  | _, _ => content

/-- What the journal beside a database says. -/
inductive Leftover where
  /-- There is nothing to undo. -/
  | nothing
  /-- It belongs to no database, since that is empty. -/
  | void
  /-- It cannot be read. -/
  | unreadable
  /-- A change did not come to its end. -/
  | change (journal : List UInt8)

/-- What was left beside a database.  A journal that starts with a zero is not finished itself. -/
def Leftover.of (w : Workspace) (database : List String) : Leftover :=
  if !Beside.journal.isIn w database then .nothing
  else if isVoid w database then .void
  else if Beside.journal.isDirectory w database then .unreadable
  else
    let journal := Beside.journal.bytes w database
    if journal.head? == some 0 then .nothing else .change journal

end LogTemplate.Sink
