import LogTemplate.Settings
import LogTemplate.Sink.Error
import LogTemplate.Sink.Expression.Token
import LogTemplate.Text.Identifier

/-!
# Sinks

Entries are written to a sink: a file of JSON lines, or a table of a database.  The path of the
destination, or the name of a kind, says which one is made; a sink is opened only later.

The name of a table has to be an identifier.  Some identifiers are words of the database's language,
or reserved for its own tables; they are refused when the table is used.
-/

namespace LogTemplate

namespace Sink

/-! ## Names of tables -/

namespace TableName

/-- Whether a name is a word of the database's language. -/
def isReservedWord (name : String) : Bool := Token.isReserved name

/-- Whether the definition of a table of a name, once stored, reads as another one. -/
def isMisread (name : String) : Bool := name.toList.map Char.toLower == "if".toList

/-- Whether no table of a name can be made. -/
def isReserved (name : String) : Bool :=
  isReservedWord name || "sqlite_".toList.isPrefixOf (name.toList.map Char.toLower)

/-- Refuses what is no identifier. -/
def check (name : Text) : Except Error String :=
  match name.string? with
  | some s => if Text.isIdentifier s.toList then .ok s else .error (.invalidTableName name)
  | none => .error (.invalidTableName name)

end TableName

/-! ## Files and tables -/

/-- A file that is open for writing: where it lies, and how many bytes lie before the place where
writing goes on. -/
structure Handle where
  place : List String
  offset : Nat
  /-- What is written there next: lines that came before one that could not be encoded. -/
  held : List UInt8 := []

namespace Handle

/-- Holds bytes back. -/
def hold (h : Handle) (bytes : List UInt8) : Handle := { h with held := h.held ++ bytes }

/-- What a handle is once it has written what it held back. -/
def flushed (h : Handle) : Handle where
  place := h.place
  offset := h.offset + h.held.length

/-- Writes what a handle holds back. -/
def flush (h : Handle) (w : Workspace) : Workspace :=
  if h.held.isEmpty then w
  else
    let bytes := match w.node? h.place with
      | some (.file content) => content.toBytes
      | _ => []
    w.write h.place (.bytes (overwrite h.offset h.held bytes))

end Handle

/-- A sink of JSON lines. -/
structure LineSink where
  path : Path
  handle : Option Handle := none

/-- Where a database lies. -/
inductive Store where
  | file (place : List String)
  /-- In memory, in a kind of place and under a name there. -/
  | shared (storage name : String)
  /-- In memory, for one sink alone. -/
  | memory (database : Database)

/-- Whether two sinks use the same database. -/
def Store.isSame : Store → Store → Bool
  | .file place, .file other => place == other
  | .shared storage name, .shared otherStorage other => storage == otherStorage && name == other
  | _, _ => false

/-- Whether a database lies in a file. -/
def Store.isFile : Store → Bool
  | .file _ => true
  | _ => false

/-- How those that use a database keep off each other. -/
inductive Locking where
  /-- Many may read while one prepares a change, and none while it is made. -/
  | ordinary
  /-- None may read while another one reads or changes. -/
  | whole
  /-- None may begin to read while one prepares a change. -/
  | memory
  /-- Not at all. -/
  | absent
  /-- Not at all, because the database is said never to change. -/
  | immutable
  deriving DecidableEq, Repr, Inhabited

/-- What is said to a database about a table of entries. -/
inductive Statement where
  | insert
  | select (byUuid byMatched : Bool)
  deriving DecidableEq, Repr

/-- Which statements make sense for a table. -/
structure Seen where
  selects : Bool
  inserts : Bool
  deriving DecidableEq, Repr

/-- Whether a statement makes sense. -/
def Seen.admits (seen : Seen) : Statement → Bool
  | .insert => seen.inserts
  | .select .. => seen.selects

/-- What a sink has done since it last committed. -/
structure Batch where
  isOpen : Bool := false
  /-- The database as it was when the batch began to read it. -/
  snapshot : Option Database := none
  /-- What the database is to be, if the batch has taken hold of it. -/
  pending : Option Database := none
  /-- Whether what is needed to take the batch back is still beside the database. -/
  hasJournal : Bool := true
  /-- Whether the batch could not be committed, so that no other sink may begin to read. -/
  isBlocking : Bool := false
  /-- Whether the batch waits for those that share its cache to end theirs. -/
  isWaiting : Bool := false
  /-- The tables that the batch has read. -/
  reads : List String := []
  /-- The tables that the batch has changed. -/
  writes : List String := []

/-- An open database. -/
structure Connection where
  store : Store
  /-- The kind of place where the database lies. -/
  storage : String := "unix"
  /-- Whether the sink shares what it knows of the database with others that do so. -/
  sharesCache : Bool := false
  locking : Locking := .ordinary
  isReadOnly : Bool := false
  /-- What the sink has last seen of the table; unknown before it has seen what tables there are. -/
  seen : Option Seen := none
  /-- The statements that have been read, and are not read again. -/
  statements : List Statement := []
  /-- What the heading of the database said when the sink last looked at it, and the size of its
  pages. -/
  heading : Option (Stamp × Nat) := none
  /-- The database as it was last read. -/
  cached : Option Database := none
  /-- Whether the sink has found that changes of the database are logged ahead. -/
  usesLog : Bool := false
  /-- Why the database did not do what it was last told, if it did not. -/
  failure : Option Error := none
  batch : Batch := {}

/-- Whether a statement can be read, or need not be, without a look at the database. -/
def Connection.isReady (c : Connection) (statement : Statement) : Bool :=
  c.seen.any (·.admits statement) || c.statements.contains statement

/-- Notes what the heading of a database says. -/
def Connection.look (c : Connection) (d : Database) : Connection :=
  { c with heading := some (d.stamp, d.pageSize) }

/-- Remembers a statement.  To read one for the first time is to tell the database something. -/
def Connection.remember (c : Connection) (statement : Statement) : Connection :=
  { c with
    statements := statement :: c.statements.erase statement
    failure := c.failure.filter fun _ => c.statements.contains statement }

/-- Begins a batch, unless one is under way. -/
def Connection.begin (c : Connection) : Connection :=
  { c with
    batch := { c.batch with isOpen := true }
    failure := c.failure.filter fun _ => c.batch.isOpen }

/-- Notes what came of what the database was told. -/
def Connection.note {α : Type} (c : Connection) : Except Error α → Connection
  | .ok _ => { c with failure := none }
  | .error e =>
    if e.isUnbound then c
    else { c with failure := if e.isReported then some e else none }

/-- Whether two sinks of a database share what they know of it. -/
def Connection.isMate (c other : Connection) : Bool :=
  c.sharesCache && other.sharesCache && c.storage == other.storage

/-- Whether two sinks of a database that share nothing keep off each other. -/
def Connection.isRival (c other : Connection) : Bool :=
  !c.isMate other && c.locking == other.locking && c.locking != .absent
    && c.locking != .immutable

/-- Whether a sink keeps others that lock as it does from beginning to read. -/
def Connection.isInTheWay (c : Connection) : Bool :=
  match c.locking with
  | .whole => c.batch.snapshot.isSome
  | .memory => c.batch.pending.isSome
  | _ => c.batch.isBlocking

/-- A sink that writes to a table. -/
structure TableSink where
  /-- What stands for the database; none if it is no text. -/
  path : Option String
  table : String
  /-- Whether the table is emptied when the sink is opened. -/
  empties : Bool
  connection : Option Connection := none

end Sink

/-- A destination of entries. -/
inductive Sink where
  | lines (sink : Sink.LineSink)
  | table (sink : Sink.TableSink)

namespace Sink

/-- The name of a kind of sink. -/
def kindName : Sink → String
  | .lines _ => "JSONLBackend"
  | .table _ => "SQLiteBackend"

/-- The ends of the names of databases. -/
def databaseSuffixes : List (List Char) := [".db".toList, ".sqlite".toList, ".sqlite3".toList]

/-- Whether a path is taken for a database's. -/
def isDatabasePath (p : Path) : Bool := databaseSuffixes.contains p.suffix

/-- Whether an argument counts as true. -/
def isTrue : Document → Bool
  | .null => false
  | .bool b => b
  | .int n => n != 0
  | .float x => !x.equalInt 0
  | .text s => !s.isEmpty
  | .list items => !items.isEmpty
  | .mapping entries => !entries.isEmpty

/-- The text that an argument has to be. -/
def textArgument (arguments : Document) (key default : String) : Except Error String :=
  match arguments.get? key with
  | none => .ok default
  | some (.text s) => s.string?.elim (.error .wrongArgument) .ok
  | some _ => .error .wrongArgument

/-- Refuses arguments other than the given ones. -/
def checkArguments (known : List Text) (arguments : Document) : Except Error Unit :=
  match arguments with
  | .mapping entries =>
    if entries.all fun entry => known.contains entry.1 then .ok () else .error .wrongArgument
  | _ => .ok ()

/-- The sink of a kind, with the arguments for it.  The kind is no argument of its own. -/
def ofKind (kind : String) (arguments : Document) : Except Error Sink := do
  if (arguments.get? "db_type").isSome then .error .wrongArgument
  else if kind == "jsonl" then
    checkArguments ["path"] arguments
    let path ← textArgument arguments "path" "results.jsonl"
    return .lines { path := .ofText path }
  else if kind == "sqlite" then
    checkArguments ["db_path", "table", "truncate"] arguments
    let table ← match arguments.get? "table" with
      | none => .ok (Settings.defaultTable : Text)
      | some (.text s) => .ok s
      | some _ => .error .tableNotText
    let table ← TableName.check table
    let path := match arguments.get? "db_path" with
      | none => some "results.db"
      | some given => given.text?.bind Text.string?
    return .table { path, table, empties := isTrue (arguments.get "truncate") }
  else .error (.unsupportedKind kind)

/-- The sink for a path: a table, emptied unless the arguments say otherwise, for a path that is
taken for a database's, and lines of JSON for any other. -/
def ofPath (path : String) (arguments : Document) : Except Error Sink := do
  if (arguments.get? "path").isSome then .error .wrongArgument
  else if isDatabasePath (.ofText path) then
    checkArguments ["table", "truncate"] arguments
    let entries := match arguments with | .mapping entries => entries | _ => []
    let empties := (arguments.get? "truncate").getD (.bool true)
    let added : List (Text × Document) := [("truncate", empties), ("db_path", .text path)]
    ofKind "sqlite" (.mapping (entries.filter (·.1 != ("truncate" : Text)) ++ added))
  else return .lines { path := .ofText path }

end Sink

end LogTemplate
