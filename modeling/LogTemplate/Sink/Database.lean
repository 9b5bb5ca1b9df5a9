import LogTemplate.Sink.Definition

/-!
# Databases of entries

A database holds tables, views of them, indexes to them, and triggers.  The rows of a table stand in
the order of their numbers or, if they have none, of its primary key.  No table, view or index has
the name of another one, whatever the case of its ASCII letters.
-/

namespace LogTemplate.Sink

/-- A table and its rows. -/
structure Table where
  name : String
  definition : Definition := .entries
  rows : List Row := []
  /-- The highest number that a row has had, if no number is given twice. -/
  lastId : Int := 0
  /-- Whether the rows cannot be read. -/
  isBroken : Bool := false
  deriving Repr, Inhabited

/-- What the heading of a database says of its state, which differs after each change. -/
structure Stamp where
  /-- How often it was changed. -/
  changes : Nat := 0
  /-- How many pages it has. -/
  pages : Nat := 0
  /-- How many of them hold nothing. -/
  free : Nat := 0
  deriving DecidableEq, Repr, Inhabited

/-- What a file, or the memory, holds for sinks. -/
structure Database where
  tables : List Table := []
  views : List View := []
  indexes : List Index := []
  triggers : List Trigger := []
  form : TextForm := .utf8
  /-- Whether it may be read but not changed. -/
  isReadOnly : Bool := false
  /-- Whether its heading says that changes are logged ahead. -/
  keepsLog : Bool := false
  /-- Whether changes are logged ahead, so that those who read do not see them. -/
  isLogged : Bool := false
  stamp : Stamp := {}
  /-- The size of its pages. -/
  pageSize : Nat := 4096
  deriving Repr, Inhabited

namespace Database

open Definition (sameName)

/-- Whether a table has a name. -/
def isNamed (name : String) (t : Table) : Bool := sameName t.name name

/-- The table of a name. -/
def table? (d : Database) (name : String) : Option Table := d.tables.find? (isNamed name)

/-- The view of a name. -/
def view? (d : Database) (name : String) : Option View := d.views.find? (sameName ·.name name)

/-- Whether a table or a view has a name. -/
def hasTable (d : Database) (name : String) : Bool :=
  (d.table? name).isSome || (d.view? name).isSome

/-- Whether an index has a name. -/
def hasIndex (d : Database) (name : String) : Bool := d.indexes.any (sameName ·.name name)

/-- The indexes to a table. -/
def indexesTo (d : Database) (table : String) : List Index :=
  d.indexes.filter (sameName ·.table table)

/-- The size of pages unless a database says otherwise. -/
def defaultPageSize : Nat := 4096

/-- The database once some pages more hold something.  Where pages are small, what lists all that
there is may need more of them, too; then it is not known how many there are. -/
def take (d : Database) (count : Nat) : Database :=
  let pages :=
    if d.pageSize < defaultPageSize then 0 else d.stamp.pages + (count - d.stamp.free)
  { d with stamp := { d.stamp with pages, free := d.stamp.free - count } }

/-- The name of the table that keeps the highest numbers of rows. -/
def countsName : String := "sqlite_sequence"

/-- Whether the highest numbers of rows are kept. -/
def hasCounts (d : Database) : Bool :=
  d.tables.any fun t => t.definition.isCounted || isNamed countsName t

/-- Adds an empty table of entries.  It takes a page, and so do the index that comes with it, the
table of counts and the list of all that there is, if those are not there yet. -/
def addTable (d : Database) (name : String) : Database :=
  let pages := 2 + (if d.hasCounts then 0 else 1) + (if d.stamp.pages = 0 then 1 else 0)
  { d.take pages with tables := d.tables ++ [{ name }] }

/-- The name of the index to a table. -/
def indexName (table : String) : String := "idx_" ++ table ++ "_uuid"

/-- Adds the index to a table, by the UUIDs of its rows. -/
def addIndex (d : Database) (table : String) : Database :=
  let key : Key := { terms := [Definition.term "uuid"] }
  { d.take 1 with indexes := d.indexes ++ [{ name := indexName table, table, key }] }

/-- The database once it is changed. -/
def changed (d : Database) : Database := { d with stamp.changes := d.stamp.changes + 1 }

/-- Whether there are triggers for an event in a table at a time. -/
def isAwaited (d : Database) (time : Time) (event : Event) (table : String) : Bool :=
  d.triggers.any (·.isDue time event table)

/-- The triggers that take the rows of a view instead of it. -/
def takesRows (d : Database) (name : String) : Bool := d.isAwaited .instead .insertion name

/-- What a database becomes that has changed to `now` while something else changed it from `base` to
`d`: the tables are those of the latter, with the rows of the former where only they changed. -/
def rebased (d base now : Database) : Database :=
  { d with tables := d.tables.map fun t =>
      if (base.table? t.name).any (·.rows == t.rows) then (now.table? t.name).getD t else t }

/-- Changes the table of a name. -/
def modify (d : Database) (name : String) (f : Table → Table) : Database :=
  { d with tables := d.tables.map fun t => if isNamed name t then f t else t }

end Database

end LogTemplate.Sink
