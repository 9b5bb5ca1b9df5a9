import LogTemplate.Sink.Definition.Reader
import LogTemplate.Sink.Image.Record
import LogTemplate.Sink.Table

/-!
# The schema of a database

The tree on the first page lists what else the database holds: tables, indexes, views and triggers,
each with its name, the page where its tree starts, and its definition.  An index that the
definition of a table asks for has no definition of its own.
-/

namespace LogTemplate.Sink

namespace Image

open Definition (sameName)

/-- What stands in the list of a database: a name, the page where a tree starts, and a definition
unless it comes with a table. -/
structure Listed where
  name : Option String
  root : Nat
  definition : Option String

/-- What a record of the list says.  A definition starts with the letters `cr`. -/
def Listed.ofRecord? (image : Image) (record : List Cell) : Option Listed :=
  match record with
  | [_, name, _, .integer root, definition] =>
    let name := match name with | .text s => some s | _ => none
    let listed := fun (definition : Option String) =>
      if 0 ≤ root && root ≤ image.pages.size then some ⟨name, root.toNat, definition⟩ else none
    match definition with
    | .text s =>
      if ['c', 'r'].isPrefixOf (s.toList.map Char.toLower) then listed (some s)
      else if s.isEmpty && name.isSome then listed none
      else none
    | .null => if name.isSome then listed none else none
    | _ => none
  | _ => none

/-- The columns in the order in which their cells stand in a record: those of the primary key come
first if the rows have no numbers, and cells that are not stored do not come at all. -/
def storedColumns (d : Definition) : List Column :=
  let stored := d.columns.filter (·.generated.all Generated.isStored)
  let ordered := d.order.filterMap fun term => (Reader.columnName? term).bind d.column?
  let isOrdered := fun (c : Column) => ordered.any (sameName ·.name c.name)
  ordered ++ stored.filter (!isOrdered ·)

/-- What stands in a column for a cell of a record: a short record lacks the columns that were added
to its table later, and a whole number stands as an integer even among fractions. -/
def columnCell (s : Scope) (t : Table) (id : Int) (held : List (Column × Cell)) (c : Column) :
    Cell :=
  if t.isIdColumn c then .integer id
  else
    match held.find? (sameName ·.1.name c.name) with
    | some (_, cell) => if c.affinity == .real then cell.widen else cell
    | none =>
      if c.generated.isSome then .null
      else ((Expression.value s c.default).toOption.map c.affinity.apply).getD .null

/-- The row that a record is. -/
def rowOf (s : Scope) (t : Table) (id : Int) (record : List Cell) : Row :=
  let held := (storedColumns t.definition).zip record
  let row : Row := ⟨id, t.definition.columns.map (columnCell s t id held)⟩
  ((t.complete s row).toOption).getD row

/-- The table of a definition whose tree starts on a page. -/
def tableAt (image : Image) (name : String) (definition : Definition) (root : Nat) : Table :=
  let t : Table := { name, definition }
  match image.records? definition.isNumbered root with
  | none => { t with isBroken := true }
  | some records =>
    { t with rows := records.map fun (id, record) => rowOf { form := image.form } t id record }

/-- The name of an index that comes with a table: the name of the table stands in it. -/
def isOwnIndex (d : Database) (name : String) : Bool :=
  d.tables.any fun t =>
    (List.range (t.definition.keys.length + 1)).any fun n =>
      sameName name ("sqlite_autoindex_" ++ t.name ++ "_" ++ Numeral.decimal n)

/-- Whether an index is to columns of a table that is there. -/
def isSoundIndex (d : Database) (i : Index) : Bool :=
  match d.table? i.table with
  | none => false
  | some t =>
    let knows := fun (row : Option String) (name : String) =>
      row.isNone && (t.definition.column? name).isSome
    i.key.terms.all fun term => term.value.isKnown knows

/-- An index whose terms are compared as their columns are, unless they say otherwise. -/
def settleIndex (d : Database) (i : Index) : Index :=
  let columns := ((d.table? i.table).map (·.definition.columns)).getD []
  { i with key.terms := i.key.terms.map fun term =>
      Reader.settleTerm columns (term.collation != .binary) term }

/-- Whether a table, a view or an index has a name. -/
def isTaken (d : Database) (name : String) : Bool := d.hasTable name || d.hasIndex name

/-- Adds to a database what is listed. -/
def addListed (image : Image) (d : Database) (l : Listed) : Option Database :=
  match l.definition with
  | none => if l.name.any (isOwnIndex d) then some d else none
  | some text =>
    match Defined.ofText? text with
    | none => none
    | some (.table name definition) =>
      if isTaken d name then none
      else some { d with tables := d.tables ++ [image.tableAt name definition l.root] }
    | some (.view v) => if isTaken d v.name then none else some { d with views := d.views ++ [v] }
    | some (.index i) =>
      if isTaken d i.name || !isSoundIndex d i then none
      else some { d with indexes := d.indexes ++ [settleIndex d i] }
    | some (.trigger t) =>
      if d.hasTable t.table then some { d with triggers := d.triggers ++ [t] } else none

/-- Sets the highest numbers that the rows of tables have had. -/
def setCounts (d : Database) : Database :=
  let counts := ((d.table? Database.countsName).map Table.rows).getD []
  let count := fun (name : String) =>
    counts.findSome? fun row =>
      match row.cells with
      | [.text held, cell] => if held == name then some cell.toInteger else none
      | _ => none
  { d with tables := d.tables.map fun t => { t with lastId := (count t.name).getD 0 } }

/-- The database that an image shows. -/
def database (image : Image) : Except Error Database :=
  let empty : Database := {
    form := image.form
    isReadOnly := image.isReadOnly
    keepsLog := image.keepsLog
    stamp := image.stamp
    pageSize := image.size }
  let read : Option Database := do
    let records ← image.records? true 1
    let listed ← records.mapM fun (_, record) => Listed.ofRecord? image record
    return setCounts (← listed.foldlM image.addListed empty)
  (read.map Except.ok).getD (.error .notDatabase)

end Image

/-- The database that the bytes of a file are.  A file of one byte is taken for an empty one. -/
def Database.ofBytes (bytes : List UInt8) : Except Error Database :=
  if bytes.length ≤ 1 then .ok {}
  else do (← Image.ofBytes bytes).database

end LogTemplate.Sink
