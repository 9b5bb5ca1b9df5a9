import LogTemplate.Sink.Relation

/-!
# The rows of a table

How a row is made of the cells that are given for it, what keeps it from being added to its table,
and where it stands there.
-/

namespace LogTemplate.Sink.Table

open Expression
open Definition (sameName)

/-- The cell that is given for a column. -/
def given? (given : List (String × Cell)) (name : String) : Option Cell :=
  (given.find? (sameName ·.1 name)).map Prod.snd

/-- Whether a column shows the number of a row. -/
def isIdColumn (t : Table) (c : Column) : Bool := t.definition.idColumn == some c.name

/-- The row with its generated cells computed from the others. -/
def generate (s : Scope) (t : Table) (row : Row) : Except Signal Row := do
  let s := s.within (t.binding t.name row)
  let cells ← (t.definition.columns.zip row.cells).mapM fun (c, cell) =>
    match c.generated with
    | none => .ok cell
    | some g => do return c.affinity.apply (← value s g.value)
  return { row with cells }

/-- The row with its generated cells; one of them may depend on another one. -/
def complete (s : Scope) (t : Table) (row : Row) : Except Signal Row := do
  if t.definition.columns.any (·.generated.isSome) then
    t.generate s (← t.generate s row)
  else return row

/-- The cell of a column, unless it is generated: the one that is given, or what stands there unless
one is given. -/
def fillCell (s : Scope) (t : Table) (id : Int) (given : List (String × Cell)) (c : Column) :
    Except Signal Cell :=
  if t.isIdColumn c then .ok (.integer id)
  else
    match given? given c.name with
    | some cell => .ok (c.affinity.apply cell)
    | none => do return c.affinity.apply (← value s c.default)

/-- The row of a number that is made of the cells given for it. -/
def fill (s : Scope) (t : Table) (id : Int) (given : List (String × Cell)) : Except Signal Row := do
  t.complete s ⟨id, ← t.definition.columns.mapM (t.fillCell s id given)⟩

/-- Whether nothing stands in a column where something has to. -/
def isLacking (t : Table) (row : Row) : Bool :=
  (t.definition.columns.zip row.cells).any fun (c, cell) => c.isRequired && cell.isNull

/-- Whether a cell is of a type. -/
def isOfType (type : String) : Cell → Bool
  | .null => true
  | .integer _ => type == "int" || type == "integer" || type == "any"
  | .real _ => type == "real" || type == "any"
  | .text _ | .garbled _ => type == "text" || type == "any"
  | .blob _ => type == "blob" || type == "any"

/-- Whether a cell is of another type than its column, where that is refused. -/
def isMistyped (t : Table) (row : Row) : Bool :=
  t.definition.isStrict && (t.definition.columns.zip row.cells).any fun (c, cell) =>
    !isOfType c.type cell

/-- The place of the column that a term is. -/
def position? (t : Table) (term : Term) : Option Nat :=
  match term.value with
  | .column none name _ => t.definition.columns.findIdx? (sameName ·.name name)
  | _ => none

/-- What a row has for a term, which has the given place if it is a column. -/
def termCell (s : Scope) (t : Table) (term : Term) (place : Option Nat) (row : Row) :
    Except Signal Cell :=
  match place with
  | some i => .ok (row.cells[i]?.getD .null)
  | none => value (s.within (t.binding t.name row)) term.value

/-- Whether a row meets the condition of a key. -/
def isUnder (s : Scope) (t : Table) (key : Key) (row : Row) : Except Signal Bool :=
  match key.condition with
  | none => .ok true
  | some condition => holds (s.within (t.binding t.name row)) condition

/-- Whether a row has given cells for terms. -/
def hasCells (s : Scope) (t : Table) (row : Row) :
    List (Term × Option Nat) → List Cell → Except Signal Bool
  | (term, place) :: terms, cell :: cells => do
    if cell.same s.form term.collation (← t.termCell s term place row) then
      hasCells s t row terms cells
    else return false
  | _, _ => .ok true

/-- Whether a row clashes with one of some others by a key.  It does not if it has nothing for one
of the terms. -/
def clashes (s : Scope) (t : Table) (others : List Row) (row : Row) (key : Key) :
    Except Signal Bool := do
  let terms := key.terms.map fun term => (term, t.position? term)
  let cells ← terms.mapM fun (term, place) => t.termCell s term place row
  if cells.any Cell.isNull || !(← t.isUnder s key row) then return false
  else others.anyM fun other => do
    if ← t.hasCells s other terms cells then t.isUnder s key other else return false

/-- Whether the cells of one row come before those of another one. -/
def isBefore (form : TextForm) (terms : List Term) (a b : List Cell) : Bool :=
  let orders := (terms.zip (a.zip b)).map fun (term, x, y) =>
    let order := x.compare form term.collation y
    if term.isDescending then order.swap else order
  orders.foldr Ordering.then .eq == .lt

/-- The cells by which rows are ordered. -/
def orderCells (t : Table) (row : Row) : List Cell :=
  t.definition.order.map fun term =>
    ((t.position? term).bind fun i => row.cells[i]?).getD .null

/-- Whether one row comes before another one: by their numbers or, if they have none, by the primary
key. -/
def precedes (form : TextForm) (t : Table) (a b : Row) : Bool :=
  if t.definition.isNumbered then a.id < b.id
  else isBefore form t.definition.order (t.orderCells a) (t.orderCells b)

/-- Whether two rows have the same place. -/
def isSamePlace (form : TextForm) (t : Table) (a b : Row) : Bool :=
  !t.precedes form a b && !t.precedes form b a

/-- Puts a row into its place. -/
def place (form : TextForm) (t : Table) (row : Row) : Table :=
  let comesBefore := fun other => t.precedes form other row
  { t with rows := t.rows.takeWhile comesBefore ++ row :: t.rows.dropWhile comesBefore }

/-- Notes a number that a row gets, or was to get. -/
def count (t : Table) (id : Int) : Table :=
  if t.definition.isCounted then { t with lastId := max t.lastId id } else t

/-- Takes a row out. -/
def remove (form : TextForm) (t : Table) (row : Row) : Table :=
  { t with rows := t.rows.filter fun other => !t.isSamePlace form other row }

/-- The greatest number of a row. -/
def greatestId : Int := 0x7FFFFFFFFFFFFFFF

/-- The number of the next row: one more than the last one's or, where numbers may be given again
and there is no greater one, one that no row has. -/
def nextId? (t : Table) : Option Int :=
  let last := t.rows.foldl (fun n row => max n row.id) (if t.rows.isEmpty then 0 else minInteger)
  let last := if t.definition.isCounted then max t.lastId last else last
  if last < greatestId then some (last + 1)
  else if t.definition.isCounted then none
  else ((List.range (t.rows.length + 1)).map fun n => Int.ofNat n + 1).find? fun id =>
    !t.rows.any (·.id == id)

end LogTemplate.Sink.Table
