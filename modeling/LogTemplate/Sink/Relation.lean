import LogTemplate.Sink.Database
import LogTemplate.Sink.Expression.Value

/-!
# What can be selected from

The rows of a table, and those that a view shows, which come from other tables and views.
-/

namespace LogTemplate.Sink

/-- The rows of a table. -/
def Table.relation (t : Table) : Relation :=
  ⟨t.definition.columns, t.rows, t.definition.isNumbered⟩

/-- A row of a table, known under a name. -/
def Table.binding (t : Table) (name : String) (row : Row) : Binding :=
  t.relation.binding name row

namespace View

open Expression

/-- The columns of a row, each as an expression with its name. -/
def allColumns (columns : List Column) : List (Expression × Option String) :=
  columns.map fun c => (.column none c.name false, some c.name)

/-- The items of a selection, in which the columns stand one by one. -/
def items (columns : List Column) (selection : Selection) : List (Expression × Option String) :=
  selection.items.flatMap fun (e, name) =>
    match e with
    | .column none s _ => if s == everything then allColumns columns else [(e, name)]
    | _ => [(e, name)]

/-- The name of an item, unless it is given one. -/
def itemName : Expression × Option String → String
  | (_, some name) => name
  | (.column _ name _, none) => name
  | _ => ""

/-- The columns that a view shows: named as it says, or as its items are. -/
def columnsOf (s : Scope) (v : View) (items : List (Expression × Option String)) : List Column :=
  items.zipIdx.map fun (item, i) => {
    name := (v.columns[i]?).getD (itemName item)
    affinity := (affinity? s item.1).getD .blob
    collation := ((namedCollation? item.1).orElse fun _ => columnCollation? s item.1).getD .binary }

/-- Whether the cells that one row is ordered by come before those of another one, or equal them. -/
def isUpTo (s : Scope) (terms : List (Expression × Bool)) (a b : List Cell) : Bool :=
  let orders := (terms.zip (a.zip b)).map fun ((e, isDescending), x, y) =>
    let order := x.compare s.form (collation s e e) y
    if isDescending then order.swap else order
  orders.foldr Ordering.then .eq != .gt

/-- The rows that a selection gives, where some relations are known. -/
def rows (s : Scope) (selection : Selection) (items : List Expression) :
    Except Signal (List (List Cell)) := do
  let source ← source s selection.table
  let found ← source.rows.filterM fun row => holds (s.within row) selection.condition
  let keyed ← found.mapM fun row => do
    return (← values (s.within row) (selection.order.map Prod.fst), row)
  let sample := s.within source.blank
  let sorted := (keyed.mergeSort fun a b => isUpTo sample selection.order a.1 b.1).map Prod.snd
  let selected ← (itemScopes s items source.blank sorted).mapM fun scope => values scope items
  match selection.limit with
  | none => return selected
  | some e =>
    let limit := (← value s e).toInteger
    return if limit < 0 then selected else selected.take limit.toNat

/-- What a view shows, where some relations are known. -/
def relation? (s : Scope) (v : View) : Option Relation := do
  let selection ← v.selection
  let source ← match selection.table with
    | none => some ⟨[], [], false⟩
    | some (table, _) => s.relation? table
  let items := items source.columns selection
  let cells ← (rows s selection (items.map Prod.fst)).toOption
  let sample := s.within (source.binding ((selection.table.map Prod.snd).getD "") source.blank)
  return ⟨columnsOf sample v items, cells.map (⟨0, ·⟩), false⟩

end View

namespace Database

/-- The table or the view of a name.  Views show views up to a depth. -/
def relationAt? (d : Database) : (depth : Nat) → String → Option Relation
  | depth, name =>
    match d.table? name, depth with
    | some t, _ => some t.relation
    | none, 0 => none
    | none, depth + 1 =>
      (d.view? name).bind (View.relation? { form := d.form, relation? := relationAt? d depth })

/-- The table or the view of a name. -/
def relation? (d : Database) (name : String) : Option Relation :=
  d.relationAt? (d.views.length + 1) name

/-- The columns of a table or a view for which cells can be given: all that are not generated. -/
def openColumns (d : Database) (name : String) : List String :=
  match d.relation? name with
  | some r => (r.columns.filter (·.generated.isNone)).map Column.name
  | none => []

/-- What expressions can speak of within a database. -/
def scope (d : Database) : Scope := { form := d.form, relation? := d.relation? }

/-- The scope of a trigger: the former and the new state of a row, each under its name. -/
def rowScope (d : Database) (name : String) (old new : Option Row) : Scope :=
  let columns := ((d.relation? name).map Relation.columns).getD []
  let isNumbered := ((d.relation? name).map Relation.isNumbered).getD false
  let known := fun (label : String) (row : Option Row) =>
    row.toList.map fun row => (⟨label, columns, row, isNumbered, true⟩ : Binding)
  { d.scope with bindings := known "new" new ++ known "old" old }

end Database

end LogTemplate.Sink
