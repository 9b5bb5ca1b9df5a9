import LogTemplate.Sink.Definition.Reader
import LogTemplate.Sink.Table

/-!
# Searching entries

The entries of a table or of a view that have a UUID, or are matched or not, in the order of their
line numbers.  Entries with the same line number come in the order in which the table is gone
through: that of an index that starts with the line number, if there is one, and that of the rows
otherwise.
-/

namespace LogTemplate.Sink

/-- What the entries that are asked for have in two of their columns. -/
structure Wanted where
  uuid : Option Cell := none
  matched : Option Int := none

namespace Wanted

open Definition (sameName)

/-- The condition that a column holds a cell. -/
def holds (column : String) (cell : Cell) : Expression :=
  .compared .equal (.column none column false) (.constant cell)

/-- The condition on the entries that are asked for. -/
def condition (w : Wanted) : Expression :=
  let uuid := (w.uuid.map (holds "uuid")).getD .yes
  match w.matched with
  | some n => .both uuid (holds "matched" (.integer n))
  | none => uuid

/-- The columns of entries.  The one of values is named in quotes. -/
def items : List Expression :=
  Definition.entryColumns.map fun name => .column none name (name == "values")

/-- Whether entries can be selected from a relation. -/
def canSelect (r : Relation) : Bool :=
  Definition.entryColumns.all fun name =>
    name == "values" || r.columns.any (sameName ·.name name)

/-- The columns on which there are conditions. -/
def columns (w : Wanted) : List String :=
  (w.uuid.toList.map fun _ => "uuid") ++ w.matched.toList.map fun _ => "matched"

/-- Whether the cells of a column are all the same among the entries that are asked for. -/
def fixes (w : Wanted) (name : String) : Bool :=
  w.columns.any (sameName name)

/-- Whether a term is a column of a kind, compared as that column is. -/
def isColumn (t : Table) (p : String → Bool) (term : Term) : Bool :=
  match term.value with
  | .column none name _ =>
    p name && (t.definition.column? name).any (·.collation == term.collation)
  | _ => false

/-- How much room the cells of a column are expected to take. -/
def columnWidth (c : Column) : Nat := if c.affinity == .text || c.type == "blob" then 16 else 1

/-- How much room the cells of a term are expected to take. -/
def termWidth (t : Table) (term : Term) : Nat :=
  ((t.position? term).bind fun i => t.definition.columns[i]?.map columnWidth).getD 1

/-- A way to go through a table: along an index. -/
structure Way where
  /-- How many of its first columns are fixed by what is asked for. -/
  fixed : Nat
  /-- The terms behind those. -/
  terms : List Term
  /-- Whether they start with the line number. -/
  isByLine : Bool
  /-- How many conditions can be looked at without the row. -/
  known : Nat
  /-- How much room is expected to be passed. -/
  width : Nat

/-- Whether a way is preferred to another one: one that fixes more columns, then one along the line
numbers, then one along which more is known, then the narrower one. -/
def Way.isPreferred (a b : Way) : Bool :=
  if a.fixed != b.fixed then b.fixed < a.fixed
  else if a.isByLine != b.isByLine then a.isByLine
  else if a.known != b.known then b.known < a.known
  else a.width < b.width

/-- The way along an index, behind whose terms come those that the rows are ordered by. -/
def wayAlong (w : Wanted) (t : Table) (key : Key) : Way :=
  let isFixed := isColumn t w.fixes
  let terms := Term.extend key.terms t.definition.order
  let rest := terms.dropWhile isFixed
  let isWhole := !t.definition.order.isEmpty && Reader.areAlike key.terms t.definition.order
  { fixed := (terms.takeWhile isFixed).length
    terms := rest
    isByLine := rest.head?.any (isColumn t (sameName "line_number"))
    known := (w.columns.takeWhile fun name =>
      isWhole || terms.any (isColumn t (sameName name))).length
    width := if isWhole then 0 else terms.foldl (fun n term => n + termWidth t term) 0 }

/-- The way that is taken through a table, if that is not the order of its rows.  Of ways that are
as good as each other it is the one along the index that was made last. -/
def way? (w : Wanted) (d : Database) (t : Table) : Option Way :=
  let keys := (t.definition.keys ++ (d.indexesTo t.name).map Index.key).filter (·.condition.isNone)
  let ways := (keys.reverse.map (w.wayAlong t)).filter fun way => 0 < way.fixed || way.isByLine
  ways.foldl (fun best way =>
    if best.all fun other => way.isPreferred other then some way else best) none

/-- Whether a row comes before another one or beside it, as terms with their places have it. -/
def isUpTo (s : Scope) (t : Table) (terms : List (Term × Option Nat)) (isReversed : Bool)
    (a b : Row) : Bool :=
  let orders := terms.map fun (term, place) =>
    let cell := fun row => (t.termCell s term place row).toOption.getD .null
    let order := (cell a).compare s.form term.collation (cell b)
    if term.isDescending != isReversed then order.swap else order
  orders.foldr Ordering.then .eq != .gt

/-- The rows of a table in the order in which it is gone through: from the end of an index, if its
line numbers descend. -/
def passage (w : Wanted) (d : Database) (t : Table) : List Row :=
  match w.way? d t with
  | none => t.rows
  | some way =>
    let isReversed := way.isByLine && way.terms.head?.any Term.isDescending
    let terms := if way.isByLine then way.terms.drop 1 else way.terms
    let rows := if isReversed then t.rows.reverse else t.rows
    rows.mergeSort (isUpTo d.scope t (terms.map fun term => (term, t.position? term)) isReversed)

/-- Whether the line number of an entry is up to that of another one. -/
def isUpToLine (form : TextForm) (collation : Collation) (a b : List Cell) : Bool :=
  (a.headD .null).compare form collation (b.headD .null) != .gt

/-- The cells of the entries of a table or of a view that are asked for. -/
def select (w : Wanted) (d : Database) (table : String) :
    Except Signal (List (List Cell)) := do
  let s := d.scope
  let r ← match d.table? table, d.relation? table with
    | some t, _ => .ok { t.relation with rows := w.passage d t }
    | none, some r => .ok r
    | none, none => .error .unknown
  let scopes := r.rows.map fun row => s.within (r.binding table row)
  let found ← scopes.filterM fun scope => Expression.holds scope w.condition
  let cells ← found.mapM fun scope => Expression.values scope items
  let collation := ((r.columns.find? (sameName ·.name "line_number")).map
    Column.collation).getD .binary
  return cells.mergeSort (isUpToLine d.form collation)

end Wanted

end LogTemplate.Sink
