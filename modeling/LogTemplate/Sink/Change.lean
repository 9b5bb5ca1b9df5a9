import LogTemplate.Sink.Error
import LogTemplate.Sink.Table

/-!
# Changes of a database

Adding, changing and removing rows, with what the database does by itself when that happens.  A
change is carried out as a whole or not at all, unless a trigger asks for something else.
-/

namespace LogTemplate.Sink

/-- Why a row is not dealt with, and what the database is by then. -/
inductive Stop where
  /-- The row is passed over. -/
  | ignored (database : Database)
  | failed (error : Error) (ending : Ending) (database : Database)

/-- What a database does before or after something happens to a row of a table, of which the former
and the new state are given. -/
abbrev Reaction :=
  Database → Time → Event → String → (old new : Option Row) → Except Stop Database

namespace Change

/-- A value of an expression, or what becomes of the change that needs it. -/
def valueIn {α : Type} (d : Database) : Except Signal α → Except Stop α
  | .ok a => .ok a
  | .error (.ended .ignore) => .error (.ignored d)
  | .error (.ended ending) => .error (.failed .refused ending d)
  | .error .unknown => .error (.failed .unknown .abort d)

/-- What becomes of a row that is not admitted: it is passed over, or the change fails. -/
def refuse {α : Type} (isLenient : Bool) (d : Database) : Except Stop α :=
  .error (if isLenient then .ignored d else .failed .refused .abort d)

/-- Goes on after a row that is passed over. -/
def settle : Except Stop Database → Except Stop Database
  | .error (.ignored d) => .ok d
  | outcome => outcome

/-- Makes a change for each of some rows. -/
def forEach {α : Type} (d : Database) (rows : List α) (f : Database → α → Except Stop Database) :
    Except Stop Database :=
  rows.foldlM (fun d row => settle (f d row)) d

/-- Checks that a table admits a row beside some others. -/
def admitted (isLenient : Bool) (d : Database) (t : Table) (others : List Row) (row : Row) :
    Except Stop Unit := do
  let s := d.scope
  let unique := (d.indexesTo t.name).filter Index.isUnique
  if t.isLacking row then refuse isLenient d
  if t.isMistyped row then refuse false d
  for check in t.definition.checks do
    if !(← valueIn d (Expression.passes (s.within (t.binding t.name row)) check)) then
      refuse isLenient d
  if t.definition.isNumbered && others.any (·.id == row.id) then refuse isLenient d
  for key in t.definition.keys ++ unique.map Index.key do
    if ← valueIn d (t.clashes s others row key) then refuse isLenient d

/-- The number that is given for a row, if one is.  It has to be an integer. -/
def askedId (d : Database) (t : Table) (given : List (String × Cell)) :
    Except Stop (Option Int) :=
  match t.definition.idColumn.bind (Table.given? given) with
  | none | some .null => .ok none
  | some cell =>
    match cell.asNumber with
    | .integer n => .ok (some n)
    | _ => .error (.failed .refused .abort d)

/-- The number that triggers see before a row gets its own. -/
def noId : Int := -1

/-- Adds a row to a table, made of the cells that are given for it. -/
def insertInto (react : Reaction) (isLenient : Bool) (d : Database) (t : Table)
    (given : List (String × Cell)) : Except Stop Database := do
  let asked ← askedId d t given
  let draft ← valueIn d (t.fill d.scope (asked.getD noId) given)
  if d.isAwaited .before .insertion t.name && t.isMistyped draft then refuse false d
  let d ← react d .before .insertion t.name none (some draft)
  let t := (d.table? t.name).getD t
  let id ← match asked.orElse fun _ => t.nextId? with
    | some id => .ok id
    | none => .error (.failed .full .abort d)
  let d := d.modify t.name (·.count id)
  let row ← valueIn d (t.fill d.scope id given)
  admitted isLenient d t t.rows row
  let d := d.modify t.name (·.place d.form row)
  react d .after .insertion t.name none (some row)

/-- Adds a row to a table, or to a view whose triggers take it. -/
def insert (react : Reaction) (isLenient : Bool) (d : Database) (name : String)
    (given : List (String × Cell)) : Except Stop Database :=
  match d.table? name, d.relation? name with
  | some t, _ => insertInto react isLenient d t given
  | none, some r =>
    let row : Row := ⟨0, r.columns.map fun c => (Table.given? given c.name).getD .null⟩
    react d .instead .insertion name none (some row)
  | none, none => .error (.failed .unknown .abort d)

/-- Removes a row from a table, or from a view whose triggers do it. -/
def delete (react : Reaction) (d : Database) (name : String) (row : Row) :
    Except Stop Database := do
  match d.table? name with
  | none => react d .instead .deletion name (some row) none
  | some _ =>
    let d ← react d .before .deletion name (some row) none
    let d := d.modify name (·.remove d.form row)
    react d .after .deletion name (some row) none

/-- Sets cells of a row of a table. -/
def update (react : Reaction) (isLenient : Bool) (d : Database) (t : Table) (row : Row)
    (given : List (String × Cell)) : Except Stop Database := do
  let event := Event.update (given.map Prod.fst)
  let id ← askedId d t given
  let cells := (t.definition.columns.zip row.cells).map fun (c, cell) =>
    match Table.given? given c.name with
    | some new => if t.isIdColumn c then .integer (id.getD row.id) else c.affinity.apply new
    | none => cell
  let new ← valueIn d (t.complete d.scope ⟨id.getD row.id, cells⟩)
  let d ← react d .before event t.name (some row) (some new)
  let t := (d.table? t.name).getD t
  let others := t.rows.filter fun other => !t.isSamePlace d.form other row
  admitted isLenient d t others new
  let d := d.modify t.name fun t => (t.remove d.form row).place d.form new
  react d .after event t.name (some row) (some new)

/-- The rows of a table or of a view that meet a condition, each with the scope in which it is
known. -/
def chosen (s : Scope) (name : String) (condition : Expression) :
    Except Signal (List (Row × Scope)) := do
  match s.relation? name with
  | none => .error .unknown
  | some r =>
    let scopes := r.rows.map fun row =>
      (row, s.within (r.binding name row))
    scopes.filterM fun (_, scope) => Expression.holds scope condition

/-- What is to be done about a row, in a scope in which it is known. -/
def perform (react : Reaction) (isLenient : Bool) (s : Scope) (d : Database) :
    Action → Except Stop Database
  | .select selection => do
    let items := selection.items.map Prod.fst
    let _ ← valueIn d
      (Expression.value s (.selection .first .null items selection.table selection.condition))
    return d
  | .insert lenient name columns rows selection => do
    let columns := if columns.isEmpty then d.openColumns name else columns
    let cells ← valueIn d (match selection with
      | none => rows.mapM (Expression.values s)
      | some selection => View.rows s selection (selection.items.map Prod.fst))
    forEach d cells fun d cells => insert react (isLenient || lenient) d name (columns.zip cells)
  | .update lenient name cells condition => do
    match d.table? name with
    | none => .error (.failed .unknown .abort d)
    | some t =>
      forEach d (← valueIn d (chosen s name condition)) fun d (row, scope) => do
        let given ← cells.mapM fun (column, e) => do
          return (column, ← valueIn d (Expression.value scope e))
        update react (isLenient || lenient) d ((d.table? name).getD t) row given
  | .delete name condition => do
    forEach d (← valueIn d (chosen s name condition)) fun d (row, _) => delete react d name row

/-- Carries out a trigger. -/
def carryOut (react : Reaction) (isLenient : Bool) (d : Database) (name : String)
    (old new : Option Row) (t : Trigger) : Except Stop Database := do
  if ← valueIn d (Expression.holds (d.rowScope name old new) t.condition) then
    match t.actions with
    | none => .error (.failed .unknown .abort d)
    | some actions =>
      actions.foldlM (fun d action =>
        perform react isLenient (d.rowScope name old new) d action) d
  else return d

/-- What a database does about a row: the triggers that are for it, the one that was made last
first.  A trigger that is being carried out, as those that are `active` are, does not set itself
off.  At most `fuel` triggers set each other off. -/
def reactAt (isLenient : Bool) : (fuel : Nat) → (active : List String) → Reaction
  | 0, _ => fun d _ _ _ _ _ => .ok d
  | fuel + 1, active => fun d time event name old new =>
    let due := (d.triggers.filter (·.isDue time event name)).filter (!active.contains ·.name)
    due.reverse.foldlM (fun d t =>
      carryOut (reactAt isLenient fuel (t.name :: active)) isLenient d name old new t) d

/-- What a database does about a row. -/
def reaction (isLenient : Bool) (d : Database) : Reaction :=
  reactAt isLenient (d.triggers.length + 1) []

/-- The outcome of a change: the database after it and the error, if there is one.  There is no
database if the whole batch is taken back. -/
def outcome (d : Database) : Except Stop Database → Option Database × Option Error
  | .ok changed | .error (.ignored changed) => (some changed, none)
  | .error (.failed e .fail changed) => (some changed, some e)
  | .error (.failed e .rollback _) => (none, some e)
  | .error (.failed e _ _) => (some d, some e)

end Change

namespace Database

/-- Adds a row to a table, made of the cells that are given for it, and passes over one that is not
admitted. -/
def add (d : Database) (table : String) (given : List (String × Cell)) :
    Option Database × Option Error :=
  Change.outcome d (Change.insert (Change.reaction true d) true d table given)

/-- Removes all rows of a table. -/
def clear (d : Database) (table : String) : Option Database × Option Error :=
  let rows := ((d.relation? table).map Relation.rows).getD []
  Change.outcome d
    (Change.forEach d rows fun d row => Change.delete (Change.reaction false d) d table row)

end Database

end LogTemplate.Sink
