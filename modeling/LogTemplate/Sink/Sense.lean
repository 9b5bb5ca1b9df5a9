import LogTemplate.Sink.Relation

/-!
# Statements that make sense

A statement is read as a whole before any of it is carried out, together with the triggers that it
may set off: what they speak of has to be there, whether they are set off or not.
-/

namespace LogTemplate.Sink

open Definition (sameName)

namespace Expression

mutual

/-- Whether all that an expression speaks of is there. -/
def makesSense (s : Scope) : Expression → Bool
  | .constant _ | .ending _ => true
  | .column row name isQuoted =>
    (s.find? row name).isSome || (row.isNone && (isQuoted || name == everything))
  | .prefixed _ e | .cast _ e | .collated _ e => makesSense s e
  | .operation _ a b => makesSense s a && makesSense s b
  | .listed e items => makesSense s e && makeSense s items
  | .choice a b c => makesSense s a && makesSense s b && makesSense s c
  | .call name arguments =>
    ((rowFunctions.contains name && arguments.length ≤ 1)
      || (Function.value? .utf8 .binary name (arguments.map fun _ => .null)).isSome)
      && makeSense s arguments
  | .selection _ e items table condition =>
    match table with
    | none => makesSense s e && makeSense s items && makesSense s condition
    | some (table, name) =>
      match s.relation? table with
      | none => false
      | some r =>
        let inner := s.within (r.binding name r.blank)
        makesSense s e && makeSense inner items && makesSense inner condition

/-- Whether all that expressions speak of is there. -/
def makeSense (s : Scope) : List Expression → Bool
  | [] => true
  | e :: rest => makesSense s e && makeSense s rest

end

end Expression

/-- The scope of a selection. -/
def Selection.scope? (s : Scope) (selection : Selection) : Option (List Column × Scope) :=
  match selection.table with
  | none => some ([], s)
  | some (table, name) => do
    let r ← s.relation? table
    return (r.columns, s.within (r.binding name r.blank))

/-- The number of cells that a selection gives for a row, if it makes sense. -/
def Selection.width? (s : Scope) (selection : Selection) : Option Nat := do
  let (columns, inner) ← selection.scope? s
  let items := (View.items columns selection).map Prod.fst
  if Expression.makeSense inner items && selection.condition.makesSense inner
      && Expression.makeSense inner (selection.order.map Prod.fst) then
    some items.length
  else none

namespace Database

/-- Whether a relation has columns that cells can be given for. -/
def hasColumns (r : Relation) (columns : List String) : Bool :=
  columns.all fun name => r.columns.any fun c => sameName c.name name && c.generated.isNone

/-- Whether rows can be added to a table or a view, taken by itself. -/
def takesAny (d : Database) (name : String) : Bool :=
  match d.table? name with
  | none => d.takesRows name
  | some t =>
    let rules := t.definition.checks ++ t.definition.columns.filterMap fun c =>
      c.generated.map Generated.value
    Expression.makeSense (d.scope.within (t.binding name t.relation.blank)) rules

/-- Whether something that is done about a row makes sense, where `follows` says that of what an
event sets off. -/
def canDo (d : Database) (follows : Event → String → Bool) (s : Scope) : Action → Bool
  | .select selection => (selection.width? s).isSome
  | .insert _ name columns rows selection =>
    match d.relation? name with
    | none => false
    | some r =>
      let columns := if columns.isEmpty then d.openColumns name else columns
      let isFitting := match selection with
        | none => rows.all fun row => row.length == columns.length && Expression.makeSense s row
        | some selection => selection.width? s == some columns.length
      d.takesAny name && hasColumns r columns && isFitting && follows .insertion name
  | .update _ name cells condition =>
    match d.table? name with
    | none => false
    | some t =>
      let inner := s.within (t.binding name t.relation.blank)
      hasColumns t.relation (cells.map Prod.fst)
        && Expression.makeSense inner (cells.map Prod.snd) && condition.makesSense inner
        && follows (.update (cells.map Prod.fst)) name
  | .delete name condition =>
    match d.table? name with
    | none => false
    | some t =>
      condition.makesSense (s.within (t.binding name t.relation.blank))
        && follows .deletion name

/-- Whether a trigger makes sense, where `follows` says that of what an event sets off. -/
def makesSense (d : Database) (follows : Event → String → Bool) (t : Trigger) : Bool :=
  let blank := (d.relation? t.table).map Relation.blank
  let (old, new) := match t.event with
    | .insertion => (none, blank)
    | .deletion => (blank, none)
    | .update _ => (blank, blank)
  let s := d.rowScope t.table old new
  t.condition.makesSense s && t.actions.any fun actions => actions.all (d.canDo follows s)

/-- Whether the triggers for an event make sense, and those that they set off.  At most `fuel`
triggers set each other off; the `active` ones are being looked at. -/
def canFollowAt (d : Database) : (fuel : Nat) → (active : List String) → Event → String → Bool
  | 0, _, _, _ => true
  | fuel + 1, active, event, name =>
    (d.triggers.filter fun t => sameName t.table name && t.isFor event
      && !active.contains t.name).all fun t =>
        d.makesSense (canFollowAt d fuel (t.name :: active)) t

/-- Whether the triggers for an event make sense, and those that they set off. -/
def canFollow (d : Database) (event : Event) (name : String) : Bool :=
  d.canFollowAt (d.triggers.length + 1) [] event name

/-- Whether rows that are given by columns can be added to a table or a view. -/
def canAdd (d : Database) (name : String) (columns : List String) : Bool :=
  (d.relation? name).any (hasColumns · columns) && d.takesAny name && d.canFollow .insertion name

end Database

end LogTemplate.Sink
