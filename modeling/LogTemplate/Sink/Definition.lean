import LogTemplate.Sink.Expression

/-!
# Definitions

What a database says of its tables: which columns they have, what these hold, by which keys rows may
clash and which checks they have to pass.  The table of entries that a sink makes has one column a
member of an entry, a number that counts its rows, and one key, the hash.
-/

namespace LogTemplate.Sink

/-- Whether two names are the same, whatever the case of their ASCII letters. -/
def Definition.sameName (a b : String) : Bool :=
  a.toList.map Char.toLower == b.toList.map Char.toLower

/-- The expression whose value stands in a column that nobody fills in. -/
structure Generated where
  value : Expression
  /-- Whether the cell takes a place in the record of its row. -/
  isStored : Bool
  deriving Repr, Inhabited

/-- A column. -/
structure Column where
  name : String
  affinity : Affinity := .blob
  collation : Collation := .binary
  /-- The name of its type, in small letters. -/
  type : String := ""
  /-- Whether something has to stand in it. -/
  isRequired : Bool := false
  /-- What stands in it unless something is given. -/
  default : Expression := .null
  generated : Option Generated := none
  deriving Repr, Inhabited

/-- What a row is ordered by, or compared by. -/
structure Term where
  value : Expression
  collation : Collation := .binary
  isDescending : Bool := false
  deriving Repr, Inhabited

/-- Whether two terms are the same column, compared in the same way. -/
def Term.isSame (a b : Term) : Bool :=
  match a.value, b.value with
  | .column none s _, .column none t _ => Definition.sameName s t && a.collation == b.collation
  | _, _ => false

/-- Terms with others behind them, each of which comes but once. -/
def Term.extend (terms others : List Term) : List Term :=
  others.foldl (fun found t => if found.any t.isSame then found else found ++ [t]) terms

/-- Terms in which two rows differ, if both meet the condition that there may be. -/
structure Key where
  terms : List Term
  condition : Option Expression := none
  deriving Repr, Inhabited

/-- The definition of a table. -/
structure Definition where
  columns : List Column
  /-- The column that shows the number of a row. -/
  idColumn : Option String := none
  /-- Whether no number is given twice. -/
  isCounted : Bool := false
  keys : List Key := []
  checks : List Expression := []
  /-- What the rows are ordered by if they have no numbers. -/
  order : List Term := []
  /-- Whether cells of other types than those of their columns are refused. -/
  isStrict : Bool := false
  deriving Repr, Inhabited

/-- A row: its number and its cells, one a column. -/
structure Row where
  id : Int
  cells : List Cell
  deriving DecidableEq, Repr, Inhabited

/-- When something is done about a row. -/
inductive Time where
  | before
  | after
  | instead
  deriving DecidableEq, Repr, Inhabited

/-- What happens to a row. -/
inductive Event where
  | insertion
  | deletion
  /-- Some of its cells are set; any of them, if no columns are named. -/
  | update (columns : List String)
  deriving DecidableEq, Repr, Inhabited

/-- What is done about a row. -/
inductive Action where
  | select (selection : Selection)
  /-- Adds the rows of a selection, or rows that are given; `isLenient` says whether a row that
  clashes is passed over. -/
  | insert (isLenient : Bool) (table : String) (columns : List String)
      (rows : List (List Expression)) (selection : Option Selection)
  | update (isLenient : Bool) (table : String) (cells : List (String × Expression))
      (condition : Expression)
  | delete (table : String) (condition : Expression)
  deriving Repr, Inhabited

/-- What a database does by itself when a row of a table comes, goes or changes. -/
structure Trigger where
  name : String
  table : String
  time : Time
  event : Event
  condition : Expression := .yes
  /-- What is to be done, if that is understood. -/
  actions : Option (List Action)
  deriving Repr, Inhabited

/-- Whether a trigger is for an event. -/
def Trigger.isFor (t : Trigger) (event : Event) : Bool :=
  match t.event, event with
  | .insertion, .insertion | .deletion, .deletion => true
  | .update columns, .update changed =>
    columns.isEmpty || columns.any fun c => changed.any (Definition.sameName c)
  | _, _ => false

/-- Whether a trigger is for an event in a table at a time. -/
def Trigger.isDue (t : Trigger) (time : Time) (event : Event) (table : String) : Bool :=
  Definition.sameName t.table table && t.time == time && t.isFor event

/-- A table that shows what others hold. -/
structure View where
  name : String
  /-- The names of its columns, if they are given. -/
  columns : List String
  /-- What it shows, if that is understood. -/
  selection : Option Selection
  deriving Repr, Inhabited

/-- An index to a table.  Rows clash by it if it says so. -/
structure Index where
  name : String
  table : String
  key : Key
  isUnique : Bool := false
  deriving Repr, Inhabited

namespace Definition

/-- The columns in which an entry stands. -/
def entryColumns : List String :=
  ["line_number", "line", "matched", "uuid", "name", "values", "tags", "content_hash"]

/-- The term that is a column. -/
def term (name : String) : Term := { value := .column none name false }

/-- The definition of a table that a sink makes. -/
def entries : Definition where
  columns := [
    { name := "id", affinity := .integer },
    { name := "line_number", affinity := .integer },
    { name := "line", affinity := .text },
    { name := "matched", affinity := .integer },
    { name := "uuid", affinity := .text },
    { name := "name", affinity := .text },
    { name := "values", affinity := .text },
    { name := "tags", affinity := .text },
    { name := "content_hash", affinity := .text }]
  idColumn := some "id"
  isCounted := true
  keys := [{ terms := [term "content_hash"] }]

/-- The column of a name. -/
def column? (d : Definition) (name : String) : Option Column :=
  d.columns.find? (sameName ·.name name)

/-- Whether the rows of a table have numbers. -/
def isNumbered (d : Definition) : Bool := d.order.isEmpty

end Definition

end LogTemplate.Sink
