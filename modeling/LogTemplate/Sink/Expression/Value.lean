import LogTemplate.Sink.Definition
import LogTemplate.Sink.Expression.Function

/-!
# The values of expressions

The cell that an expression denotes where some rows are known.  Columns are looked up in the
innermost row first; a comparison first converts its operands as their columns would.
-/

namespace LogTemplate.Sink

/-- Rows that can be selected. -/
structure Relation where
  columns : List Column
  rows : List Row
  /-- Whether the rows have numbers. -/
  isNumbered : Bool
  deriving Repr, Inhabited

/-- A row of which expressions can speak. -/
structure Binding where
  name : String
  columns : List Column
  row : Row
  isNumbered : Bool
  /-- Whether its columns have to be named together with it. -/
  isApart : Bool := false
  deriving Repr, Inhabited

/-- A row of a relation, known under a name. -/
def Relation.binding (r : Relation) (name : String) (row : Row) : Binding :=
  ⟨name, r.columns, row, r.isNumbered, false⟩

/-- A row in which nothing stands. -/
def Relation.blank (r : Relation) : Row := ⟨0, r.columns.map fun _ => .null⟩

/-- What expressions can speak of. -/
structure Scope where
  form : TextForm
  bindings : List Binding := []
  relation? : String → Option Relation := fun _ => none
  /-- The rows that functions of several rows are about. -/
  group : Option (List Binding) := none

/-- Why an expression has no value. -/
inductive Signal where
  | ended (ending : Ending)
  /-- It speaks of what is not there. -/
  | unknown
  deriving DecidableEq, Repr

/-- A cell, and how its column compares it. -/
structure Found where
  cell : Cell
  affinity : Option Affinity
  collation : Collation

/-- The names that stand for the number of a row. -/
def idNames : List String := ["rowid", "oid", "_rowid_"]

/-- What a row has under a name.  Columns that have to be named together with the row do not convert
what they are compared with. -/
def Binding.find? (b : Binding) (name : String) : Option Found :=
  match (b.columns.zip b.row.cells).find? fun c => Definition.sameName c.1.name name with
  | some (column, cell) =>
    some ⟨cell, if b.isApart then none else some column.affinity, column.collation⟩
  | none =>
    if b.isNumbered && idNames.any (Definition.sameName name) then
      some ⟨.integer b.row.id, some .integer, .binary⟩
    else none

/-- What stands under a name, in a row of a name if one is given. -/
def Scope.find? (s : Scope) (row : Option String) (name : String) : Option Found :=
  s.bindings.findSome? fun b =>
    match row with
    | none => if b.isApart then none else b.find? name
    | some row => if Definition.sameName b.name row then b.find? name else none

/-- A scope in which one more row is known. -/
def Scope.within (s : Scope) (b : Binding) : Scope :=
  { s with bindings := b :: s.bindings, group := none }

namespace Expression

/-- What the column of an expression prefers, if it has one. -/
def affinity? (s : Scope) : Expression → Option Affinity
  | .column row name _ => (s.find? row name).bind Found.affinity
  | .cast affinity _ => some affinity
  | .collated _ e => affinity? s e
  | _ => none

/-- The collation that an expression names. -/
def namedCollation? : Expression → Option Collation
  | .collated collation _ => some collation
  | .prefixed _ e | .cast _ e => namedCollation? e
  | .operation _ a b => (namedCollation? a).orElse fun _ => namedCollation? b
  | _ => none

/-- The collation of the column of an expression. -/
def columnCollation? (s : Scope) : Expression → Option Collation
  | .column row name _ => (s.find? row name).map Found.collation
  | .cast _ e | .prefixed .plus e => columnCollation? s e
  | _ => none

/-- The collation by which two expressions are compared. -/
def collation (s : Scope) (a b : Expression) : Collation :=
  ((((namedCollation? a).orElse fun _ => namedCollation? b).orElse fun _ =>
    columnCollation? s a).orElse fun _ => columnCollation? s b).getD .binary

/-- What becomes of a cell before it is compared with one of another column. -/
def converted : Option Affinity → Option Affinity → Cell → Cell
  | some a, some b, cell => if a.isNumeric || b.isNumeric then cell.asNumber else cell
  | some a, none, cell | none, some a, cell =>
    if a.isNumeric then cell.asNumber else if a = .text then cell.asText else cell
  | none, none, cell => cell

/-- The outcome of a comparison. -/
def outcome (c : Comparison) (order : Ordering) : Bool :=
  match c with
  | .equal | .identical => order == .eq
  | .different | .distinct => order != .eq
  | .less => order == .lt
  | .atMost => order != .gt
  | .greater => order == .gt
  | .atLeast => order != .lt

/-- Compares the values of two expressions. -/
def compareValues (s : Scope) (c : Comparison) (a b : Expression) (x y : Cell) : Cell :=
  let convert := converted (affinity? s a) (affinity? s b)
  let isIdentity := c == .identical || c == .distinct
  if !isIdentity && (x.isNull || y.isNull) then .null
  else .ofBool (outcome c ((convert x).compare s.form (collation s a b) (convert y)))

/-- Whether a value is among cells; unknown if it is not, but nothing is among them. -/
def isAmong (s : Scope) (e : Expression) (x : Cell) (cells : List Cell) : Cell :=
  let convert := converted (affinity? s e) none
  if cells.isEmpty then .ofBool false
  else if x.isNull then .null
  else if cells.any fun y => (convert x).same s.form (collation s e e) (convert y) then
    .ofBool true
  else if cells.any Cell.isNull then .null
  else .ofBool false

/-- What a sign makes of a cell. -/
def applySign (p : Prefixed) (x : Cell) : Cell :=
  match p with
  | .plus => x
  | .minus => Cell.calculate .subtract (.integer 0) x
  | .complement => if x.isNull then .null else .integer (-x.toInteger - 1)
  | .negation => .ofTruth (x.truth?.map (!·))
  | .truth wanted => .ofBool (x.truth? == some wanted)

/-- What an operator makes of the values of two expressions. -/
def applyOperator (s : Scope) (o : Operator) (a b : Expression) (x y : Cell) :
    Except Signal Cell :=
  match o with
  | .member isDenoted => ((Function.extract? isDenoted x y).map Except.ok).getD (.error .unknown)
  | .either => .ok <|
    match x.truth?, y.truth? with
    | some true, _ | _, some true => .ofBool true
    | some false, some false => .ofBool false
    | _, _ => .null
  | .both => .ok <|
    match x.truth?, y.truth? with
    | some false, _ | _, some false => .ofBool false
    | some true, some true => .ofBool true
    | _, _ => .null
  | .comparison c => .ok (compareValues s c a b x y)
  | .arithmetic operator => .ok (Cell.calculate operator x y)
  | .bitwise operator => .ok (Cell.combine operator x y)
  | .join => .ok (x.join y)

/-- The functions of several rows that are of no use for one row with several cells. -/
def rowFunctions : List String := ["count", "min", "max", "sum", "total", "avg", "group_concat"]

/-- Whether an expression is about several rows. -/
def isOverRows : Expression → Bool
  | .call name arguments => rowFunctions.contains name && arguments.length ≤ 1
  | .prefixed _ e | .cast _ e | .collated _ e => isOverRows e
  | .operation _ a b => isOverRows a || isOverRows b
  | .listed e _ => isOverRows e
  | .choice a b c => isOverRows a || isOverRows b || isOverRows c
  | _ => false

/-- The rows from which a selection takes some. -/
structure Source where
  rows : List Binding
  /-- A row in which nothing stands. -/
  blank : Binding

/-- The rows of a table, known under a name; without a table one row without columns. -/
def source (s : Scope) : Option (String × String) → Except Signal Source
  | none =>
    let row : Binding := ⟨"", [], ⟨0, []⟩, false, false⟩
    .ok ⟨[row], row⟩
  | some (table, name) =>
    match s.relation? table with
    | none => .error .unknown
    | some r => .ok ⟨r.rows.map (r.binding name), r.binding name r.blank⟩

/-- The scopes in which the items of a selection are to be looked at: one for each row, or one for
all of them, in which the first one is known. -/
def itemScopes (s : Scope) (items : List Expression) (blank : Binding) (rows : List Binding) :
    List Scope :=
  if items.any isOverRows then [{ s.within (rows.headD blank) with group := some rows }]
  else rows.map s.within

mutual

/-- The value of an expression. -/
def value (s : Scope) : Expression → Except Signal Cell
  | .constant cell => .ok cell
  | .column row name isQuoted =>
    match s.find? row name with
    | some found => .ok found.cell
    | none =>
      if row.isNone && name == everything then
        .ok ((s.bindings.head?.bind (·.row.cells.head?)).getD (.integer 1))
      else if row.isNone && isQuoted then .ok (.text name)
      else .error .unknown
  | .prefixed p e => do return applySign p (← value s e)
  | .operation o a b => do
    let x ← value s a
    if o == .both && x.truth? == some false then return .ofBool false
    else applyOperator s o a b x (← value s b)
  | .listed e items => do return isAmong s e (← value s e) (← values s items)
  | .choice condition e otherwise => do
    if (← value s condition).truth? == some true then value s e else value s otherwise
  | .cast affinity e => do return (← value s e).cast affinity
  | .collated _ e => value s e
  | .call name arguments =>
    match s.group with
    | some rows =>
      if rowFunctions.contains name && arguments.length ≤ 1 then do
        let cells ← rows.mapM fun row => values (s.within row) arguments
        let cells := cells.map fun found => found.headD (.integer 1)
        ((Function.overRows? s.form .binary name cells).map Except.ok).getD (.error .unknown)
      else do
        let cells ← values s arguments
        ((Function.value? s.form .binary name cells).map Except.ok).getD (.error .unknown)
    | none => do
      let cells ← values s arguments
      let collation := (arguments.head?.bind (columnCollation? s)).getD .binary
      ((Function.value? s.form collation name cells).map Except.ok).getD (.error .unknown)
  | .ending found => .error (.ended found)
  | .selection use e items table condition => do
    let source ← source s table
    let rows ← source.rows.filterM fun row => do
      return (← value (s.within row) condition).truth? == some true
    let selected ← (itemScopes s items source.blank rows).mapM fun scope => values scope items
    let firsts := selected.map (·.headD .null)
    match use with
    | .existence => return .ofBool !rows.isEmpty
    | .first => return firsts.headD .null
    | .membership => return isAmong s e (← value s e) firsts

/-- The values of expressions. -/
def values (s : Scope) : List Expression → Except Signal (List Cell)
  | [] => .ok []
  | e :: rest => do return (← value s e) :: (← values s rest)

end

/-- Whether a condition is true; nothing is not. -/
def holds (s : Scope) (e : Expression) : Except Signal Bool := do
  return (← value s e).truth? == some true

/-- Whether a row passes a check: nothing does. -/
def passes (s : Scope) (e : Expression) : Except Signal Bool := do
  return (← value s e).truth? != some false

mutual

/-- Whether an expression speaks of nothing but known columns, and does not select rows. -/
def isKnown (knows : Option String → String → Bool) : Expression → Bool
  | .constant _ => true
  | .column row name isQuoted => knows row name || (row.isNone && isQuoted)
  | .prefixed _ e | .cast _ e | .collated _ e => isKnown knows e
  | .operation _ a b => isKnown knows a && isKnown knows b
  | .listed e items => isKnown knows e && areKnown knows items
  | .choice a b c => isKnown knows a && isKnown knows b && isKnown knows c
  | .call _ arguments => areKnown knows arguments
  | .ending _ | .selection .. => false

/-- Whether expressions speak of nothing but known columns. -/
def areKnown (knows : Option String → String → Bool) : List Expression → Bool
  | [] => true
  | e :: rest => isKnown knows e && areKnown knows rest

end

end Expression

end LogTemplate.Sink
