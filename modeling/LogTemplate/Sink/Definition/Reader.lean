import LogTemplate.Sink.Expression.Reader
import LogTemplate.Sink.Expression.Value

/-!
# Reading definitions

What the text of a definition defines: a table, an index, a trigger or a view.  The definition of a
table has to be sound: its keys, checks and generated columns speak of its own columns only.
-/

namespace LogTemplate.Sink

/-- What a text can define. -/
inductive Defined where
  | table (name : String) (definition : Definition)
  | index (index : Index)
  | trigger (trigger : Trigger)
  | view (view : View)
  deriving Repr, Inhabited

namespace Reader

/-- Drops tokens that may be missing. -/
def optional (parse : List Token → Option (List Token)) (tokens : List Token) : List Token :=
  (parse tokens).getD tokens

/-- Drops what is to be done about a row that clashes, which an addition does not heed. -/
def dropConflict (tokens : List Token) : List Token :=
  match words ["on", "conflict"] tokens with
  | some rest => rest.drop 1
  | none => tokens

/-- Drops names in brackets. -/
def dropNames (tokens : List Token) : List Token :=
  match mark "(" tokens with
  | some rest => (rest.dropWhile (· != .mark ")")).drop 1
  | none => tokens

/-- Drops what is said about a row of another table to which one refers: what is to be done when
that row goes or changes, and when that is looked at. -/
def dropReference : (fuel : Nat) → List Token → List Token
  | 0, tokens => tokens
  | fuel + 1, tokens =>
    match words ["on"] tokens, word "match" tokens with
    | some (_ :: action), _ =>
      let rest := match word "set" action, word "no" action with
        | some rest, _ | _, some rest => rest.drop 1
        | none, none => action.drop 1
      dropReference fuel rest
    | _, some rest => dropReference fuel (rest.drop 1)
    | _, none =>
      match word "deferrable" (optional (word "not") tokens) with
      | some rest =>
        match word "initially" rest with
        | some rest => rest.drop 1
        | none => rest
      | none => tokens

/-- Reads a table to which rows refer. -/
def reference (tokens : List Token) : Option (List Token) := do
  let (_, rest) ← name tokens
  return dropReference tokens.length (dropNames rest)

/-- The term that an expression is.  A text stands for the column of that name. -/
def termOf (e : Expression) (isDescending : Bool) : Term :=
  let collation := (Expression.namedCollation? e).getD .binary
  match e with
  | .constant (.text s) => { value := .column none s false, collation, isDescending }
  | .collated _ e => { value := e, collation, isDescending }
  | e => { value := e, collation, isDescending }

/-- Reads the terms of a key in brackets, each with whether it names its collation. -/
def terms : Reader (List (Term × Bool)) := fun tokens => do
  let (found, rest) ← order (fuelFor tokens) (← mark "(" tokens)
  let rest := optional (word "autoincrement") rest
  return (found.map fun (e, isDescending) =>
    (termOf e isDescending, (Expression.namedCollation? e).isSome), ← mark ")" rest)

/-- What is known of a table while its definition is read. -/
structure Draft where
  columns : List Column := []
  /-- The terms of the key by which rows are found first, and whether it may be their number. -/
  primary : Option (List (Term × Bool) × Bool) := none
  isCounted : Bool := false
  /-- The keys, each with whether it is the primary one. -/
  keys : List (List (Term × Bool) × Bool) := []
  checks : List Expression := []
  isNumbered : Bool := true
  isStrict : Bool := false

/-- Sets the primary key of a table, which has but one. -/
def Draft.setPrimary (d : Draft) (key : List (Term × Bool)) (mayCount isCounted : Bool) :
    Option Draft :=
  if d.primary.isSome then none
  else some { d with
    primary := some (key, mayCount)
    isCounted
    keys := d.keys ++ [(key, true)] }

/-- Adds a key to a table. -/
def Draft.addKey (d : Draft) (key : List (Term × Bool)) : Draft :=
  { d with keys := d.keys ++ [(key, false)] }

/-- Reads what stands in a column unless something is given. -/
def defaultValue : Reader Expression := fun tokens =>
  match tokens with
  | .mark "(" :: _ => bracketed tokens
  | .mark "-" :: rest => (operand (fuelFor rest) rest).map fun (e, rest) =>
    (.prefixed .minus e, rest)
  | .mark "+" :: rest => operand (fuelFor rest) rest
  | .word s :: rest =>
    match constants.lookup (Token.lower s) with
    | some cell => some (.constant cell, rest)
    | none => (name tokens).map fun _ => (.constant (.text s), rest)
  | .name s _ :: rest | .text s :: rest => some (.constant (.text s), rest)
  | .value cell :: rest => some (.constant cell, rest)
  | _ => none

/-- Reads how the cells of a column are generated. -/
def generated : Reader Generated := fun tokens => do
  let (value, rest) ← bracketed tokens
  match word "stored" rest with
  | some rest => return (⟨value, true⟩, rest)
  | none => return (⟨value, false⟩, optional (word "virtual") rest)

/-- Reads what is said of a column behind its type. -/
def columnRules : (fuel : Nat) → Draft → Column → Reader (Draft × Column)
  | 0, _, _, _ => none
  | fuel + 1, d, column, tokens =>
    match tokens with
    | .word s :: rest =>
      let self : Term × Bool := (Definition.term column.name, false)
      match Token.lower s with
      | "constraint" => do
        let (_, rest) ← name rest
        columnRules fuel d column rest
      | "primary" => do
        let rest ← word "key" rest
        let isDescending := (word "desc" rest).isSome
        let rest := dropConflict (optional (word "desc") (optional (word "asc") rest))
        let isCounted := (word "autoincrement" rest).isSome
        let d ← d.setPrimary [({ self.1 with isDescending }, false)] (!isDescending) isCounted
        columnRules fuel d column (optional (word "autoincrement") rest)
      | "not" =>
        match word "null" rest with
        | some rest => columnRules fuel d { column with isRequired := true } (dropConflict rest)
        | none => columnRules fuel d column (dropReference tokens.length tokens)
      | "null" => columnRules fuel d column (dropConflict rest)
      | "unique" =>
        columnRules fuel (d.addKey [self]) column (dropConflict rest)
      | "check" => do
        let (e, rest) ← bracketed rest
        columnRules fuel { d with checks := d.checks ++ [e] } column rest
      | "default" => do
        let (default, rest) ← defaultValue rest
        columnRules fuel d { column with default } rest
      | "collate" => do
        let (collation, rest) ← collation rest
        columnRules fuel d { column with collation } rest
      | "references" => do columnRules fuel d column (← reference rest)
      | "deferrable" => columnRules fuel d column (dropReference tokens.length tokens)
      | "generated" => do
        let (found, rest) ← generated (← words ["always", "as"] rest)
        columnRules fuel d { column with generated := some found } rest
      | "as" => do
        let (found, rest) ← generated rest
        columnRules fuel d { column with generated := some found } rest
      | _ => none
    | _ => some ((d, column), tokens)

/-- The words that end the type of a column. -/
def ruleWords : List String :=
  ["constraint", "primary", "not", "null", "unique", "check", "default", "collate", "references",
    "deferrable", "generated", "as"]

/-- Reads a column. -/
def columnOf (d : Draft) : Reader Draft := fun tokens => do
  let (s, rest) ← name tokens
  let (type, rest) ← type ruleWords.contains rest
  let column : Column := { name := s, type := Token.lower type, affinity := affinity type }
  let ((d, column), rest) ← columnRules (tokens.length + 1) d column rest
  return ({ d with columns := d.columns ++ [column] }, rest)

/-- Reads a rule on the rows of a table. -/
def tableRule (d : Draft) : Reader Draft := fun tokens => do
  match tokens with
  | .word s :: rest =>
    match Token.lower s with
    | "primary" =>
      let rest ← word "key" rest
      let isCounted := rest.any (·.isWord "autoincrement")
      let (key, rest) ← terms rest
      return (← d.setPrimary key true isCounted, dropConflict rest)
    | "unique" =>
      let (key, rest) ← terms rest
      return (d.addKey key, dropConflict rest)
    | "check" =>
      let (e, rest) ← bracketed rest
      return ({ d with checks := d.checks ++ [e] }, dropConflict rest)
    | "foreign" =>
      let rest ← word "key" rest
      return (d, ← reference (← word "references" (dropNames rest)))
    | _ => none
  | _ => none

/-- Reads the rules on the rows of a table, which commas may separate, up to the closing bracket. -/
def tableRules : (fuel : Nat) → Draft → Reader Draft
  | 0, _, _ => none
  | fuel + 1, d, tokens =>
    match mark ")" tokens with
    | some rest => some (d, rest)
    | none => do
      match word "constraint" tokens with
      | some rest =>
        let (_, rest) ← name rest
        tableRules fuel d rest
      | none =>
        let (d, rest) ← tableRule d tokens
        tableRules fuel d (optional (mark ",") rest)

/-- The words that start a rule on the rows of a table. -/
def tableRuleWords : List String := ["constraint", "primary", "unique", "check", "foreign"]

/-- Reads the columns of a table and the rules on its rows, up to the closing bracket. -/
def columns : (fuel : Nat) → Draft → Reader Draft
  | 0, _, _ => none
  | fuel + 1, d, tokens =>
    if !d.columns.isEmpty && tableRuleWords.any fun s => tokens.head?.any (·.isWord s) then
      tableRules (tokens.length + 1) d tokens
    else do
      let (d, rest) ← columnOf d tokens
      match mark "," rest with
      | some rest => columns fuel d rest
      | none => tableRules (rest.length + 1) d rest

/-- Reads what is said of a table behind its columns. -/
def options : (fuel : Nat) → Draft → List Token → Option Draft
  | _, d, [] => some d
  | 0, _, _ => none
  | fuel + 1, d, tokens =>
    let tokens := optional (mark ",") tokens
    match words ["without", "rowid"] tokens, word "strict" tokens with
    | some rest, _ => options fuel { d with isNumbered := false } rest
    | _, some rest => options fuel { d with isStrict := true } rest
    | _, _ => none

/-- The name of the column that a term is. -/
def columnName? (t : Term) : Option String :=
  match t.value with
  | .column none name _ => some name
  | _ => none

/-- A term with the collation of its column, unless it names one. -/
def settleTerm (columns : List Column) (isNamed : Bool) (t : Term) : Term :=
  match columns.find? fun c => (columnName? t).any (Definition.sameName c.name) with
  | some column => if isNamed then t else { t with collation := column.collation }
  | none => t

/-- The types of columns in which the types of cells are checked. -/
def strictTypes : List String := ["int", "integer", "real", "text", "blob", "any"]

/-- Whether no name stands twice in a list. -/
def areDistinct : List String → Bool
  | [] => true
  | s :: rest => !rest.any (Definition.sameName s) && areDistinct rest

/-- Whether the expressions of a table speak of its own columns only. -/
def isSound (d : Definition) : Bool :=
  let knows := fun (row : Option String) (name : String) =>
    row.isNone && ((d.column? name).isSome
      || (d.isNumbered && idNames.any (Definition.sameName name)))
  let keyed := d.keys.flatMap fun key => key.terms
  d.checks.all (Expression.isKnown knows)
    && d.columns.all (fun c => c.generated.all fun g => g.value.isKnown knows)
    && keyed.all fun t => (columnName? t).any fun name => (d.column? name).isSome

/-- Whether the terms of two keys are the same columns, whatever their directions. -/
def areAlike (a b : List Term) : Bool :=
  a.length == b.length && (a.zip b).all fun (t, u) => t.isSame u

/-- The definition that a draft comes to, if it is sound. -/
def Draft.finish (d : Draft) : Option Definition :=
  let primary := (d.primary.map Prod.fst).getD []
  let isNamed := fun (t : Term) (c : Column) =>
    (columnName? t).any (Definition.sameName c.name)
  let numbering := match d.primary with
    | some ([(t, _)], true) =>
      d.columns.find? fun (c : Column) => c.type == "integer" && isNamed t c
    | _ => none
  let idColumn := if d.isNumbered then numbering.map Column.name else none
  let settle := fun (key : List (Term × Bool)) =>
    key.map fun (t, isNamed) => settleTerm d.columns isNamed t
  let leading := fun (key : List Term) =>
    ((d.keys.map fun other => settle other.1).find? (areAlike key)).getD key
  let order := if d.isNumbered then [] else Term.extend [] (leading (settle primary))
  let isInOrder := fun (c : Column) => order.any (isNamed · c)
  let settleColumn := fun (c : Column) => { c with
    isRequired := c.isRequired || isInOrder c
    affinity := if d.isStrict && c.type == "any" then .blob else c.affinity }
  let definition : Definition := {
    columns := d.columns.map settleColumn
    idColumn
    isCounted := d.isCounted
    keys := (d.keys.filter fun key => !(key.2 && idColumn.isSome)).map fun key =>
      { terms := settle key.1 }
    checks := d.checks
    order
    isStrict := d.isStrict }
  let hasTypes := !d.isStrict || d.columns.all fun c => strictTypes.contains c.type
  let hasOrder := d.isNumbered || !order.isEmpty
  let hasCount := !d.isCounted || idColumn.isSome
  if hasTypes && hasOrder && hasCount && areDistinct (d.columns.map Column.name)
      && d.columns.any (·.generated.isNone) && isSound definition then
    some definition
  else none

/-- Reads the name of what is defined, which may stand behind the name of its database. -/
def definedName : Reader String := fun tokens => do
  let tokens ← match word "if" tokens with
    | some rest => words ["not", "exists"] rest
    | none => some tokens
  let (s, rest) ← name tokens
  match mark "." rest with
  | some rest => name rest
  | none => return (s, rest)

/-- The table whose definition starts with its name. -/
def table? (tokens : List Token) : Option Defined := do
  let (s, rest) ← definedName tokens
  let rest ← mark "(" rest
  let (d, rest) ← columns (tokens.length + 1) {} rest
  let d ← options (rest.length + 1) d rest
  return .table s (← d.finish)

/-- The index whose definition starts with its name. -/
def index? (isUnique : Bool) (tokens : List Token) : Option Defined := do
  let (s, rest) ← definedName tokens
  let (table, rest) ← name (← word "on" rest)
  let (found, rest) ← terms rest
  let terms := found.map Prod.fst
  match word "where" rest with
  | none => return .index { name := s, table, key := { terms }, isUnique }
  | some rest =>
    let (condition, _) ← expression rest
    return .index { name := s, table, key := { terms, condition := some condition }, isUnique }

/-- Reads names that commas separate. -/
def names : (fuel : Nat) → Reader (List String)
  | 0, _ => none
  | fuel + 1, tokens => do
    let (s, rest) ← name tokens
    match mark "," rest with
    | none => return ([s], rest)
    | some rest =>
      let (others, rest) ← names fuel rest
      return (s :: others, rest)

/-- Reads names in brackets, which may be missing. -/
def listedNames : Reader (List String) := fun tokens =>
  match mark "(" tokens with
  | none => some ([], tokens)
  | some rest => do
    let (found, rest) ← names rest.length rest
    return (found, ← mark ")" rest)

/-- Whether rows that clash are to be passed over, and what follows that. -/
def leniency (tokens : List Token) : Bool × List Token :=
  match word "or" tokens with
  | some rest => ((word "ignore" rest).isSome, rest.drop 1)
  | none => (false, tokens)

/-- Reads rows of expressions in brackets. -/
def rows : (fuel : Nat) → Reader (List (List Expression))
  | 0, _ => none
  | fuel + 1, tokens => do
    let (row, rest) ← arguments (fuelFor tokens) (← mark "(" tokens)
    match mark "," rest with
    | none => return ([row], rest)
    | some rest =>
      let (others, rest) ← rows fuel rest
      return (row :: others, rest)

/-- Reads the cells that are set. -/
def assignments : (fuel : Nat) → Reader (List (String × Expression))
  | 0, _ => none
  | fuel + 1, tokens => do
    let (s, rest) ← name tokens
    let (e, rest) ← expressionAt (fuelFor tokens) 0 (← mark "=" rest)
    match mark "," rest with
    | none => return ([(s, e)], rest)
    | some rest =>
      let (others, rest) ← assignments fuel rest
      return ((s, e) :: others, rest)

/-- Reads a condition, which may be missing. -/
def condition : Reader Expression := fun tokens =>
  match word "where" tokens with
  | none => some (.yes, tokens)
  | some rest => expression rest

/-- Reads something that is done about a row. -/
def action : Reader Action := fun tokens => do
  match tokens with
  | .word s :: rest =>
    match Token.lower s with
    | "select" =>
      let (found, rest) ← selection (fuelFor tokens) tokens
      return (.select found, rest)
    | "insert" =>
      let (isLenient, rest) := leniency rest
      let (table, rest) ← name (← word "into" rest)
      let (columns, rest) ← listedNames rest
      match word "values" rest with
      | some rest =>
        let (rows, rest) ← rows rest.length rest
        return (.insert isLenient table columns rows none, rest)
      | none =>
        let (found, rest) ← selection (fuelFor rest) rest
        return (.insert isLenient table columns [] (some found), rest)
    | "update" =>
      let (isLenient, rest) := leniency rest
      let (table, rest) ← name rest
      let (cells, rest) ← assignments tokens.length (← word "set" rest)
      let (condition, rest) ← condition rest
      return (.update isLenient table cells condition, rest)
    | "delete" =>
      let (table, rest) ← name (← word "from" rest)
      let (condition, rest) ← condition rest
      return (.delete table condition, rest)
    | _ => none
  | _ => none

/-- The actions up to the end of a trigger. -/
def actions? : (fuel : Nat) → List Token → Option (List Action)
  | 0, _ => none
  | fuel + 1, tokens =>
    if (word "end" tokens).isSome then some []
    else do
      let (found, rest) ← action tokens
      return found :: (← actions? fuel (← mark ";" rest))

/-- Reads what happens to a row. -/
def event : Reader Event := fun tokens => do
  match tokens with
  | .word s :: rest =>
    match Token.lower s with
    | "insert" => return (.insertion, rest)
    | "delete" => return (.deletion, rest)
    | "update" =>
      match word "of" rest with
      | none => return (.update [], rest)
      | some rest =>
        let (found, rest) ← names rest.length rest
        return (.update found, rest)
    | _ => none
  | _ => none

/-- Reads when something is done. -/
def time (tokens : List Token) : Time × List Token :=
  match word "before" tokens, word "after" tokens, words ["instead", "of"] tokens with
  | some rest, _, _ => (.before, rest)
  | _, some rest, _ => (.after, rest)
  | _, _, some rest => (.instead, rest)
  | _, _, _ => (.before, tokens)

/-- The trigger whose definition starts with its name. -/
def trigger? (tokens : List Token) : Option Defined := do
  let (s, rest) ← definedName tokens
  let (time, rest) := time rest
  let (event, rest) ← event rest
  let (table, rest) ← name (← word "on" rest)
  let rest := optional (words ["for", "each", "row"]) rest
  let (condition, rest) ← match word "when" rest with
    | none => some (.yes, rest)
    | some rest => expression rest
  let rest ← word "begin" rest
  return .trigger {
    name := s, table, time, event, condition, actions := actions? rest.length rest }

/-- The view whose definition starts with its name. -/
def view? (tokens : List Token) : Option Defined := do
  let (s, rest) ← definedName tokens
  let (columns, rest) ← listedNames rest
  let rest ← word "as" rest
  let selection := match selection (fuelFor rest) rest with
    | some (found, []) => some found
    | _ => none
  return .view { name := s, columns, selection }

/-- What some tokens define. -/
def defined? (tokens : List Token) : Option Defined := do
  match ← word "create" tokens with
  | .word s :: rest =>
    match Token.lower s with
    | "table" => table? rest
    | "unique" => index? true (← word "index" rest)
    | "index" => index? false rest
    | "trigger" => trigger? rest
    | "view" => view? rest
    | "virtual" => do
      let (s, _) ← definedName (← word "table" rest)
      return .view { name := s, columns := [], selection := none }
    | _ => none
  | _ => none

end Reader

/-- What a text defines. -/
def Defined.ofText? (text : String) : Option Defined := (Token.scan text).bind Reader.defined?

end LogTemplate.Sink
