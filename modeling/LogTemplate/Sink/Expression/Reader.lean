import LogTemplate.Sink.Expression
import LogTemplate.Sink.Expression.Token

/-!
# Reading expressions

The expression at the front of some tokens.  Operators bind by levels, from `OR`, which binds least,
to the sign of a number, which binds most; those of one level bind from left to right.
-/

namespace LogTemplate.Sink

open Expression

/-- What stands at the front of some tokens, and the tokens behind it. -/
abbrev Reader (α : Type) := List Token → Option (α × List Token)

namespace Reader

/-- What follows a word. -/
def word (s : String) : List Token → Option (List Token)
  | token :: rest => if token.isWord s then some rest else none
  | [] => none

/-- What follows words. -/
def words : List String → List Token → Option (List Token)
  | [], tokens => some tokens
  | s :: more, tokens => do words more (← word s tokens)

/-- What follows a mark. -/
def mark (s : String) : List Token → Option (List Token)
  | .mark t :: rest => if s == t then some rest else none
  | _ => none

/-- Reads a name.  A word that is reserved is none. -/
def name : Reader String
  | .word s :: rest => if Token.isReserved s then none else some (s, rest)
  | .name s _ :: rest => some (s, rest)
  | .text s :: rest => some (s, rest)
  | _ => none

/-- Reads the name of a collation. -/
def collation : Reader Collation := fun tokens => do
  let (s, rest) ← name tokens
  match Token.lower s with
  | "binary" => some (.binary, rest)
  | "nocase" => some (.caseless, rest)
  | "rtrim" => some (.unpadded, rest)
  | _ => none

/-- Whether a text is in another one. -/
def isWithin (part s : String) : Bool := Text.remove part.toList s.toList != s.toList

/-- The affinity that the name of a type gives; none at all gives none. -/
def affinity (type : String) : Affinity :=
  let type := Token.lower type
  if isWithin "int" type then .integer
  else if isWithin "char" type || isWithin "clob" type || isWithin "text" type then .text
  else if isWithin "blob" type || type.isEmpty then .blob
  else if isWithin "real" type || isWithin "floa" type || isWithin "doub" type then .real
  else .numeric

/-- Reads the words of a type. -/
def typeWords (isEnd : String → Bool) : List Token → List String × List Token
  | .word s :: rest =>
    if isEnd (Token.lower s) then ([], .word s :: rest)
    else
      let (more, left) := typeWords isEnd rest
      (s :: more, left)
  | .name s _ :: rest | .text s :: rest =>
    let (more, left) := typeWords isEnd rest
    (s :: more, left)
  | tokens => ([], tokens)

/-- Drops the size behind a type, which stands in brackets. -/
def dropSize (tokens : List Token) : Option (List Token) :=
  match mark "(" tokens with
  | none => some tokens
  | some rest => mark ")" (rest.dropWhile (· != .mark ")"))

/-- Reads a type; `isEnd` tells the words that follow one. -/
def type (isEnd : String → Bool) : Reader String := fun tokens => do
  let (parts, rest) := typeWords isEnd tokens
  let rest ← if parts.isEmpty then some rest else dropSize rest
  return (" ".intercalate parts, rest)

/-- The levels at which operators bind. -/
def negationLevel : Nat := 2

/-- The level of equations and of what compares in words. -/
def equationLevel : Nat := 3

/-- The level of collations, beyond which there are no operators with two operands. -/
def collationLevel : Nat := 9

/-- The operators of a level by their marks. -/
def operators : Nat → List (String × Operator)
  | 3 => [("=", .comparison .equal), ("==", .comparison .equal), ("<>", .comparison .different),
      ("!=", .comparison .different)]
  | 4 => [("<", .comparison .less), ("<=", .comparison .atMost), (">", .comparison .greater),
      (">=", .comparison .atLeast)]
  | 5 => [("&", .bitwise .conjunction), ("|", .bitwise .disjunction), ("<<", .bitwise .left),
      (">>", .bitwise .right)]
  | 6 => [("+", .arithmetic .add), ("-", .arithmetic .subtract)]
  | 7 => [("*", .arithmetic .multiply), ("/", .arithmetic .divide), ("%", .arithmetic .remainder)]
  | 8 => [("||", .join), ("->", .member false), ("->>", .member true)]
  | _ => []

/-- The operator of a level that a token is. -/
def operator? (level : Nat) (token : Token) : Option Operator :=
  match level, token with
  | 0, token => if token.isWord "or" then some .either else none
  | 1, token => if token.isWord "and" then some .both else none
  | level, .mark s => (operators level).lookup s
  | _, _ => none

/-- The words that compare with a pattern. -/
def patternWords : List String := ["like", "glob", "regexp", "match"]

/-- The cells that words stand for.  The time at which a row is added is not known here. -/
def constants : List (String × Cell) := [
  ("null", .null), ("true", .integer 1), ("false", .integer 0),
  ("current_timestamp", .text "2000-01-01 00:00:00"), ("current_date", .text "2000-01-01"),
  ("current_time", .text "00:00:00")]

/-- The ways in which a statement ends, by name. -/
def endings : List (String × Ending) := [
  ("ignore", .ignore), ("abort", .abort), ("fail", .fail), ("rollback", .rollback)]

/-- Reads the ending that stands in brackets, behind which a message follows. -/
def ending : Reader Ending := fun tokens => do
  match ← mark "(" tokens with
  | .word s :: rest =>
    let found ← endings.lookup (Token.lower s)
    match found, rest with
    | .ignore, rest => return (found, ← mark ")" rest)
    | _, .mark "," :: .text _ :: rest | _, .mark "," :: .name .. :: rest =>
      return (found, ← mark ")" rest)
    | _, _ => none
  | _ => none

/-- Reads a table of a selection and the name under which it is known there. -/
def source : Reader (Option (String × String)) := fun tokens =>
  match word "from" tokens with
  | none => some (none, tokens)
  | some rest => do
    let (table, rest) ← name rest
    let named := (word "as" rest).getD rest
    match named with
    | .word s :: _ =>
      if Token.isReserved s || ["limit", "order"].contains (Token.lower s) then
        return (some (table, table), rest)
      else
        let (called, left) ← name named
        return (some (table, called), left)
    | .name .. :: _ =>
      let (called, left) ← name named
      return (some (table, called), left)
    | _ => return (some (table, table), rest)

/-- A selection within an expression, where the order of the rows does not count. -/
def within? (s : Selection) (use : Use) (value : Expression) : Option Expression :=
  if s.order.isEmpty && (s.limit.isNone || use != .membership) then
    some (.selection use value (s.items.map Prod.fst) s.table s.condition)
  else none

/-- The negation of an expression, if it is to be negated. -/
def negated (isNegated : Bool) (e : Expression) : Expression :=
  if isNegated then .prefixed .negation e else e

mutual

/-- Reads an expression of a level. -/
def expressionAt : (fuel level : Nat) → Reader Expression
  | 0, _, _ => none
  | fuel + 1, level, tokens =>
    if collationLevel < level then operand fuel tokens
    else if level = negationLevel then
      match word "not" tokens with
      | some rest => do
        let (e, rest) ← expressionAt fuel negationLevel rest
        return (.prefixed .negation e, rest)
      | none => expressionAt fuel (level + 1) tokens
    else do
      let (left, rest) ← expressionAt fuel (level + 1) tokens
      further fuel level left rest

/-- Reads on behind an operand of a level. -/
def further : (fuel level : Nat) → Expression → Reader Expression
  | 0, _, _, _ => none
  | fuel + 1, level, left, tokens =>
    match tokens.head?.bind (operator? level) with
    | some operator => do
      let (right, rest) ← expressionAt fuel (level + 1) (tokens.drop 1)
      further fuel level (.operation operator left right) rest
    | none =>
      if level = equationLevel then
        match comparison fuel left tokens with
        | some (e, rest) => further fuel level e rest
        | none => some (left, tokens)
      else if level = collationLevel then
        match (word "collate" tokens).bind collation with
        | some (found, rest) => further fuel level (.collated found left) rest
        | none => some (left, tokens)
      else some (left, tokens)

/-- Reads a comparison in words behind what is compared. -/
def comparison : (fuel : Nat) → Expression → Reader Expression
  | 0, _, _ => none
  | fuel + 1, left, tokens =>
    match tokens with
    | .word s :: rest =>
      match Token.lower s with
      | "isnull" => some (compared .identical left .null, rest)
      | "notnull" => some (compared .distinct left .null, rest)
      | "is" => identity fuel left rest
      | "not" =>
        match word "null" rest with
        | some rest => some (compared .distinct left .null, rest)
        | none => relation fuel left true rest
      | _ => relation fuel left false tokens
    | _ => none

/-- Reads what follows the word for identity. -/
def identity : (fuel : Nat) → Expression → Reader Expression
  | 0, _, _ => none
  | fuel + 1, left, tokens =>
    let isNegated := (word "not" tokens).isSome
    let rest := (word "not" tokens).getD tokens
    match words ["distinct", "from"] rest, word "true" rest, word "false" rest with
    | some rest, _, _ => do
      let (right, rest) ← expressionAt fuel (equationLevel + 1) rest
      return (compared (if isNegated then .identical else .distinct) left right, rest)
    | _, some rest, _ => some (negated isNegated (.prefixed (.truth true) left), rest)
    | _, _, some rest => some (negated isNegated (.prefixed (.truth false) left), rest)
    | _, _, _ => do
      let (right, rest) ← expressionAt fuel (equationLevel + 1) rest
      return (compared (if isNegated then .distinct else .identical) left right, rest)

/-- Reads a comparison with a range, a list or a pattern. -/
def relation : (fuel : Nat) → Expression → Bool → Reader Expression
  | 0, _, _, _ => none
  | fuel + 1, left, isNegated, tokens =>
    match tokens with
    | .word s :: rest =>
      let s := Token.lower s
      if s == "between" then do
        let (low, rest) ← expressionAt fuel (equationLevel + 1) rest
        let (high, rest) ← expressionAt fuel (equationLevel + 1) (← word "and" rest)
        return (negated isNegated
          (both (compared .atLeast left low) (compared .atMost left high)), rest)
      else if s == "in" then do
        let (e, rest) ← members fuel left rest
        return (negated isNegated e, rest)
      else if patternWords.contains s then do
        let (pattern, rest) ← expressionAt fuel (equationLevel + 1) rest
        match word "escape" rest with
        | none => return (negated isNegated (.call s [pattern, left]), rest)
        | some rest =>
          let (escape, rest) ← expressionAt fuel (equationLevel + 2) rest
          return (negated isNegated (.call s [pattern, left, escape]), rest)
      else none
    | _ => none

/-- Reads the list, the selection or the table that a value may be in. -/
def members : (fuel : Nat) → Expression → Reader Expression
  | 0, _, _ => none
  | fuel + 1, left, tokens =>
    match mark "(" tokens with
    | none => do
      let (table, rest) ← name tokens
      return (.selection .membership left [.column none everything false] (some (table, table))
        yes, rest)
    | some rest =>
      if (word "select" rest).isSome then do
        let (s, rest) ← selection fuel rest
        return (← within? s .membership left, ← mark ")" rest)
      else do
        let (items, rest) ← arguments fuel rest
        return (.listed left items, rest)

/-- Reads expressions up to a closing bracket. -/
def arguments : (fuel : Nat) → Reader (List Expression)
  | 0, _ => none
  | fuel + 1, tokens =>
    match mark ")" tokens with
    | some rest => some ([], rest)
    | none => do
      let (e, rest) ← expressionAt fuel 0 tokens
      match mark "," rest with
      | none => return ([e], ← mark ")" rest)
      | some more =>
        let (others, rest) ← arguments fuel more
        if others.isEmpty then none else return (e :: others, rest)

/-- Reads what has no operator with two operands outside brackets. -/
def operand : (fuel : Nat) → Reader Expression
  | 0, _ => none
  | fuel + 1, tokens =>
    match tokens with
    | .value cell :: rest => some (.constant cell, rest)
    | .text s :: rest => some (.constant (.text s), rest)
    | .mark "-" :: rest => signed fuel .minus rest
    | .mark "+" :: rest => signed fuel .plus rest
    | .mark "~" :: rest => signed fuel .complement rest
    | .mark "(" :: rest =>
      if (word "select" rest).isSome then do
        let (s, rest) ← selection fuel rest
        return (← within? s .first .null, ← mark ")" rest)
      else do
        let (e, rest) ← expressionAt fuel 0 rest
        return (e, ← mark ")" rest)
    | .name s isQuoted :: rest => named fuel s isQuoted rest
    | .word s :: rest =>
      match constants.lookup (Token.lower s) with
      | some cell => some (.constant cell, rest)
      | none =>
        match Token.lower s with
        | "not" => do
          let (e, rest) ← expressionAt fuel negationLevel rest
          return (.prefixed .negation e, rest)
        | "case" =>
          if (word "when" rest).isSome then branches fuel none rest
          else do
            let (base, rest) ← expressionAt fuel 0 rest
            branches fuel (some base) rest
        | "cast" => do
          let (e, rest) ← expressionAt fuel 0 (← mark "(" rest)
          let (type, rest) ← type (fun _ => false) (← word "as" rest)
          return (.cast (affinity type) e, ← mark ")" rest)
        | "exists" => do
          let (s, rest) ← selection fuel (← mark "(" rest)
          return (← within? s .existence .null, ← mark ")" rest)
        | "raise" => (ending rest).map fun (found, rest) => (.ending found, rest)
        | _ =>
          if Token.isReserved s then none
          else named fuel s false rest
    | _ => none

/-- Reads what a sign applies to. -/
def signed : (fuel : Nat) → Prefixed → Reader Expression
  | 0, _, _ => none
  | fuel + 1, sign, tokens =>
    (operand fuel tokens).map fun (e, rest) => (.prefixed sign e, rest)

/-- Reads what a name is part of: a call, the column of a row, or a column. -/
def named : (fuel : Nat) → String → Bool → Reader Expression
  | 0, _, _, _ => none
  | fuel + 1, s, isQuoted, tokens =>
    match tokens with
    | .mark "(" :: .mark "*" :: rest => do
      return (.call (Token.lower s) [], ← mark ")" rest)
    | .mark "(" :: rest =>
      (arguments fuel ((word "distinct" rest).getD rest)).map fun (found, rest) =>
        (.call (Token.lower s) found, rest)
    | .mark "." :: rest => do
      let (member, rest) ← name rest
      return (.column (some s) member false, rest)
    | _ => some (.column none s isQuoted, tokens)

/-- Reads the branches of a choice, of which the first is taken whose condition is true, or whose
value is the base. -/
def branches : (fuel : Nat) → Option Expression → Reader Expression
  | 0, _, _ => none
  | fuel + 1, base, tokens =>
    match word "when" tokens, word "else" tokens with
    | some rest, _ => do
      let (condition, rest) ← expressionAt fuel 0 rest
      let (value, rest) ← expressionAt fuel 0 (← word "then" rest)
      let condition := match base with
        | none => condition
        | some base => compared .equal base condition
      let (otherwise, rest) ← branches fuel base rest
      return (.choice condition value otherwise, rest)
    | none, some rest => do
      let (e, rest) ← expressionAt fuel 0 rest
      return (e, ← word "end" rest)
    | none, none => do return (.null, ← word "end" tokens)

/-- Reads a selection. -/
def selection : (fuel : Nat) → Reader Selection
  | 0, _ => none
  | fuel + 1, tokens => do
    let (items, rest) ← items fuel (← word "select" tokens)
    let (table, rest) ← source rest
    let (condition, rest) ← match word "where" rest with
      | none => some (yes, rest)
      | some rest => expressionAt fuel 0 rest
    let (order, rest) ← match words ["order", "by"] rest with
      | none => some ([], rest)
      | some rest => order fuel rest
    match word "limit" rest with
    | none => return (⟨items, table, condition, order, none⟩, rest)
    | some rest =>
      let (limit, rest) ← expressionAt fuel 0 rest
      return (⟨items, table, condition, order, some limit⟩, rest)

/-- Reads the items of a selection, which may be given names. -/
def items : (fuel : Nat) → Reader (List (Expression × Option String))
  | 0, _ => none
  | fuel + 1, tokens => do
    let (item, rest) ← item fuel tokens
    match mark "," rest with
    | none => return ([item], rest)
    | some rest =>
      let (others, rest) ← items fuel rest
      return (item :: others, rest)

/-- Reads an item of a selection. -/
def item : (fuel : Nat) → Reader (Expression × Option String)
  | 0, _ => none
  | fuel + 1, tokens =>
    match tokens with
    | .mark "*" :: rest => some ((.column none everything false, none), rest)
    | _ => do
      let (e, rest) ← expressionAt fuel 0 tokens
      match word "as" rest with
      | some rest =>
        let (s, rest) ← name rest
        return ((e, some s), rest)
      | none => return ((e, none), rest)

/-- Reads the terms that rows are ordered by; whether they are in descending order follows each. -/
def order : (fuel : Nat) → Reader (List (Expression × Bool))
  | 0, _ => none
  | fuel + 1, tokens => do
    let (e, rest) ← expressionAt fuel 0 tokens
    let isDescending := (word "desc" rest).isSome
    let rest := ((word "desc" rest).orElse fun _ => word "asc" rest).getD rest
    match mark "," rest with
    | none => return ([(e, isDescending)], rest)
    | some rest =>
      let (others, rest) ← order fuel rest
      return ((e, isDescending) :: others, rest)

end

/-- How many levels of operators there are. -/
def levels : Nat := collationLevel + 2

/-- The fuel that suffices for some tokens: a token at most opens all levels. -/
def fuelFor (tokens : List Token) : Nat := 2 * levels * (tokens.length + 1)

/-- Reads an expression. -/
def expression : Reader Expression := fun tokens => expressionAt (fuelFor tokens) 0 tokens

/-- Reads an expression in brackets. -/
def bracketed : Reader Expression := fun tokens => do
  let (e, rest) ← expression (← mark "(" tokens)
  return (e, ← mark ")" rest)

end Reader

end LogTemplate.Sink
