import LogTemplate.Sink.Affinity

/-!
# Expressions

The expressions of the database's language, in which a database says what its columns hold, which
rows it admits and what is to be done when a row comes or goes.
-/

namespace LogTemplate.Sink

/-- An operator with one operand. -/
inductive Prefixed where
  | plus
  | minus
  | complement
  | negation
  /-- Whether the operand is true, or is false. -/
  | truth (wanted : Bool)
  deriving DecidableEq, Repr, Inhabited

/-- How two cells may compare. -/
inductive Comparison where
  | equal
  | different
  | less
  | atMost
  | greater
  | atLeast
  /-- Equal, or both nothing. -/
  | identical
  | distinct
  deriving DecidableEq, Repr, Inhabited

/-- An operator on numbers. -/
inductive Arithmetic where
  | add
  | subtract
  | multiply
  | divide
  | remainder
  deriving DecidableEq, Repr, Inhabited

/-- An operator on the bits of integers. -/
inductive Bitwise where
  | conjunction
  | disjunction
  | left
  | right
  deriving DecidableEq, Repr, Inhabited

/-- An operator with two operands. -/
inductive Operator where
  | either
  | both
  | comparison (c : Comparison)
  | arithmetic (a : Arithmetic)
  | bitwise (b : Bitwise)
  | join
  /-- A member of a JSON text, as a JSON text or as what that denotes. -/
  | member (isDenoted : Bool)
  deriving DecidableEq, Repr, Inhabited

/-- How a statement ends that is not carried out. -/
inductive Ending where
  /-- Without a word. -/
  | ignore
  /-- What it has changed is taken back. -/
  | abort
  /-- What it has changed stays. -/
  | fail
  /-- What the batch has changed is taken back. -/
  | rollback
  deriving DecidableEq, Repr, Inhabited

/-- What is made of the rows that a selection gives. -/
inductive Use where
  /-- Whether there are any. -/
  | existence
  /-- The first cell of the first one. -/
  | first
  /-- Whether a cell is among the first ones. -/
  | membership
  deriving DecidableEq, Repr, Inhabited

/-- An expression. -/
inductive Expression where
  | constant (cell : Cell)
  /-- The column of a name in a row that may have one, too.  In double quotes a name that is no
  column's is a text. -/
  | column (row : Option String) (name : String) (isQuoted : Bool)
  | prefixed (operator : Prefixed) (operand : Expression)
  | operation (operator : Operator) (left right : Expression)
  /-- Whether a value is in a list. -/
  | listed (value : Expression) (items : List Expression)
  | choice (condition value otherwise : Expression)
  | cast (affinity : Affinity) (operand : Expression)
  | collated (collation : Collation) (operand : Expression)
  | call (function : String) (arguments : List Expression)
  | ending (ending : Ending)
  /-- The rows of a table that meet a condition, or one row of no table. -/
  | selection (use : Use) (value : Expression) (items : List Expression)
      (table : Option (String × String)) (condition : Expression)
  deriving Repr, Inhabited

namespace Expression

/-- The name that stands for all columns. -/
def everything : String := "*"

/-- The expression that holds nothing. -/
def null : Expression := .constant .null

/-- The expression that is always true. -/
def yes : Expression := .constant (.integer 1)

/-- The conjunction of expressions. -/
def both (a b : Expression) : Expression := .operation .both a b

/-- Whether two expressions compare in a way. -/
def compared (c : Comparison) (a b : Expression) : Expression := .operation (.comparison c) a b

end Expression

/-- What a selection gives: its items, with the names that they are given, the table that they come
from, the condition on its rows, the order of them and how many there may be. -/
structure Selection where
  items : List (Expression × Option String)
  table : Option (String × String)
  condition : Expression
  order : List (Expression × Bool)
  limit : Option Expression
  deriving Repr, Inhabited

end LogTemplate.Sink
