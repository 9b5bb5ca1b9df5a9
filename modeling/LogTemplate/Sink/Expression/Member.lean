import LogTemplate.Json.Reader
import LogTemplate.Json.Writer
import LogTemplate.Sink.Cell
import LogTemplate.Text.Digit
import LogTemplate.Text.Split

/-!
# Members of JSON texts

A cell may hold a JSON text, whose members are reached by paths: `$` is the whole of it, behind
which `.key` leads to an entry and `[n]` to an item, counted from zero or, as `[#-n]`, from the end.
-/

namespace LogTemplate.Sink

namespace Member

/-- A step of a path. -/
inductive Step where
  | entry (key : String)
  | item (n : Nat)
  | itemFromEnd (n : Nat)
  deriving DecidableEq, Repr

/-- The step between brackets. -/
def item? : List Char → Option Step
  | ['#'] => some (.itemFromEnd 0)
  | '#' :: '-' :: digits =>
    if !digits.isEmpty && digits.all Char.isDigit then
      some (.itemFromEnd (Text.decimalNumber (digits.map .char)))
    else none
  | digits =>
    if !digits.isEmpty && digits.all Char.isDigit then
      some (.item (Text.decimalNumber (digits.map .char)))
    else none

/-- The steps of what follows the mark for the whole; `fuel` bounds its length. -/
def stepsOf? : (fuel : Nat) → List Char → Option (List Step)
  | _, [] => some []
  | 0, _ :: _ => none
  | fuel + 1, '.' :: '"' :: rest => do
    let (key, left) ← Text.splitAt? '"' rest
    return .entry (String.ofList key) :: (← stepsOf? fuel left)
  | fuel + 1, '.' :: rest =>
    let isInside := fun (c : Char) => c != '.' && c != '['
    let key := rest.takeWhile isInside
    if key.isEmpty then none
    else (stepsOf? fuel (rest.dropWhile isInside)).map (.entry (String.ofList key) :: ·)
  | fuel + 1, '[' :: rest => do
    let (inside, left) ← Text.splitAt? ']' rest
    return (← item? inside) :: (← stepsOf? fuel left)
  | _ + 1, _ => none

/-- The steps of a path. -/
def steps? : List Char → Option (List Step)
  | '$' :: rest => stepsOf? rest.length rest
  | _ => none

/-- The steps that an operator takes: a path, a key, or the number of an item. -/
def shortSteps? : Cell → Option (List Step)
  | .integer n => some [if 0 ≤ n then .item n.toNat else .itemFromEnd n.natAbs]
  | .text s =>
    match s.toList with
    | '$' :: rest => steps? ('$' :: rest)
    | _ => some [.entry s]
  | _ => none

/-- Where a step leads. -/
def Step.next? : Step → Document → Option Document
  | .entry key, .mapping entries => OrderedMap.lookup (key : Text) entries
  | .item n, .list items => items[n]?
  | .itemFromEnd n, .list items =>
    if 0 < n && n ≤ items.length then items[items.length - n]? else none
  | _, _ => none

/-- Where steps lead. -/
def follow? (d : Document) (steps : List Step) : Option Document :=
  steps.foldlM (fun d step => step.next? d) d

/-- Whether a document has numbers that no JSON text has. -/
def isOdd : Document → Bool
  | .float x => !x.isFinite
  | _ => false

mutual

/-- Whether a document has no numbers but such that a JSON text has. -/
def isProper : Document → Bool
  | .list items => areProper items
  | .mapping entries => areProperEntries entries
  | d => !isOdd d

/-- Whether the items of a list have no other numbers. -/
def areProper : List Document → Bool
  | [] => true
  | d :: rest => isProper d && areProper rest

/-- Whether the entries of a mapping have no other numbers. -/
def areProperEntries : List (Text × Document) → Bool
  | [] => true
  | (_, d) :: rest => isProper d && areProperEntries rest

end

/-- How deep a database reads into a JSON text. -/
def depthLimit : Nat := 1000

/-- The document of a JSON text. -/
def read? (s : List Char) : Option Document :=
  (Json.readWithin depthLimit (s.map .char)).toOption.filter isProper

/-- The JSON text of a document. -/
def textOf (d : Document) : Cell := .ofText (Json.writeText Json.compact d)

/-- A document as a cell: what is no scalar stays a JSON text. -/
def cellOf : Document → Cell
  | .null => .null
  | .bool b => .ofBool b
  | .int n => .integer n
  | .float x => .real x
  | .text s => .ofText s
  | d => textOf d

/-- The name of the type of a document. -/
def typeName : Document → String
  | .null => "null"
  | .bool b => if b then "true" else "false"
  | .int _ => "integer"
  | .float _ => "real"
  | .text _ => "text"
  | .list _ => "array"
  | .mapping _ => "object"

/-- How many items a list has; anything else has none. -/
def size : Document → Nat
  | .list items => items.length
  | _ => 0

end Member

end LogTemplate.Sink
