import LogTemplate.Sink.Affinity
import LogTemplate.Text.Digit
import LogTemplate.Text.Uppercase

/-!
# Tokens of definitions

A definition is written in words, names in quotes, texts, numbers, bytes and marks, with blanks and
comments between them.
-/

namespace LogTemplate.Sink

open Text

/-- A token of a definition. -/
inductive Token where
  | word (text : String)
  /-- A name in brackets or in quotes, of which the double ones may also hold a text. -/
  | name (text : String) (isQuoted : Bool)
  | text (text : String)
  /-- A number, or bytes. -/
  | value (cell : Cell)
  | mark (text : String)
  deriving DecidableEq, Repr, Inhabited

namespace Token

/-- A word in small letters. -/
def lower (s : String) : String := String.ofList (s.toList.map Char.toLower)

/-- The words that cannot be names. -/
def reservedWords : List String := [
  "add", "all", "alter", "and", "as", "autoincrement", "between", "case", "check", "collate",
  "commit", "constraint", "create", "default", "deferrable", "delete", "distinct", "drop", "else",
  "escape", "except", "exists", "foreign", "from", "group", "having", "in", "index", "insert",
  "intersect", "into", "is", "isnull", "join", "limit", "not", "nothing", "notnull", "null", "on",
  "or", "order", "primary", "references", "returning", "select", "set", "table", "then", "to",
  "transaction", "union", "unique", "update", "using", "values", "when", "where"]

/-- Whether a word cannot be a name. -/
def isReserved (s : String) : Bool := reservedWords.contains (lower s)

/-- Whether a token is a word, whatever the case of its letters. -/
def isWord (word : String) : Token → Bool
  | .word s => lower s == word
  | _ => false

/-- Whether a character may stand between tokens. -/
def isBlank (c : Char) : Bool := c == ' ' || (0x09 ≤ c.toNat && c.toNat ≤ 0x0D && c.toNat ≠ 0x0B)

/-- Whether a character may stand in a word. -/
def isWordPart (c : Char) : Bool := c.isAlphanum || c == '_' || c == '$' || 0x80 ≤ c.toNat

/-- What stands before a closing quote, which counts once where it is doubled, and what follows. -/
def quoted? (mark : Char) : List Char → Option (List Char × List Char)
  | [] => none
  | c :: rest =>
    if c ≠ mark then (quoted? mark rest).map fun (inside, left) => (c :: inside, left)
    else match rest with
      | [] => some ([], [])
      | d :: more =>
        if d = mark then (quoted? mark more).map fun (inside, left) => (mark :: inside, left)
        else some ([], d :: more)

/-- What follows a comment between a slash and two stars. -/
def afterComment : List Char → List Char
  | '*' :: '/' :: rest => rest
  | _ :: rest => afterComment rest
  | [] => []

/-- The bytes that pairs of digits stand for. -/
def bytes? : List Char → Option (List UInt8)
  | [] => some []
  | high :: low :: rest => do return UInt8.ofNat (← hexNumber? [high, low]) :: (← bytes? rest)
  | [_] => none

/-- An integer of at most 64 bits in base sixteen; the highest bit counts as negative. -/
def hexadecimal? (digits : List Char) : Option Cell := do
  let n ← hexNumber? (digits.map .char)
  if digits.isEmpty || Nat.pow 2 64 ≤ n then none
  else some (.integer (if n < Nat.pow 2 63 then n else (n : Int) - Nat.pow 2 64))

/-- The number at the front of a text, and what follows it.  It ends before anything but a word. -/
def number? (text : List Char) : Option (Cell × List Char) :=
  let (cell, left) := match text with
    | '0' :: 'x' :: rest | '0' :: 'X' :: rest =>
      let isDigit := fun (c : Char) => (hexValue? c).isSome
      (hexadecimal? (rest.takeWhile isDigit), rest.dropWhile isDigit)
    | _ =>
      let reading := Cell.readNumber text
      (some reading.number, reading.rest)
  if left.head?.any isWordPart then none else cell.map (·, left)

/-- The marks of more than one character. -/
def longMarks : List String := ["->>", "->", "||", "<=", ">=", "<>", "!=", "==", "<<", ">>"]

/-- The marks of one character. -/
def shortMarks : List Char := "(),;.+-*/%&|<>=~".toList

/-- The mark at the front of a text, and what follows it. -/
def mark? (s : List Char) : Option (Token × List Char) :=
  match longMarks.find? (·.toList.isPrefixOf s), s with
  | some found, _ => some (.mark found, s.drop found.length)
  | none, c :: rest => if shortMarks.contains c then some (.mark c.toString, rest) else none
  | none, [] => none

/-- The token that starts with a character, and what follows it. -/
def front? (c : Char) (rest : List Char) : Option (Token × List Char) :=
  let inside := fun (closing : Char) (make : String → Token) =>
    (quoted? closing rest).map fun (held, left) => (make (String.ofList held), left)
  if c = '\'' then inside c .text
  else if c = '"' then inside c (.name · true)
  else if c = '\x60' then inside c (.name · false)
  else if c = '[' then
    if rest.contains ']' then
      some (.name (String.ofList (rest.takeWhile (· ≠ ']'))) false,
        (rest.dropWhile (· ≠ ']')).drop 1)
    else none
  else if (c = 'x' || c = 'X') && rest.head? == some '\'' then do
    let (digits, left) ← quoted? '\'' (rest.drop 1)
    return (.value (.blob (← bytes? digits)), left)
  else if c.isDigit || (c = '.' && rest.head?.any Char.isDigit) then
    (number? (c :: rest)).map fun (cell, left) => (.value cell, left)
  else if isWordPart c then
    some (.word (String.ofList (c :: rest.takeWhile isWordPart)), rest.dropWhile isWordPart)
  else mark? (c :: rest)

/-- The tokens of a text, at most `fuel` of them. -/
def scanFrom : (fuel : Nat) → List Char → Option (List Token)
  | _, [] => some []
  | 0, _ :: _ => none
  | fuel + 1, c :: rest =>
    if isBlank c then scanFrom fuel rest
    else match c, rest with
      | '-', '-' :: more => scanFrom fuel (more.dropWhile (· ≠ '\n'))
      | '/', '*' :: more => scanFrom fuel (afterComment more)
      | _, _ => do
        let (token, left) ← front? c rest
        return token :: (← scanFrom fuel left)

/-- The tokens of a text. -/
def scan (text : String) : Option (List Token) := scanFrom text.length text.toList

end Token

end LogTemplate.Sink
