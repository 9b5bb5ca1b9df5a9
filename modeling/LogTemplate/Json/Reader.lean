import LogTemplate.Document
import LogTemplate.Json.Error

/-!
# Reading JSON

The document that a JSON text denotes.  Besides the standard's numbers the words `NaN`, `Infinity`
and `-Infinity` are read; of entries with the same key the first gives the place and the last the
value.  Lists and mappings are nested as deep as the program can go.
-/

namespace LogTemplate.Json

/-- Where reading stops: the problem, and how many characters are left there; a numeral that is too
long; or a collection that is opened too deep inside others. -/
inductive Failure where
  | problem (problem : Problem) (remaining : Nat)
  | numeral (error : Numeral.Error)
  | tooDeep (what : Nesting.Excess)
  deriving DecidableEq, Repr

/-- A result and the text that is left. -/
abbrev Step (α : Type) := Except Failure (α × List CodePoint)

/-- Refuses the text at the place where `rest` is left. -/
def refuse {α : Type} (problem : Problem) (rest : List CodePoint) : Step α :=
  .error (.problem problem rest.length)

/-- White space between tokens. -/
def isSpace (c : CodePoint) : Bool := c == ' ' || c == '\t' || c == '\n' || c == '\r'

/-- What is left behind white space. -/
def skip (s : List CodePoint) : List CodePoint := s.dropWhile isSpace

/-- A part of a string: a character, or the sixteen bits of an escape. -/
inductive Unit16 where
  | char (c : CodePoint)
  | code (n : Nat)
  deriving DecidableEq, Repr

/-- The character that a short escape stands for. -/
def shortEscape? (c : CodePoint) : Option CodePoint :=
  if c = '"' || c = '\\' || c = '/' then some c
  else if c = 'b' then some '\x08'
  else if c = 'f' then some '\x0c'
  else if c = 'n' then some '\n'
  else if c = 'r' then some '\r'
  else if c = 't' then some '\t'
  else none

/-- The parts of a string up to its closing mark; `opening` is what is left at the opening one. -/
def readUnits (opening : List CodePoint) : List CodePoint → Step (List Unit16)
  | [] => refuse .unterminatedString opening
  | c :: rest =>
    if c = '"' then .ok ([], rest)
    else if c = '\\' then
      match rest with
      | [] => refuse .unterminatedString opening
      | e :: more =>
        if e = 'u' then
          match more with
          | h1 :: h2 :: h3 :: h4 :: after =>
            match Text.hexNumber? [h1, h2, h3, h4] with
            | none => refuse .invalidCodeEscape rest
            | some n =>
              if after.isEmpty then refuse .invalidCodeEscape rest
              else (readUnits opening after).map fun (units, left) => (.code n :: units, left)
          | _ => refuse .invalidCodeEscape rest
        else match shortEscape? e with
          | none => refuse .invalidEscape (c :: rest)
          | some escaped =>
            (readUnits opening more).map fun (units, left) => (.char escaped :: units, left)
    else if c.toNat < 0x20 then refuse .controlCharacter (c :: rest)
    else (readUnits opening rest).map fun (units, left) => (.char c :: units, left)

/-- Joins the two halves of a character beyond the first sixteen bits.  Other halves stand alone. -/
def joinUnits : List Unit16 → List CodePoint
  | [] => []
  | .char c :: rest => c :: joinUnits rest
  | .code high :: .code low :: rest =>
    if 0xD800 ≤ high && high < 0xDC00 && 0xDC00 ≤ low && low < 0xE000 then
      CodePoint.ofNat (0x10000 + (high - 0xD800) * 0x400 + (low - 0xDC00)) :: joinUnits rest
    else CodePoint.ofNat high :: joinUnits (.code low :: rest)
  | .code n :: rest => CodePoint.ofNat n :: joinUnits rest

/-- Reads a string behind its opening mark. -/
def readString (rest : List CodePoint) : Step Text :=
  (readUnits ('"' :: rest) rest).map fun (units, left) =>
    (Text.ofList (joinUnits units), left)

/-- The digits of a whole number without a superfluous zero, and what follows them. -/
def wholeDigits? (s : List CodePoint) : Option (List CodePoint × List CodePoint) :=
  match s with
  | [] => none
  | c :: rest =>
    if c = '0' then some ([c], rest)
    else if c.isDigit then some (s.takeWhile CodePoint.isDigit, s.dropWhile CodePoint.isDigit)
    else none

/-- The digits of a fraction behind a point, and what follows them. -/
def fractionDigits (s : List CodePoint) : List CodePoint × List CodePoint :=
  match s with
  | '.' :: rest =>
    let digits := rest.takeWhile CodePoint.isDigit
    if digits.isEmpty then ([], s) else (digits, rest.dropWhile CodePoint.isDigit)
  | _ => ([], s)

/-- The exponent behind an `e`, and what follows it. -/
def exponent? (s : List CodePoint) : Option (Int × List CodePoint) :=
  match s with
  | [] => none
  | c :: rest =>
    if c = 'e' || c = 'E' then
      let (negative, unsigned) := Numeral.splitSign rest
      let digits := unsigned.takeWhile CodePoint.isDigit
      if digits.isEmpty then none
      else
        let n : Int := Text.decimalNumber digits
        some (if negative then -n else n, unsigned.dropWhile CodePoint.isDigit)
    else none

/-- The minus sign at the front of a number and what follows it. -/
def splitMinus : List CodePoint → Bool × List CodePoint
  | '-' :: rest => (true, rest)
  | rest => (false, rest)

/-- Reads a number; with a fraction or an exponent it is a floating-point number. -/
def readNumber (s : List CodePoint) : Step Document :=
  let (negative, unsigned) := splitMinus s
  match wholeDigits? unsigned with
  | none => refuse .expectingValue s
  | some (whole, rest) =>
    let (fraction, rest) := fractionDigits rest
    let digits := Text.decimalNumber (whole ++ fraction)
    match exponent? rest with
    | some (exponent, rest) =>
      .ok (.float (.ofScientific negative digits (exponent - fraction.length)), rest)
    | none =>
      if !fraction.isEmpty then
        .ok (.float (.ofScientific negative digits (-(fraction.length : Int))), rest)
      else if Numeral.digitLimit < whole.length then
        .error (.numeral (.tooLong whole.length))
      else .ok (.int (if negative then -(digits : Int) else digits), rest)

/-- The words that stand for a document. -/
def words : List (List CodePoint × Document) := [
  (Text.toList "null", .null), (Text.toList "true", .bool true), (Text.toList "false", .bool false),
  (Text.toList "NaN", .float .nan), (Text.toList "Infinity", .float (.infinite false)),
  (Text.toList "-Infinity", .float (.infinite true))]

/-- Reads a word or a number. -/
def readScalar (s : List CodePoint) : Step Document :=
  match words.find? fun (word, _) => word.isPrefixOf s with
  | some (word, value) => .ok (value, s.drop word.length)
  | none => readNumber s

mutual

/-- Reads a value at the front of a text, in which collections may be nested to a depth. -/
def readValue : (fuel depth : Nat) → List CodePoint → Step Document
  | 0, _, s => refuse .expectingValue s
  | fuel + 1, depth, s =>
    match s with
    | [] => refuse .expectingValue s
    | '"' :: rest => (readString rest).map fun (value, left) => (.text value, left)
    | '[' :: rest =>
      match depth with
      | 0 => .error (.tooDeep .list)
      | depth + 1 =>
        match skip rest with
        | ']' :: left => .ok (.list [], left)
        | inside => (readItems fuel depth inside).map fun (items, left) => (.list items, left)
    | '\x7b' :: rest =>
      match depth with
      | 0 => .error (.tooDeep .mapping)
      | depth + 1 =>
        match skip rest with
        | '\x7d' :: left => .ok (.mapping [], left)
        | inside =>
          (readEntries fuel depth [] inside).map fun (entries, left) => (.mapping entries, left)
    | _ => readScalar s

/-- Reads the items of a list up to its closing bracket. -/
def readItems :
    (fuel depth : Nat) → List CodePoint → Except Failure (List Document × List CodePoint)
  | 0, _, s => refuse .expectingValue s
  | fuel + 1, depth, s => do
    let (item, rest) ← readValue fuel depth s
    match skip rest with
    | ']' :: left => return ([item], left)
    | ',' :: more =>
      let (items, left) ← readItems fuel depth (skip more)
      return (item :: items, left)
    | other => refuse .expectingComma other

/-- Reads the entries of a mapping up to its closing brace and adds them to those before. -/
def readEntries : (fuel depth : Nat) → List (Text × Document) → List CodePoint →
    Except Failure (List (Text × Document) × List CodePoint)
  | 0, _, _, s => refuse .expectingName s
  | fuel + 1, depth, seen, s =>
    match s with
    | '"' :: rest => do
      let (key, rest) ← readString rest
      match skip rest with
      | ':' :: rest =>
        let (value, rest) ← readValue fuel depth (skip rest)
        let seen := OrderedMap.set key value seen
        match skip rest with
        | '\x7d' :: left => return (seen, left)
        | ',' :: more => readEntries fuel depth seen (skip more)
        | other => refuse .expectingComma other
      | other => refuse .expectingColon other
    | _ => refuse .expectingName s

end

/-- Reads a whole text: a value with nothing but white space around it. -/
def readText (depth : Nat) (s : List CodePoint) : Except Failure Document := do
  if s.head? == some (.char '\uFEFF') then .error (.problem .byteOrderMark s.length)
  else
    let (value, rest) ← readValue (2 * s.length + 2) depth (skip s)
    match skip rest with
    | [] => return value
    | extra => .error (.problem .extraData extra.length)

/-- Why a text is refused in which reading stops. -/
def Failure.error (s : List CodePoint) : Failure → Error
  | .problem what remaining => .at s what (s.length - remaining)
  | .numeral e => .numeral e
  | .tooDeep what => .tooDeep what

/-- The document that a text denotes, in which collections may be nested to a depth. -/
def readWithin (depth : Nat) (s : List CodePoint) : Except Error Document :=
  (readText depth s).mapError (Failure.error s)

/-- The document that a text denotes. -/
def read [Nesting] (s : List CodePoint) : Except Error Document := readWithin Nesting.json s

end LogTemplate.Json
