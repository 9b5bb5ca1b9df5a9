import LogTemplate.Double.Column
import LogTemplate.Numeral
import LogTemplate.Sink.Cell
import LogTemplate.Text.Split

/-!
# What a column makes of a cell

A column of numbers takes a text that denotes a number as that number, and a number as an integer
if it is a whole one; a column of texts takes a number as its text.
-/

namespace LogTemplate.Sink

/-- The least integer that fits into 64 bits. -/
def minInteger : Int := -0x8000000000000000

/-- Whether an integer fits into 64 bits. -/
def fits (n : Int) : Bool := minInteger ≤ n && n < 0x8000000000000000

/-- What a column prefers to hold. -/
inductive Affinity where
  /-- Whatever it is given. -/
  | blob
  | text
  | numeric
  | integer
  | real
  deriving DecidableEq, Repr, Inhabited

/-- Whether a column prefers numbers. -/
def Affinity.isNumeric : Affinity → Bool
  | .numeric | .integer | .real => true
  | _ => false

namespace Cell

/-- White space that may stand around a number in a text. -/
def isPadding (c : Char) : Bool := c == ' ' || (0x09 ≤ c.toNat && c.toNat ≤ 0x0D)

/-- The value of a digit of ASCII. -/
def digitOf (c : Char) : Nat := c.toNat - 0x30

/-- The exponent that digits denote; no more are read once it has five of them. -/
def exponentNumber (digits : List Char) : Nat :=
  digits.foldl (fun n c => if n < 10000 then 10 * n + digitOf c else 10000) 0

/-- The sign at the front of a text and what follows it. -/
def splitSign : List Char → Bool × List Char
  | '-' :: rest => (true, rest)
  | '+' :: rest => (false, rest)
  | rest => (false, rest)

/-- The exponent at the front of a text, and what follows it, if there is one. -/
def exponent? : List Char → Option (Int × List Char)
  | [] => none
  | mark :: rest =>
    let (negative, unsigned) := splitSign rest
    let digits := unsigned.takeWhile Char.isDigit
    if (mark == 'e' || mark == 'E') && !digits.isEmpty then
      let n : Int := exponentNumber digits
      some (if negative then -n else n, unsigned.dropWhile Char.isDigit)
    else none

/-- A number at the front of a text, zero if there is none. -/
structure Reading where
  number : Cell
  hasDigits : Bool
  rest : List Char

/-- Reads the number at the front of a text: an integer if it has no point, no exponent and no more
than 64 bits. -/
def readNumber (text : List Char) : Reading :=
  let (negative, unsigned) := splitSign text
  let whole := unsigned.takeWhile Char.isDigit
  let rest := unsigned.dropWhile Char.isDigit
  let (fraction, behind) := match rest with
    | '.' :: more => (more.takeWhile Char.isDigit, more.dropWhile Char.isDigit)
    | _ => ([], rest)
  let hasDigits := !(whole.isEmpty && fraction.isEmpty)
  let isWhole := behind.length == rest.length
  let digits := Text.decimalNumber (whole.map .char)
  let integer : Int := if negative then -digits else digits
  let real := fun (exponent : Int) =>
    Cell.real (.ofColumn negative (whole.map digitOf) (fraction.map digitOf) exponent)
  match if hasDigits then exponent? behind else none with
  | some (exponent, left) => ⟨real exponent, true, left⟩
  | none =>
    if !hasDigits then ⟨.integer 0, false, text⟩
    else if isWhole && fits integer then ⟨.integer integer, true, behind⟩
    else ⟨real 0, true, behind⟩

/-- A number where numbers are preferred: an integer if it is a whole one of less than 64 bits. -/
def ofDouble (x : Double) : Cell :=
  match x.truncate? with
  | some n => if x.equalInt n && fits n && n ≠ minInteger then .integer n else .real x
  | none => .real x

/-- The number that a text denotes, if it denotes one. -/
def ofNumeral? (text : List Char) : Option Cell :=
  let reading := readNumber (Text.stripEnds isPadding text)
  if reading.hasDigits && reading.rest.isEmpty then some reading.number else none

/-- What a column of numbers holds for a cell. -/
def asNumber : Cell → Cell
  | .real x => ofDouble x
  | .text s =>
    match ofNumeral? s.toList with
    | some (.real x) => ofDouble x
    | some number => number
    | none => .text s
  | cell => cell

/-- An integer as a number with a fraction. -/
def widen : Cell → Cell
  | .integer n => .real (.ofQuotient (n < 0) n.natAbs 1)
  | cell => cell

/-- What a column of texts holds for a cell. -/
def asText : Cell → Cell
  | .integer n => .text (Numeral.decimal n)
  | .real x => .text x.columnText
  | cell => cell

end Cell

/-- What a column holds for a cell. -/
def Affinity.apply : Affinity → Cell → Cell
  | .blob, cell => cell
  | .text, cell => cell.asText
  | .numeric, cell | .integer, cell => cell.asNumber
  | .real, cell => cell.asNumber.widen

end LogTemplate.Sink
