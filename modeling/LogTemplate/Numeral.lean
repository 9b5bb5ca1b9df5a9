import LogTemplate.Text.Blank
import LogTemplate.Text.Digit
import LogTemplate.Text.Quoted

/-!
# Integer numerals

Reading an integer from a text.  White space may stand around the numeral, one sign before it,
single underscores between its digits, and the decimal digits may come from any script.  A decimal
numeral has at most `digitLimit` digits.
-/

namespace LogTemplate.Numeral

open LogTemplate.Text

/-- The most digits that a decimal numeral may have. -/
def digitLimit : Nat := 4300

/-- Why a text is refused as a numeral. -/
inductive Error where
  | malformed (base : Nat) (text : Text)
  | tooLong (digits : Nat)
  deriving DecidableEq, Repr

/-- The wording of a refusal; a malformed text is quoted up to two hundred characters. -/
def Error.message : Error → Text
  | .malformed base text =>
    s!"invalid literal for int() with base {base}: "
      ++ Text.ofList ((quote text.toList).take 200)
  | .tooLong digits =>
    s!"Exceeds the limit ({digitLimit} digits) for integer string conversion: "
      ++ s!"value has {digits} digits; use sys.set_int_max_str_digits() to increase the limit"

/-- White space that may stand around a numeral: the six of ASCII, and what is blank beyond it. -/
def isPadding (c : CodePoint) : Bool :=
  let n := c.toNat
  (0x09 ≤ n && n ≤ 0x0D) || n == 0x20 || (0x80 ≤ n && isBlank c)

/-- The value of a digit in base ten (of any script) or in base sixteen. -/
def digit? (base : Nat) (c : CodePoint) : Option Nat :=
  if base = 16 then
    match hexValue? c with
    | some value => some value
    | none => digitValue? c
  else digitValue? c

/-- The digits of a run in which a single underscore may stand between two digits. -/
def groupedDigits? (base : Nat) : List CodePoint → Option (List Nat)
  | [] => none
  | [c] => (digit? base c).map ([·])
  | c :: '_' :: rest => do return (← digit? base c) :: (← groupedDigits? base rest)
  | c :: rest => do return (← digit? base c) :: (← groupedDigits? base rest)

/-- The number that digits denote, the highest digit first. -/
def ofDigits (base : Nat) (digits : List Nat) : Nat := digits.foldl (fun n d => base * n + d) 0

/-- The sign at the front of a text and what follows it. -/
def splitSign : List CodePoint → Bool × List CodePoint
  | '-' :: rest => (true, rest)
  | '+' :: rest => (false, rest)
  | rest => (false, rest)

/-- What follows the mark of base sixteen, a zero (of any script) and an `x`, if it is there; an
underscore may follow the mark. -/
def dropHexMark : List CodePoint → List CodePoint
  | zero :: mark :: rest =>
    if digitValue? zero = some 0 ∧ (mark = 'x' ∨ mark = 'X') then
      match rest with
      | '_' :: digits => digits
      | digits => digits
    else zero :: mark :: rest
  | rest => rest

/-- The integer that a text denotes in base ten or sixteen. -/
def read (base : Nat) (text : List CodePoint) : Except Error Int :=
  let malformed := Error.malformed base (Text.ofList text)
  let (negative, unsigned) := splitSign (text.dropWhile isPadding)
  let body := if base = 16 then dropHexMark unsigned else unsigned
  let isPart := fun (c : CodePoint) => c == '_' || (digit? base c).isSome
  match groupedDigits? base (body.takeWhile isPart) with
  | none => .error malformed
  | some digits =>
    if base = 10 && digitLimit < digits.length then .error (.tooLong digits.length)
    else if (body.dropWhile isPart).all isPadding then
      let value := ofDigits base digits
      .ok (if negative then -value else value)
    else .error malformed

/-- The integer that a decimal text denotes. -/
def readDecimal (text : List CodePoint) : Except Error Int := read 10 text

/-- An integer in decimal digits, with a minus sign if it is negative. -/
def decimal (n : Int) : String := toString n

end LogTemplate.Numeral
