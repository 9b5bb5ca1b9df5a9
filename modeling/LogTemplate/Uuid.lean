import LogTemplate.Numeral
import LogTemplate.Text.Split
import LogTemplate.Text.Uppercase

/-!
# UUIDs

A UUID is a number of 128 bits, written as thirty-two hexadecimal digits in five groups.  Its
numbers are read leniently, from any text that holds the digits; its canonical forms are those that
read as what they write, whatever the case of the letters.
-/

namespace LogTemplate

/-- The numbers of 128 bits are those below this one. -/
def Uuid.limit : Nat := Nat.pow 2 128

/-- A number of 128 bits. -/
structure Uuid where
  value : Nat
  value_lt : value < Uuid.limit
  deriving DecidableEq, Repr

namespace Uuid

/-- Why a text holds no UUID. -/
inductive Error where
  /-- There are not thirty-two characters besides the marks. -/
  | wrongLength
  | notDigits (error : Numeral.Error)
  | outOfRange
  deriving DecidableEq, Repr

/-- The wording of an error. -/
def Error.message : Error → Text
  | .wrongLength => "badly formed hexadecimal UUID string"
  | .notDigits error => error.message
  | .outOfRange => "int is out of range (need a 128-bit value)"

/-- The characters of a text that should be digits: what is left without the URN marks anywhere,
braces at the ends, and hyphens. -/
def bare (text : List CodePoint) : List CodePoint :=
  let unmarked := Text.remove (Text.toList "uuid:") (Text.remove (Text.toList "urn:") text)
  (Text.stripEnds (fun (c : CodePoint) => c == '\x7b' || c == '\x7d') unmarked).filter (· != '-')

/-- The UUID that a text holds. -/
def read (text : List CodePoint) : Except Error Uuid :=
  let digits := bare text
  if digits.length ≠ 32 then .error .wrongLength
  else match Numeral.read 16 digits with
    | .error e => .error (.notDigits e)
    | .ok n =>
      if h : n.toNat < limit then if 0 ≤ n then .ok ⟨n.toNat, h⟩ else .error .outOfRange
      else .error .outOfRange

/-- The written form: lower-case digits in groups of eight, four, four, four and twelve. -/
def chars (u : Uuid) : List CodePoint :=
  let digits := Text.hexDigits 32 u.value
  let group := fun (start length : Nat) => (digits.drop start).take length
  [CodePoint.char '-'].intercalate [group 0 8, group 8 4, group 12 4, group 16 4, group 20 12]

/-- The written form as a string. -/
def text (u : Uuid) : Text := Text.ofList u.chars

/-- Whether a text is the written form of a UUID, in letters of either case. -/
def isWrittenAs (u : Uuid) (text : List CodePoint) : Bool := Text.lowercaseAscii text == u.chars

end Uuid

end LogTemplate
