import LogTemplate.Text.Wide

/-!
# Encodings of JSON texts

A JSON text is sent as bytes: UTF-8, or units of two or of four bytes.  Which it is can be seen
from a byte order mark or, if there is none, from the zeros among the first bytes, because the first
characters of a JSON text are ASCII.
-/

namespace LogTemplate.Json

open Text

/-- How the characters of a text are written. -/
inductive Encoding where
  | utf8
  /-- Units of two bytes, the high one first or not. -/
  | utf16 (highFirst : Bool)
  /-- Units of four bytes, the highest one first or last. -/
  | utf32 (highFirst : Bool)
  deriving DecidableEq, Repr

namespace Encoding

/-- The byte order marks.  One of four bytes is looked for first. -/
def marks : List (List UInt8 × Encoding) := [
  ([0x00, 0x00, 0xFE, 0xFF], .utf32 true), ([0xFF, 0xFE, 0x00, 0x00], .utf32 false),
  ([0xFE, 0xFF], .utf16 true), ([0xFF, 0xFE], .utf16 false), ([0xEF, 0xBB, 0xBF], .utf8)]

/-- The encoding that the zeros among some bytes show. -/
def ofZeros : List UInt8 → Encoding
  | a :: b :: c :: d :: _ =>
    if a = 0 then (if b = 0 then .utf32 true else .utf16 true)
    else if b = 0 then (if c = 0 ∧ d = 0 then .utf32 false else .utf16 false)
    else .utf8
  | [a, b] => if a = 0 then .utf16 true else if b = 0 then .utf16 false else .utf8
  | _ => .utf8

/-- The name of an encoding in messages. -/
def name : Encoding → Text
  | .utf8 => "utf-8"
  | .utf16 highFirst => if highFirst then "utf-16-be" else "utf-16-le"
  | .utf32 highFirst => if highFirst then "utf-32-be" else "utf-32-le"

end Encoding

/-- Why some bytes are no text. -/
inductive Fault where
  | utf8 (fault : Utf8.Fault)
  /-- The bytes at a position are no whole unit. -/
  | truncated (encoding : Encoding) (position : Nat) (bytes : List UInt8)
  /-- The unit at a position is no character. -/
  | outOfRange (encoding : Encoding) (position : Nat) (bytes : List UInt8)
  deriving DecidableEq, Repr

/-- The wording of a fault. -/
def Fault.message : Fault → Text
  | .utf8 fault => fault.message
  | .truncated encoding position bytes =>
    "'" ++ encoding.name ++ "' codec can't decode " ++ Utf8.place position bytes
      ++ ": truncated data"
  | .outOfRange encoding position bytes =>
    "'" ++ encoding.name ++ "' codec can't decode " ++ Utf8.place position bytes
      ++ ": code point not in range(0x110000)"

/-- The text of bytes in units of two or four bytes, behind a byte order mark of some length. -/
def decodeWide (encoding : Encoding) (mark width : Nat) (bytes : List UInt8)
    (units : Option (List Nat)) (join : List Nat → List CodePoint) :
    Except Fault (List CodePoint) :=
  match units.map fun found => (found, found.findIdx? (0x110000 ≤ ·)) with
  | none =>
    let whole := bytes.length - bytes.length % width
    .error (.truncated encoding (mark + whole) (bytes.drop whole))
  | some (_, some i) =>
    .error (.outOfRange encoding (mark + width * i) ((bytes.drop (width * i)).take width))
  | some (found, none) => .ok (join found)

/-- The text that some bytes are.  The place of a fault in UTF-8 does not count the byte order
mark. -/
def decode (bytes : List UInt8) : Except Fault (List CodePoint) :=
  let (mark, encoding) := (Encoding.marks.find? (·.1.isPrefixOf bytes)).getD
    ([], Encoding.ofZeros bytes)
  let rest := bytes.drop mark.length
  match encoding with
  | .utf8 => (Utf8.decodeText rest).mapError .utf8
  | .utf16 highFirst =>
    decodeWide encoding mark.length 2 rest (Wide.pairs? highFirst rest) Wide.join
  | .utf32 highFirst =>
    decodeWide encoding mark.length 4 rest (Wide.quartets? highFirst rest) (·.map CodePoint.ofNat)

/-- The text that some bytes are, if they are one. -/
def decode? (bytes : List UInt8) : Option (List CodePoint) := (decode bytes).toOption

end LogTemplate.Json
