import LogTemplate.Text.Utf8

/-!
# Wide units

Texts whose characters are written as units of two bytes (UTF-16) or of four (UTF-32), the high
byte first or last.  A character beyond the first 65536 takes two units of two bytes.
-/

namespace LogTemplate.Text.Wide

/-- The number that some bytes are, the highest first. -/
def number (bytes : List UInt8) : Nat := bytes.foldl (fun n b => 0x100 * n + b.toNat) 0

/-- The number that the bytes of a unit are. -/
def unit (highFirst : Bool) (bytes : List UInt8) : Nat :=
  number (if highFirst then bytes else bytes.reverse)

/-- The units of two bytes each. -/
def pairs? (highFirst : Bool) : List UInt8 → Option (List Nat)
  | [] => some []
  | [_] => none
  | a :: b :: rest => (pairs? highFirst rest).map (unit highFirst [a, b] :: ·)

/-- The units of four bytes each. -/
def quartets? (highFirst : Bool) : List UInt8 → Option (List Nat)
  | [] => some []
  | a :: b :: c :: d :: rest => (quartets? highFirst rest).map (unit highFirst [a, b, c, d] :: ·)
  | _ => none

/-- Whether a unit is the first half of a character. -/
def isFirstHalf (unit : Nat) : Bool := 0xD800 ≤ unit && unit < 0xDC00

/-- Whether a unit is the second half of a character. -/
def isSecondHalf (unit : Nat) : Bool := 0xDC00 ≤ unit && unit < 0xE000

/-- The code points of units of two bytes. -/
def join : List Nat → List CodePoint
  | first :: second :: rest =>
    if isFirstHalf first && isSecondHalf second then
      CodePoint.ofNat (0x10000 + 0x400 * (first - 0xD800) + (second - 0xDC00)) :: join rest
    else CodePoint.ofNat first :: join (second :: rest)
  | [last] => [CodePoint.ofNat last]
  | [] => []

/-- The units of two bytes that a character takes. -/
def unitsOf (c : Char) : List Nat :=
  if c.toNat < 0x10000 then [c.toNat]
  else [0xD800 + (c.toNat - 0x10000) / 0x400, 0xDC00 + (c.toNat - 0x10000) % 0x400]

/-- The bytes of a text in units of two bytes. -/
def encode (highFirst : Bool) (s : List Char) : List UInt8 :=
  (s.flatMap unitsOf).flatMap fun unit =>
    let bytes := [UInt8.ofNat (unit / 0x100), UInt8.ofNat (unit % 0x100)]
    if highFirst then bytes else bytes.reverse

end LogTemplate.Text.Wide
