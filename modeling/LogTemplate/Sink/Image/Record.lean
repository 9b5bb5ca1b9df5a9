import LogTemplate.Sink.Affinity
import LogTemplate.Sink.Image.Page

/-!
# The records of a database

A payload is a record: a list of kinds, and a field of each kind.  The kind of a field tells how
many bytes it takes and what they are.
-/

namespace LogTemplate.Sink.Image

open Text

/-- The integer that some bytes are; the highest bit counts as negative. -/
def signed (bytes : List UInt8) : Int :=
  let n := Wide.number bytes
  if bytes.head?.any (0x80 ≤ ·) then (n : Int) - (Nat.pow 0x100 bytes.length : Nat) else n

/-- The characters of units of two bytes.  Half a character joins with whatever follows it; at the
end there is none. -/
def joined? : List Nat → Option (List Char)
  | [] => some []
  | a :: rest =>
    if Wide.isFirstHalf a || Wide.isSecondHalf a then
      match rest with
      | [] => none
      | b :: more =>
        let high := (a / 0x40 % 0x10 * 0x40 + 0x40) * 0x400 + a % 0x40 * 0x400
        (joined? more).map (Char.ofNat (high + b % 0x400) :: ·)
    else (joined? rest).map (Char.ofNat a :: ·)

/-- The text that some bytes are. -/
def textOf (form : TextForm) (bytes : List UInt8) : Cell :=
  let text := match form with
    | .utf8 => (Utf8.decode bytes).toOption
    | .utf16 highFirst =>
      (Wide.pairs? highFirst (bytes.take (2 * (bytes.length / 2)))).bind joined?
  match text with
  | some s => .text (String.ofList s)
  | none => .garbled bytes

/-- How many bytes a field of a kind takes. -/
def width (kind : Nat) : Nat :=
  if kind ≤ 4 then kind
  else if kind = 5 then 6
  else if kind ≤ 7 then 8
  else (kind - 12) / 2

/-- The cell that a field of a kind is. -/
def cellOf (form : TextForm) (kind : Nat) (bytes : List UInt8) : Cell :=
  if kind = 0 then .null
  else if kind ≤ 6 then .integer (signed bytes)
  else if kind = 7 then
    match Double.ofBits (Wide.number bytes) with
    | .nan => .null
    | x => .real x
  else if kind ≤ 9 then .integer (kind - 8)
  else if kind ≤ 11 then .null
  else if kind % 2 = 1 then textOf form bytes
  else .blob bytes

/-- The numbers that some bytes are, one after the other; they are no more than `fuel`. -/
def numbers? : (fuel : Nat) → List UInt8 → Option (List Nat)
  | _, [] => some []
  | 0, _ :: _ => none
  | fuel + 1, bytes => do
    let (n, rest) ← number? bytes
    return n :: (← numbers? fuel rest)

/-- The fields of the given kinds. -/
def fields (form : TextForm) : (kinds : List Nat) → List UInt8 → List Cell
  | [], _ => []
  | kind :: kinds, bytes =>
    cellOf form kind (bytes.take (width kind)) :: fields form kinds (bytes.drop (width kind))

/-- The record that a payload is. -/
def record? (form : TextForm) (payload : List UInt8) : Option (List Cell) := do
  let (size, rest) ← number? payload
  let kinds := rest.take (size - (payload.length - rest.length))
  return fields form (← numbers? kinds.length kinds) (payload.drop size)

/-- The records of the table whose tree starts on a page, each with the number of its row. -/
def records? (image : Image) (isNumbered : Bool) (root : Nat) :
    Option (List (Int × List Cell)) := do
  let entries ← image.entries? isNumbered image.pages.size [.page root]
  entries.mapM fun e => do return (e.id, ← record? image.form e.payload)

end LogTemplate.Sink.Image
