import LogTemplate.Sink.Image.Page

/-!
# Logs of changes

Changes that are logged ahead stand in a file beside the database, page by page.  The log starts
with a heading, and each page with one of its own, which names it.  Sums over all that comes before
show that a page belongs to the log; a page that ends a change tells how many pages there are then.
-/

namespace LogTemplate.Sink.Log

open Image (field)

/-- How the index of a log starts: the version of the format. -/
def indexHeading : List UInt8 := [0x18, 0xE2, 0x2D, 0x00]

/-- What the heading of a log takes. -/
def headingSize : Nat := 32

/-- What the heading of a page takes. -/
def pageHeadingSize : Nat := 24

/-- Two running sums over words of 32 bits. -/
structure Sums where
  first : UInt32 := 0
  second : UInt32 := 0
  deriving DecidableEq

/-- The word of four bytes, in the order of the bytes or the other one. -/
def word (highFirst : Bool) (a b c d : UInt8) : UInt32 :=
  UInt32.ofNat (Text.Wide.unit highFirst [a, b, c, d])

/-- Goes on with sums over some bytes, by two words at a time. -/
def Sums.add (highFirst : Bool) (sums : Sums) : List UInt8 → Sums
  | a :: b :: c :: d :: e :: f :: g :: h :: rest =>
    let first := sums.first + word highFirst a b c d + sums.second
    let second := sums.second + word highFirst e f g h + first
    Sums.add highFirst ⟨first, second⟩ rest
  | _ => sums

/-- Whether sums are what stands in some bytes at an offset. -/
def Sums.isAt (sums : Sums) (offset : Nat) (bytes : List UInt8) : Bool :=
  sums.first.toNat == field offset 4 bytes && sums.second.toNat == field (offset + 4) 4 bytes

/-- A page of a log. -/
structure Frame where
  number : Nat
  page : List UInt8
  /-- How many pages the database has after the change that ends here; zero if none does. -/
  count : Nat

/-- The pages of a log that belong to it, which has pages of a size and two numbers in its heading
that those of the pages repeat.  There are no more than `fuel` of them. -/
def frames (highFirst : Bool) (size : Nat) (salt : List UInt8) :
    (fuel : Nat) → Sums → List UInt8 → List Frame
  | 0, _, _ => []
  | fuel + 1, sums, bytes =>
    let page := (bytes.drop pageHeadingSize).take size
    let next := (sums.add highFirst (bytes.take 8)).add highFirst page
    let number := field 0 4 bytes
    if page.length < size || (bytes.drop 8).take 8 != salt || number = 0 || !next.isAt 16 bytes then
      []
    else
      ⟨number, page, field 4 4 bytes⟩
        :: frames highFirst size salt fuel next (bytes.drop (pageHeadingSize + size))

/-- The frames of a log up to the last that ends a change. -/
def finished (frames : List Frame) : List Frame :=
  (frames.reverse.dropWhile (·.count == 0)).reverse

/-- The frames of finished changes in a log, and the size of its pages. -/
def framesOf (log : List UInt8) : Nat × List Frame :=
  let size := field 8 4 log
  let highFirst := field 3 1 log % 2 == 1
  let sums := Sums.add highFirst {} (log.take 24)
  let isHeading := (log.take 3) == logHeading.take 3 && 0x82 ≤ field 3 1 log && field 3 1 log ≤ 0x83
    && (log.drop 4).take 4 == logHeading.drop 4
  if log.length ≤ headingSize || !isHeading || !sums.isAt 24 log || size < 512 || 65536 < size
      || Nat.pow 2 size.log2 != size then (0, [])
  else
    let salt := (log.drop 16).take 8
    (size, finished (frames highFirst size salt log.length sums (log.drop headingSize)))

/-- The bytes of a database once the finished changes of a log are in it. -/
def apply (log database : List UInt8) : List UInt8 :=
  let (size, frames) := framesOf log
  match frames.getLast? with
  | none => database
  | some last =>
    let bytes := frames.foldl
      (fun bytes frame => overwrite ((frame.number - 1) * size) frame.page bytes) database
    bytes.take (last.count * size)

end LogTemplate.Sink.Log
