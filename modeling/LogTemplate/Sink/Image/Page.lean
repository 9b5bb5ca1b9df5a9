import LogTemplate.Sink.Cell
import LogTemplate.Sink.Error

/-!
# The pages of a database

A database lies in its file as pages of one size.  The first page starts with the heading of the
file, which tells that size.  Tables are trees of pages: a branch names the pages below it, and a
leaf holds records, which go on in further pages if they are long.  The tree of a table whose rows
have no numbers holds records in its branches, too.
-/

namespace LogTemplate.Sink

open Text

/-- The pages of a database. -/
structure Image where
  pages : Array (List UInt8)
  /-- The size of pages. -/
  size : Nat
  /-- How many bytes of a page hold something. -/
  usable : Nat
  form : TextForm
  /-- Whether the database may be read but not changed. -/
  isReadOnly : Bool
  /-- Whether changes are logged ahead. -/
  keepsLog : Bool
  /-- What the heading says of the state of the database. -/
  stamp : Stamp

namespace Image

/-- The number that stands in some bytes at an offset. -/
def field (offset width : Nat) (bytes : List UInt8) : Nat :=
  Wide.number ((bytes.drop offset).take width)

/-- What every database starts with. -/
def magic : List UInt8 := databaseHeading.take 16

/-- The shares of a page that a payload may take, which every heading names. -/
def shares : List UInt8 := [64, 32, 32]

/-- The first version of the format that is not known. -/
def unknownVersion : Nat := 3

/-- The first layout of tables that is not known. -/
def unknownLayout : Nat := 5

/-- The size of pages that a heading tells: a power of two from 512 to 65536. -/
def pageSize? (heading : List UInt8) : Option Nat :=
  let size := 0x100 * field 16 1 heading + 0x10000 * field 17 1 heading
  if 512 ≤ size && size ≤ 65536 && Nat.pow 2 size.log2 == size then some size else none

/-- Bytes cut into pages; the last page is filled with zeros.  The number of pages is at most
`fuel`. -/
def cut (size : Nat) : (fuel : Nat) → List UInt8 → List (List UInt8)
  | 0, _ => []
  | fuel + 1, bytes =>
    if bytes.isEmpty then []
    else (bytes.take size).rightpad size 0 :: cut size fuel (bytes.drop size)

/-- The version of the format in which changes are logged ahead. -/
def loggedVersion : Nat := 2

/-- How texts are written, as a heading tells. -/
def formOf (heading : List UInt8) : TextForm :=
  match field 56 4 heading % 4 with
  | 2 => .utf16 false
  | 3 => .utf16 true
  | _ => .utf8

/-- Whether a heading says that changes are logged ahead. -/
def isOfLogged (heading : List UInt8) : Bool :=
  heading.take 16 == magic && field 19 1 heading == loggedVersion

/-- The image that some bytes are.  A heading that was written last by a program that counts pages
tells how many there are, which cannot be more than there are in the file. -/
def ofBytes (bytes : List UInt8) : Except Error Image :=
  match pageSize? bytes with
  | none => .error .notDatabase
  | some size =>
    let usable := size - field 20 1 bytes
    let count := field 28 4 bytes
    let pages := cut size bytes.length bytes
    let isCounted := count != 0 && field 24 4 bytes == field 92 4 bytes
    if bytes.take 16 != magic || (bytes.drop 21).take 3 != shares || usable < 480
        || unknownVersion ≤ field 19 1 bytes || (isCounted && pages.length < count) then
      .error .notDatabase
    else if unknownLayout ≤ field 47 1 bytes then .error .unknownLayout
    else .ok {
      pages := (if isCounted then pages.take count else pages).toArray
      size
      usable
      form := formOf bytes
      isReadOnly := unknownVersion ≤ field 18 1 bytes
      keepsLog := isOfLogged bytes
      stamp := ⟨field 24 4 bytes, field 28 4 bytes, field 36 4 bytes⟩ }

/-- The page of a number; the first page is number 1. -/
def page? (image : Image) (number : Nat) : Option (List UInt8) :=
  if number = 0 then none else image.pages[number - 1]?

/-- The bytes that the heading takes of a page. -/
def headingSize (number : Nat) : Nat := if number = 1 then 100 else 0

/-- The number at the front of some bytes, and what follows it: seven bits stand in a byte, and the
high bit says that another byte follows.  After `more` bytes one stands as a whole. -/
def varint? (n : Nat) : (more : Nat) → List UInt8 → Option (Nat × List UInt8)
  | _, [] => none
  | 0, b :: rest => some (0x100 * n + b.toNat, rest)
  | more + 1, b :: rest =>
    if b < 0x80 then some (0x80 * n + b.toNat, rest)
    else varint? (0x80 * n + (b.toNat - 0x80)) more rest

/-- The number at the front of some bytes, which takes at most nine of them. -/
def number? (bytes : List UInt8) : Option (Nat × List UInt8) := varint? 0 8 bytes

/-- How many bytes of a payload stand in its page, where `most` of them can. -/
def localSize (image : Image) (most payload : Nat) : Nat :=
  let least := (image.usable - 12) * 32 / 255 - 23
  let fitting := least + (payload - least) % (image.usable - 4)
  if payload ≤ most then payload
  else if fitting ≤ most then fitting
  else least

/-- The rest of a payload, which starts on a page and goes on from page to page.  No more than
`fuel` pages are read. -/
def furtherBytes? (image : Image) : (fuel : Nat) → (page owed : Nat) → Option (List UInt8)
  | _, _, 0 => some []
  | 0, _, _ + 1 => none
  | fuel + 1, page, owed + 1 => do
    let bytes ← image.page? page
    let here := ((bytes.take image.usable).drop 4).take (owed + 1)
    return here ++ (← furtherBytes? image fuel (field 0 4 bytes) (owed + 1 - here.length))

/-- A payload of some size that starts with bytes of a page, where `most` of them can stand. -/
def payload? (image : Image) (most size : Nat) (bytes : List UInt8) : Option (List UInt8) := do
  let here := image.localSize most size
  let held := bytes.take here
  if held.length < here then none
  else if here = size then some held
  else
    let further ← furtherBytes? image image.pages.size (field here 4 bytes) (size - here)
    return held ++ further

/-- What stands in a tree: the number of a row and its payload. -/
structure Entry where
  id : Int
  payload : List UInt8

/-- A part of a page of a tree: a page below it, or an entry. -/
inductive Part where
  | page (number : Nat)
  | entry (entry : Entry)

/-- The integer of 64 bits that has the bits of a natural number. -/
def signed64 (n : Nat) : Int := (BitVec.ofNat 64 n).toInt

/-- The entry of a leaf whose rows have numbers: the size of its payload and the number come
first. -/
def numbered? (image : Image) (bytes : List UInt8) : Option Part := do
  let (size, rest) ← number? bytes
  let (id, rest) ← number? rest
  return .entry ⟨signed64 id, ← image.payload? (image.usable - 35) size rest⟩

/-- An entry of a tree whose rows have no numbers. -/
def unnumbered? (image : Image) (bytes : List UInt8) : Option Part := do
  let (size, rest) ← number? bytes
  return .entry ⟨0, ← image.payload? ((image.usable - 12) * 64 / 255 - 23) size rest⟩

/-- The parts of the page of a tree that has a number. -/
def parts? (image : Image) (isNumbered : Bool) (number : Nat) : Option (List Part) := do
  let bytes ← image.page? number
  let start := headingSize number
  let count := field (start + 3) 2 bytes
  let cells := fun (first : Nat) =>
    (List.range count).map fun i => bytes.drop (field (start + first + 2 * i) 2 bytes)
  let last := Part.page (field (start + 8) 4 bytes)
  match isNumbered, field start 1 bytes with
  | true, 0x05 => some ((cells 12).map (fun cell => .page (field 0 4 cell)) ++ [last])
  | true, 0x0D => (cells 8).mapM (numbered? image)
  | false, 0x02 =>
    let pairs ← (cells 12).mapM fun cell => do
      return [Part.page (field 0 4 cell), ← unnumbered? image (cell.drop 4)]
    return pairs.flatten ++ [last]
  | false, 0x0A => (cells 8).mapM (unnumbered? image)
  | _, _ => none

/-- The entries in parts of a tree, from left to right.  No more than `fuel` pages are read. -/
def entries? (image : Image) (isNumbered : Bool) (fuel : Nat) (parts : List Part) :
    Option (List Entry) :=
  match fuel, parts with
  | _, [] => some []
  | fuel, .entry e :: rest => (entries? image isNumbered fuel rest).map (e :: ·)
  | 0, .page _ :: _ => none
  | fuel + 1, .page number :: rest =>
    match image.parts? isNumbered number with
    | none => none
    | some parts => entries? image isNumbered fuel (parts ++ rest)
termination_by (fuel, parts.length)

end Image

end LogTemplate.Sink
