import LogTemplate.Sink.Image.Page

/-!
# Journals

The pages of a database as they were before a change stand in a journal beside its file.  A journal
is written in parts: each starts with a heading, which tells how many records follow, and a record
is the number of a page, the page, and a sum over some of its bytes.  Writing the pages back undoes
the change.
-/

namespace LogTemplate.Sink.Journal

open Image (field)

/-- What every part of a journal starts with. -/
def magic : List UInt8 := [0xD9, 0xD5, 0x05, 0xF9, 0x20, 0xA1, 0x63, 0xD7]

/-- What is found in a journal. -/
structure Layout where
  /-- The size of pages. -/
  size : Nat
  /-- What a heading takes; a part starts at a multiple of it. -/
  sector : Nat
  /-- How many pages the database had before the change. -/
  count : Nat

/-- The size of pages where a journal does not tell it. -/
def defaultSize : Nat := 4096

/-- The bytes that a journal needs to have before its first heading tells what one takes. -/
def leastSize : Nat := 512

/-- Whether a number can be a size: a power of two within bounds. -/
def isSize (least size : Nat) : Bool :=
  least ≤ size && size ≤ 65536 && Nat.pow 2 size.log2 == size

/-- The layout that the first heading of a journal tells. -/
def layout? (journal : List UInt8) : Option Layout :=
  let given := field 24 4 journal
  let size := if given = 0 then defaultSize else given
  let sector := field 20 4 journal
  if journal.length < leastSize || journal.take 8 != magic then none
  else if isSize 512 size && isSize 32 sector then
    some { size, sector, count := field 16 4 journal }
  else none

/-- The number of records that a heading tells if they go on to the end. -/
def openEnd : Nat := 0xFFFFFFFF

/-- The sum over every two hundredth byte of a page, from its end, and a number to start from. -/
def checksum (seed size : Nat) (page : List UInt8) : Nat :=
  let places := (List.range (size / 200)).map fun i => size - 200 * (i + 1)
  places.foldl (fun sum i => (sum + field i 1 page) % 0x100000000) seed

/-- The page where a database has no bytes of its own. -/
def isReserved (l : Layout) (number : Nat) : Bool := number == 0x40000000 / l.size + 1

/-- The pages in a number of records, and what follows those records, unless the journal ends
there.  A page that was not in the database before the change does not count. -/
def records (l : Layout) (seed : Nat) :
    (count : Nat) → List UInt8 → List (Nat × List UInt8) × Option (List UInt8)
  | 0, bytes => ([], some bytes)
  | count + 1, bytes =>
    let number := field 0 4 bytes
    let page := (bytes.drop 4).take l.size
    let rest := bytes.drop (l.size + 8)
    if bytes.length < l.size + 4 || number = 0 || isReserved l number then ([], none)
    else if l.count < number then records l seed count rest
    else if bytes.length < l.size + 8 ||
        field (l.size + 4) 4 bytes != checksum seed l.size page then
      ([], none)
    else
      let (pages, rest) := records l seed count rest
      ((number, page) :: pages, rest)

/-- The pages in the parts of a journal.  Each part takes at least a heading; there are at most
`fuel` of them. -/
def parts (l : Layout) (length : Nat) : (fuel : Nat) → List UInt8 → List (Nat × List UInt8)
  | 0, _ => []
  | fuel + 1, bytes =>
    if bytes.length < l.sector || bytes.take 8 != magic then []
    else
      let body := bytes.drop l.sector
      let told := field 8 4 bytes
      let count := if told = openEnd then (length - l.sector) / (l.size + 8) else told
      match records l (field 12 4 bytes) count body with
      | (pages, none) => pages
      | (pages, some rest) =>
        let end_ := length - rest.length
        pages ++ parts l length fuel (rest.drop ((l.sector - end_ % l.sector) % l.sector))

/-- The bytes of a database before the change to which a journal belongs.  If a page stands in it
more than once, the first counts. -/
def undo (journal database : List UInt8) : List UInt8 :=
  match layout? journal with
  | none => database
  | some l =>
    let pages := parts l journal.length journal.length journal
    pages.reverse.foldl (fun bytes (number, page) => overwrite ((number - 1) * l.size) page bytes)
      (database.take (l.count * l.size))

end LogTemplate.Sink.Journal
