import LogTemplate.Double
import LogTemplate.Text.Utf8
import LogTemplate.Text.Wide

/-!
# Cells

What stands in a column of a row: nothing, a number, a text or bytes.  Cells are ordered by kind,
numbers by their value, and texts as their collation says.
-/

namespace LogTemplate.Sink

open Text

/-- How a database writes its texts. -/
inductive TextForm where
  | utf8
  /-- Units of two bytes, the high one first or not. -/
  | utf16 (highFirst : Bool)
  deriving DecidableEq, Repr, Inhabited

/-- What stands in a column of a row. -/
inductive Cell where
  | null
  | integer (value : Int)
  | real (value : Double)
  | text (value : String)
  /-- A text whose bytes are no characters. -/
  | garbled (bytes : List UInt8)
  | blob (bytes : List UInt8)
  deriving DecidableEq, Repr, Inhabited

/-- How texts are compared. -/
inductive Collation where
  /-- By their bytes. -/
  | binary
  /-- Whatever the case of their ASCII letters. -/
  | caseless
  /-- Without the spaces at their ends. -/
  | unpadded
  deriving DecidableEq, Repr, Inhabited

/-- The order of bytes: that of the first ones that differ. -/
def compareBytes : List UInt8 → List UInt8 → Ordering
  | [], [] => .eq
  | [], _ :: _ => .lt
  | _ :: _, [] => .gt
  | a :: as, b :: bs => if a = b then compareBytes as bs else compare a b

/-- A text as a collation that does not compare bytes sees it. -/
def Collation.reduce : Collation → String → String
  | .binary, s => s
  | .caseless, s => String.ofList (s.toList.map Char.toLower)
  | .unpadded, s => String.ofList (s.toList.reverse.dropWhile (· == ' ')).reverse

/-- The order of two texts. -/
def Collation.compare (collation : Collation) (form : TextForm) (s t : String) : Ordering :=
  match collation, form with
  | .binary, .utf16 highFirst =>
    compareBytes (Wide.encode highFirst s.toList) (Wide.encode highFirst t.toList)
  | _, _ => Ord.compare (collation.reduce s) (collation.reduce t)

namespace Cell

/-- The place of a kind of cell in the order: nothing, numbers, texts, bytes. -/
def rank : Cell → Nat
  | .null => 0
  | .integer _ | .real _ => 1
  | .text _ | .garbled _ => 2
  | .blob _ => 3

/-- The bytes of a text, or bytes. -/
def bytes : Cell → List UInt8
  | .text s => Utf8.encode s.toList
  | .garbled bytes | .blob bytes => bytes
  | _ => []

/-- The text of bytes. -/
def ofBytes (bytes : List UInt8) : Cell :=
  match Utf8.decode bytes with
  | .ok s => .text (String.ofList s)
  | .error _ => .garbled bytes

/-- A text as a database writes it, of which a half that stands alone is no character. -/
def ofText (s : Text) : Cell :=
  match s.string? with
  | some chars => .text chars
  | none => .garbled (Utf8.encodeText s.toList)

/-- Whether a cell holds nothing. -/
def isNull (c : Cell) : Bool := c == .null

/-- The order of two cells. -/
def compare (form : TextForm) (collation : Collation) : Cell → Cell → Ordering
  | .integer m, .integer n => Ord.compare m n
  | .real x, .real y => (x.compare? y).getD .eq
  | .real x, .integer n => x.compareInt n
  | .integer n, .real x => (x.compareInt n).swap
  | .text s, .text t => collation.compare form s t
  | a, b => (Ord.compare a.rank b.rank).then (compareBytes a.bytes b.bytes)

/-- Whether two cells are equal, as a collation sees it. -/
def same (form : TextForm) (collation : Collation) (a b : Cell) : Bool :=
  a.compare form collation b == .eq

/-- A truth value as a cell. -/
def ofBool (b : Bool) : Cell := .integer (if b then 1 else 0)

end Cell

end LogTemplate.Sink
