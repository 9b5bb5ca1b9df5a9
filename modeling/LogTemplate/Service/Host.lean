import LogTemplate.Field.Address
import LogTemplate.Text.Identifier

/-!
# Hosts

Which texts can stand for a host in a URL: an IPv4 address, an IPv6 address between brackets, or a
name.  What looks like an address has to be one.
-/

namespace LogTemplate.Service.Host

open Text

/-- Whether a text is four runs of digits with one character, whichever, after each run but the
last.  Where a character other than a digit stands, it is one of the three; the others are digits
that have digits on both sides. -/
def looksIpv4 (host : List Char) : Bool :=
  let runs := splitOn '.' (host.map fun c => if c.isDigit then c else '.')
  let spare := runs.foldl (fun n run => n + (run.length - 1) / 2) 0
  runs.all (!·.isEmpty) && runs.length ≤ 4 && 3 ≤ runs.length - 1 + spare

/-- Whether a text stands between brackets. -/
def isBracketed (host : List Char) : Bool :=
  host.head? == some '[' && host.getLast? == some ']'

/-- What stands between the brackets. -/
def bracketed (host : List Char) : List Char := host.tail.dropLast

/-- The longest label, and the longest name. -/
def labelLimit : Nat := 63

/-- The marks that end a label. -/
def labelEnds : List Char := ['.', '\u3002', '\uFF0E', '\uFF61']

/-- Whether a label can stand in a name that is not all ASCII: letters, digits and hyphens, the
hyphens neither at the ends nor together in the third and fourth place. -/
def isLabel (label : List Char) : Bool :=
  let isPart := fun (c : Char) =>
    c == '-' || c.isAlphanum || (0x80 ≤ c.toNat && isIdentifierPart c)
  label.all isPart && !label.isEmpty && label.length ≤ labelLimit
    && label.head? != some '-' && label.getLast? != some '-'
    && (label.drop 2).take 2 != ['-', '-']

/-- Whether a text is the name of a host.  All of ASCII can stand in a name; a name with other
characters is made of labels, and may end with a mark. -/
def isName (host : List Char) : Bool :=
  let parts := splitOn '.' (host.map fun c => if labelEnds.contains c then '.' else c)
  let labels := if parts.getLast? == some [] then parts.dropLast else parts
  host.all (·.toNat < 0x80) || labels.all isLabel

end LogTemplate.Service.Host
