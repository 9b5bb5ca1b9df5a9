import LogTemplate.Json.Writer
import LogTemplate.Library.Match
import LogTemplate.Sha256
import LogTemplate.Text.Utf8

/-!
# Entries

The output holds one entry for each line of the input: the line and its number, what the library
made of it, and a hash that tells entries apart.  The hash covers the line, its number, and the
match's UUID and values; the name and the tags have no part in it.
-/

namespace LogTemplate

/-- A numbered line and its match. -/
structure Entry where
  number : Int
  line : Text
  found : Option Match
  deriving DecidableEq

namespace Entry

/-- The members that the hash of an entry covers, as a document. -/
def hashed (entry : Document) : Document :=
  .mapping ((["line_number", "line", "uuid", "values"] : List Text).map fun key =>
    (key, entry.get key))

/-- The hash of a document that has the members of an entry. -/
def hashOf (entry : Document) : Text :=
  Sha256.hex (Text.Utf8.encodeText (Json.write Json.canonical (hashed entry)))

/-- The members of an entry, without its hash. -/
def members (e : Entry) : List (Text × Document) :=
  [("line_number", .int e.number),
    ("line", .text e.line),
    ("matched", .bool e.found.isSome),
    ("uuid", Document.ofText? (e.found.map (·.uuid.text))),
    ("name", Document.ofText? (e.found.map (·.name))),
    ("values", Document.ofTexts ((e.found.map (·.values)).getD {})),
    ("tags", Document.ofTags ((e.found.map (·.tags)).getD {}))]

/-- The hash of an entry. -/
def hash (e : Entry) : Text := hashOf (.mapping e.members)

/-- The entry as a document. -/
def document (e : Entry) : Document :=
  .mapping (e.members.concat ("content_hash", .text e.hash))

/-- The entries of lines, numbered from a number on, and of their matches. -/
def ofMatches : (first : Int) → List (List CodePoint) → List (Option Match) → List Entry
  | first, line :: lines, found :: rest =>
    ⟨first, Text.ofList line, found⟩ :: ofMatches (first + 1) lines rest
  | _, _, _ => []

/-- The entries of lines that are numbered from a number on. -/
def ofLines (index : Index) (workers first : Int) (lines : List (List CodePoint)) : List Entry :=
  ofMatches first lines (index.matchAll workers lines)

theorem ofLines_nil (index : Index) (workers first : Int) :
    ofLines index workers first [] = [] := by
  simp [ofLines, ofMatches]

theorem ofLines_cons (index : Index) (workers first : Int) (line : List CodePoint)
    (lines : List (List CodePoint)) :
    ofLines index workers first (line :: lines) =
      ⟨first, Text.ofList line, index.match? line⟩ ::
        ofLines index workers (first + 1) lines := by
  simp [ofLines, Index.matchAll_eq_map, ofMatches]

end Entry

end LogTemplate
