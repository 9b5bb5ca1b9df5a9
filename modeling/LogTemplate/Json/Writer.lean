import LogTemplate.Document

/-!
# Writing JSON

The text of a document on one line: a space behind every comma and colon unless it is compact, and
the entries of mappings in their own order or sorted by key.
-/

namespace LogTemplate.Json

/-- How a text is written. -/
structure Style where
  /-- Whether characters beyond ASCII are escaped. -/
  asciiOnly : Bool
  /-- Whether the entries of mappings are sorted by key. -/
  sortedKeys : Bool
  /-- Whether there are no spaces. -/
  isCompact : Bool

/-- An escape of sixteen bits. -/
def codeEscape (n : Nat) : List CodePoint := '\\' :: 'u' :: Text.hexDigits 4 n

/-- A character as one or two escapes. -/
def charEscape (c : CodePoint) : List CodePoint :=
  let n := c.toNat
  if n < 0x10000 then codeEscape n
  else codeEscape (0xD800 + (n - 0x10000) / 0x400) ++ codeEscape (0xDC00 + (n - 0x10000) % 0x400)

/-- One character inside a string. -/
def writeChar (style : Style) (c : CodePoint) : List CodePoint :=
  if c = '"' || c = '\\' then ['\\', c]
  else if c = '\n' then ['\\', 'n']
  else if c = '\r' then ['\\', 'r']
  else if c = '\t' then ['\\', 't']
  else if c = '\x0c' then ['\\', 'f']
  else if c = '\x08' then ['\\', 'b']
  else if c.toNat < 0x20 then charEscape c
  else if style.asciiOnly && 0x7F ≤ c.toNat then charEscape c
  else [c]

/-- A string between its marks. -/
def writeString (style : Style) (s : List CodePoint) : List CodePoint :=
  .char '"' :: s.flatMap (writeChar style) ++ [.char '"']

/-- Sorts entries by key, in the order of code points. -/
def sortByKey {α : Type} (entries : List (Text × α)) : List (Text × α) :=
  entries.mergeSort fun a b => decide (a.1 ≤ b.1)

/-- A mark between parts, and the space behind it. -/
def separator (style : Style) (mark : CodePoint) : List CodePoint :=
  if style.isCompact then [mark] else [mark, ' ']

/-- Writes parts between an opening and a closing mark, with commas between them. -/
def bracket (style : Style) (opening closing : CodePoint) (parts : List (List CodePoint)) :
    List CodePoint :=
  opening :: (separator style ',').intercalate parts ++ [closing]

mutual

/-- The text of a document. -/
def write (style : Style) : Document → List CodePoint
  | .null => Text.toList "null"
  | .bool b => Text.toList (if b then "true" else "false")
  | .int n => Text.toList (toString n)
  | .float x => Text.toList x.jsonText
  | .text s => writeString style s.toList
  | .list items => bracket style '[' ']' (writeItems style items)
  | .mapping entries =>
    let parts := writeEntries style entries
    let parts := if style.sortedKeys then sortByKey parts else parts
    bracket style '\x7b' '\x7d' (parts.map Prod.snd)

/-- The texts of the items of a list. -/
def writeItems (style : Style) : List Document → List (List CodePoint)
  | [] => []
  | item :: rest => write style item :: writeItems style rest

/-- The texts of the entries of a mapping, each with its key. -/
def writeEntries (style : Style) : List (Text × Document) → List (Text × List CodePoint)
  | [] => []
  | (key, value) :: rest =>
    (key, writeString style key.toList ++ separator style ':' ++ write style value)
      :: writeEntries style rest

end

/-- Texts for files: characters as they are, entries in their own order. -/
def plain : Style := ⟨false, false, false⟩

/-- Texts to be hashed: ASCII, entries sorted. -/
def canonical : Style := ⟨true, true, false⟩

/-- Texts without spaces. -/
def compact : Style := ⟨false, false, true⟩

/-- The text of a document. -/
def writeText (style : Style) (d : Document) : Text := Text.ofList (write style d)

end LogTemplate.Json
