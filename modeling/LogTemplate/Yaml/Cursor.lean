import LogTemplate.Text
import LogTemplate.Text.Split

/-!
# A place in a YAML text

A cursor is a place in a text: what is left of the text there, and the line and column.  Lines end
at line feeds, carriage returns, the two together, next-line characters, and the separators of
lines and paragraphs.
-/

namespace LogTemplate.Yaml

/-- Whether the character ends a line. -/
def isBreak (c : CodePoint) : Bool :=
  c == '\n' || c == '\r' || c == '\x85' || c == '\u2028' || c == '\u2029'

/-- Whether a line ends here, or the text. -/
def endsLine (c : Option CodePoint) : Bool := c.all isBreak

/-- Whether a space stands here, or a line ends. -/
def isSpaceOrEnd (c : Option CodePoint) : Bool :=
  c.all fun (c : CodePoint) => c == ' ' || isBreak c

/-- Whether white space stands here, or a line ends. -/
def isGap (c : Option CodePoint) : Bool :=
  c.all fun (c : CodePoint) => c == ' ' || c == '\t' || isBreak c

/-- The characters of the names of anchors, directives and tags. -/
def isWordChar (c : CodePoint) : Bool := c.isAlphanum || c == '-' || c == '_'

/-- A place in a text. -/
structure Cursor where
  rest : List CodePoint
  /-- How many characters lie before the place. -/
  index : Nat := 0
  line : Nat := 0
  column : Nat := 0
  deriving Repr

namespace Cursor

/-- The character at the place. -/
def peek (c : Cursor) : Option CodePoint := c.rest.head?

/-- The character some steps behind the place. -/
def peekAt (c : Cursor) (steps : Nat) : Option CodePoint := c.rest[steps]?

/-- Whether the given character stands here. -/
def isAt (c : Cursor) (mark : CodePoint) : Bool := c.peek == some mark

/-- The next place. -/
def next (c : Cursor) : Cursor :=
  match c.rest with
  | [] => c
  | first :: rest =>
    if isBreak first && !(first == '\r' && rest.head? == some (.char '\n')) then
      ⟨rest, c.index + 1, c.line + 1, 0⟩
    else if first == '\uFEFF' then ⟨rest, c.index + 1, c.line, c.column⟩
    else ⟨rest, c.index + 1, c.line, c.column + 1⟩

/-- The place some steps on. -/
def skip : (steps : Nat) → Cursor → Cursor
  | 0, c => c
  | steps + 1, c => skip steps c.next

/-- The characters from here on that have a property, and the place behind them. -/
def span (p : CodePoint → Bool) (c : Cursor) : List CodePoint × Cursor :=
  let taken := c.rest.takeWhile p
  (taken, c.skip taken.length)

/-- The place behind the characters that have a property. -/
def skipWhile (p : CodePoint → Bool) (c : Cursor) : Cursor := (c.span p).2

/-- The place behind spaces. -/
def skipSpaces (c : Cursor) : Cursor := c.skipWhile (· == ' ')

/-- The end of a comment, if one starts here. -/
def skipComment (c : Cursor) : Cursor := if c.isAt '#' then c.skipWhile (!isBreak ·) else c

/-- What a line break here stands for, and the place behind it. -/
def lineBreak (c : Cursor) : List CodePoint × Cursor :=
  match c.rest with
  | '\r' :: '\n' :: _ => (['\n'], c.skip 2)
  | first :: _ =>
    if first == '\r' || first == '\n' || first == '\x85' then (['\n'], c.next)
    else if isBreak first then ([first], c.next)
    else ([], c)
  | [] => ([], c)

/-- Whether three marks and a gap stand here. -/
def isAtMarker (c : Cursor) (mark : CodePoint) : Bool :=
  [mark, mark, mark].isPrefixOf c.rest && isGap (c.peekAt 3)

/-- Whether the start or the end of a document is marked here. -/
def isAtSeparator (c : Cursor) : Bool := c.isAtMarker '-' || c.isAtMarker '.'

end Cursor

end LogTemplate.Yaml
