import LogTemplate.Text.Digit
import LogTemplate.Yaml.Cursor
import LogTemplate.Yaml.Error

/-!
# Scalars in YAML

The texts that scalars stand for: plain ones, ones between quotation marks, and blocks.  Line breaks
inside a scalar are folded: one becomes a space, and of several the first is dropped; only a block
of the literal style keeps them.
-/

namespace LogTemplate.Yaml

/-- What is left of the breaks between two lines: the first break if it is no line feed, a space if
there is no other, and the other breaks. -/
def folded (first : List CodePoint) (others : List CodePoint) : List CodePoint :=
  if first ≠ [.char '\n'] then first ++ others
  else if others.isEmpty then [' '] else others

namespace Plain

/-- The characters that end a plain scalar inside a flow collection. -/
def isFlowMark (c : CodePoint) : Bool :=
  c == ',' || c == '[' || c == ']' || c == '\x7b' || c == '\x7d'

/-- How many characters of a plain scalar stand together at the front of a text. -/
def length (inFlow : Bool) : List CodePoint → Nat
  | [] => 0
  | c :: rest =>
    let colonEnds := isGap rest.head? || (inFlow && rest.head?.any isFlowMark)
    if isGap (some c) || (c == ':' && colonEnds) || (inFlow && (isFlowMark c || c == '?')) then 0
    else length inFlow rest + 1

/-- The breaks of empty lines and the place behind them; none at the mark of a document. -/
def emptyLines : (fuel : Nat) → Cursor → Option (List CodePoint) × Cursor
  | 0, c => (some [], c)
  | fuel + 1, c =>
    if c.isAt ' ' then emptyLines fuel c.next
    else if c.peek.any isBreak then
      let (mark, after) := c.lineBreak
      if after.isAtSeparator then (none, after)
      else
        let (others, left) := emptyLines fuel after
        (others.map (mark ++ ·), left)
    else (some [], c)

/-- What a gap between the words of a scalar stands for: nothing if the scalar cannot go on. -/
structure Gap where
  text : List CodePoint
  cursor : Cursor
  /-- Whether the gap holds a line break. -/
  hasBreak : Bool

/-- The gap behind a word. -/
def gap (c : Cursor) : Gap :=
  let (spaces, c) := c.span (· == ' ')
  if c.peek.any isBreak then
    let (first, after) := c.lineBreak
    if after.isAtSeparator then ⟨[], after, true⟩
    else match emptyLines after.rest.length after with
      | (none, left) => ⟨[], left, true⟩
      | (some others, left) => ⟨folded first others, left, true⟩
  else ⟨spaces, c, false⟩

/-- Reads on in a scalar behind a gap.  Lines have to be indented by `indent`, except inside a flow
collection.  The last result tells whether the line has changed behind the last word. -/
def scan (inFlow : Bool) (indent : Nat) :
    (fuel : Nat) → (gapBefore : List CodePoint) → (hasBreak : Bool) → Cursor →
      List CodePoint × Cursor × Bool
  | 0, _, hasBreak, c => ([], c, hasBreak)
  | fuel + 1, gapBefore, hasBreak, c =>
    let count := length inFlow c.rest
    if c.isAt '#' || count == 0 then ([], c, hasBreak)
    else
      let word := c.rest.take count
      let found := gap (c.skip count)
      if found.text.isEmpty || found.cursor.isAt '#'
          || (!inFlow && found.cursor.column < indent) then
        (gapBefore ++ word, found.cursor, found.hasBreak)
      else
        let (more, left, last) := scan inFlow indent fuel found.text found.hasBreak found.cursor
        (gapBefore ++ word ++ more, left, last)

/-- Whether a plain scalar can start here. -/
def canStart (inFlow : Bool) (c : Cursor) : Bool :=
  match c.peek with
  | none => false
  | some first =>
    !(isGap (some first) || (Text.toList "-?:,[]\x7b\x7d#&*!|>'\"%@\x60").contains first)
      || (!isGap (c.peekAt 1) && (first == '-' || (!inFlow && (first == '?' || first == ':'))))

end Plain

namespace Quoted

/-- The character that a short escape stands for. -/
def shortEscape? (c : CodePoint) : Option CodePoint :=
  (([('0', '\x00'), ('a', '\x07'), ('b', '\x08'), ('t', '\t'), ('\t', '\t'), ('n', '\n'),
    ('v', '\x0b'), ('f', '\x0c'), ('r', '\r'), ('e', '\x1b'), (' ', ' '), ('"', '"'), ('\\', '\\'),
    ('/', '/'), ('N', '\x85'), ('_', '\xa0'), ('L', '\u2028'), ('P', '\u2029')]).find?
      (CodePoint.char ·.1 == c)).map (CodePoint.char ·.2)

/-- How many digits an escape by code has. -/
def codeDigits? (c : CodePoint) : Option Nat :=
  if c == 'x' then some 2 else if c == 'u' then some 4 else if c == 'U' then some 8 else none

/-- The code point of a code. -/
def ofCode (code : Nat) : Except Error CodePoint :=
  if 0x110000 ≤ code then .error (.noCharacter code)
  else .ok (CodePoint.ofNat code)

/-- The character that an escape by code stands for, and the place behind its digits. -/
def codeEscape (digits : Nat) (c : Cursor) : Except Error (CodePoint × Cursor) :=
  let code := c.rest.take digits
  if code.length < digits then .error .malformed
  else match Text.hexNumber? code with
    | none => .error .malformed
    | some n => (ofCode n).map fun char => (char, c.skip digits)

/-- The breaks of empty lines and the place behind them. -/
def emptyLines : (fuel : Nat) → Cursor → Except Error (List CodePoint × Cursor)
  | 0, c => .ok ([], c)
  | fuel + 1, c =>
    if c.isAtSeparator then .error .malformed
    else
      let c := c.skipWhile fun (c : CodePoint) => c == ' ' || c == '\t'
      if c.peek.any isBreak then do
        let (mark, after) := c.lineBreak
        let (others, left) ← emptyLines fuel after
        return (mark ++ others, left)
      else .ok ([], c)

/-- What an escape stands for, and the place behind it; the cursor is behind the backslash. -/
def escape (c : Cursor) : Except Error (List CodePoint × Cursor) :=
  match c.peek with
  | none => .error .malformed
  | some first =>
    match shortEscape? first, codeDigits? first with
    | some char, _ => .ok ([char], c.next)
    | none, some digits => do
      let (char, left) ← codeEscape digits c.next
      return ([char], left)
    | none, none =>
      if isBreak first then
        let after := c.lineBreak.2
        emptyLines (after.rest.length + 1) after
      else .error .malformed

/-- What white space inside the marks stands for, and the place behind it. -/
def space (c : Cursor) : Except Error (List CodePoint × Cursor) :=
  let (blanks, c) := c.span fun (c : CodePoint) => c == ' ' || c == '\t'
  match c.peek with
  | none => .error .malformed
  | some first =>
    if isBreak first then do
      let (mark, after) := c.lineBreak
      let (others, left) ← emptyLines (after.rest.length + 1) after
      return (folded mark others, left)
    else .ok (blanks, c)

/-- Reads on up to the closing mark, which is double or single. -/
def scan (double : Bool) : (fuel : Nat) → Cursor → Except Error (List CodePoint × Cursor)
  | 0, _ => .error .malformed
  | fuel + 1, c => do
    match c.peek with
    | none => .error .malformed
    | some first =>
      if first == (if double then '"' else '\'') then
        if !double && c.peekAt 1 == some (.char '\'') then
          let (more, left) ← scan double fuel (c.skip 2)
          return ('\'' :: more, left)
        else return ([], c.next)
      else
        let (part, after) ←
          if isGap (some first) then space c
          else if double && first == '\\' then escape c.next
          else .ok ([first], c.next)
        let (more, left) ← scan double fuel after
        return (part ++ more, left)

end Quoted

namespace Block

/-- What becomes of the breaks at the end of a block. -/
inductive Chomping where
  /-- All are dropped. -/
  | strip
  /-- The first is kept. -/
  | clip
  /-- All are kept. -/
  | keep
  deriving DecidableEq, Repr

/-- The chomping that a character asks for. -/
def chomping? (c : Option CodePoint) : Option Chomping :=
  if c == some (.char '+') then some .keep
  else if c == some (.char '-') then some .strip
  else none

/-- The indentation that a digit asks for. -/
def increment? (c : Option CodePoint) : Option Nat :=
  match c with
  | some d => if d.isDigit then some (d.toNat - 0x30) else none
  | none => none

/-- The header of a block: a chomping and an indentation in either order, or one, or none. -/
def header (c : Cursor) : Except Error (Chomping × Option Nat × Cursor) :=
  let (chomping, increment, after) :=
    match chomping? c.peek with
    | some chomping =>
      match increment? c.next.peek with
      | some n => (chomping, some n, c.skip 2)
      | none => (chomping, none, c.next)
    | none =>
      match increment? c.peek with
      | some n =>
        match chomping? c.next.peek with
        | some chomping => (chomping, some n, c.skip 2)
        | none => (.clip, some n, c.next)
      | none => (.clip, none, c)
  if increment == some 0 || !isSpaceOrEnd after.peek then .error .malformed
  else
    let after := after.skipSpaces.skipComment
    if endsLine after.peek then .ok (chomping, increment, after.lineBreak.2)
    else .error .malformed

/-- The place behind spaces, but no further than a column. -/
def skipIndent (indent : Nat) (c : Cursor) : Cursor :=
  c.skip (min (indent - c.column) (c.rest.takeWhile (· == .char ' ')).length)

/-- The breaks of empty lines in front of a line, and the place behind the line's indentation. -/
def emptyLines (indent : Nat) : (fuel : Nat) → Cursor → List CodePoint × Cursor
  | 0, c => ([], c)
  | fuel + 1, c =>
    let c := skipIndent indent c
    if c.peek.any isBreak then
      let (mark, after) := c.lineBreak
      let (others, left) := emptyLines indent fuel after
      (mark ++ others, left)
    else ([], c)

/-- The breaks of empty lines in front of the first line, the greatest column that is reached in
them and in the first line's spaces, and the place behind those. -/
def findIndent : (fuel : Nat) → (greatest : Nat) → Cursor → List CodePoint × Nat × Cursor
  | 0, greatest, c => ([], greatest, c)
  | fuel + 1, greatest, c =>
    if c.isAt ' ' then findIndent fuel (max greatest c.next.column) c.next
    else if c.peek.any isBreak then
      let (mark, after) := c.lineBreak
      let (others, indent, left) := findIndent fuel greatest after
      (mark ++ others, indent, left)
    else ([], greatest, c)

/-- Reads the lines of a block that are indented by `indent`.  The results are their text without
its last break, that break, the breaks behind it, and the place behind those. -/
def lines (isFolded : Bool) (indent : Nat) : (fuel : Nat) → (breaks : List CodePoint) → Cursor →
    List CodePoint × List CodePoint × List CodePoint × Cursor
  | 0, breaks, c => ([], [], breaks, c)
  | fuel + 1, breaks, c =>
    if c.column ≠ indent || c.peek.isNone then ([], [], breaks, c)
    else
      let startsDense := !(c.isAt ' ' || c.isAt '\t')
      let (line, c) := c.span (!isBreak ·)
      let (mark, after) := c.lineBreak
      let (others, next) := emptyLines indent (after.rest.length + 1) after
      if next.column ≠ indent || next.peek.isNone then (breaks ++ line, mark, others, next)
      else
        let joint :=
          if isFolded && mark == [.char '\n'] && startsDense
            && !(next.isAt ' ' || next.isAt '\t') then
            if others.isEmpty then [.char ' '] else []
          else mark
        let (more, last, left) := lines isFolded indent fuel others next
        (breaks ++ line ++ joint ++ more, last, left)

/-- Reads a block behind its mark, inside collections that are indented by `outer`. -/
def scan (isFolded : Bool) (outer : Option Nat) (c : Cursor) :
    Except Error (List CodePoint × Cursor) := do
  let (chomping, increment, c) ← header c
  let least := max 1 (outer.elim 0 (· + 1))
  let (indent, breaks, c) := match increment with
    | none =>
      let (breaks, greatest, c) := findIndent (c.rest.length + 1) 0 c
      (max least greatest, breaks, c)
    | some n =>
      let (breaks, c) := emptyLines (least + n - 1) (c.rest.length + 1) c
      (least + n - 1, breaks, c)
  let (text, last, others, left) := lines isFolded indent (c.rest.length + 1) breaks c
  match chomping with
  | .strip => return (text, left)
  | .clip => return (text ++ last, left)
  | .keep => return (text ++ last ++ others, left)

end Block

end LogTemplate.Yaml
