import LogTemplate.Text

/-!
# Lines

Two ways to cut a text into lines.  A file is read with its three line ends (line feed, carriage
return, and the two together) made one, and is cut at line feeds; a text at hand is cut at every
mandatory break of Unicode and at the information separators.  In both an unfinished last line
counts, and a finished one is not followed by an empty line.
-/

namespace LogTemplate.Text

/-- Makes a carriage return, alone or with the line feed after it, a line feed. -/
def unifyBreaks : List CodePoint → List CodePoint
  | [] => []
  | '\r' :: '\n' :: rest => '\n' :: unifyBreaks rest
  | c :: rest => (if c = '\r' then '\n' else c) :: unifyBreaks rest

/-- The lines that line feeds end, and the unfinished line after them if it is not empty. -/
def lines : List CodePoint → List (List CodePoint)
  | [] => []
  | c :: rest =>
    if c = '\n' then [] :: lines rest
    else match lines rest with
      | [] => [[c]]
      | line :: found => (c :: line) :: found

/-- The lines that line feeds end, each with its line feed, and the unfinished line after them if
it is not empty. -/
def linesWithEnds : List CodePoint → List (List CodePoint)
  | [] => []
  | c :: rest =>
    if c = '\n' then [c] :: linesWithEnds rest
    else match linesWithEnds rest with
      | [] => [[c]]
      | line :: found => (c :: line) :: found

/-- The lines of a file's text. -/
def fileLines (s : List CodePoint) : List (List CodePoint) := lines (unifyBreaks s)

/-- Whether the character ends a line of a text at hand. -/
def isBreak (c : CodePoint) : Bool :=
  let n := c.toNat
  (0x0A ≤ n && n ≤ 0x0D) || (0x1C ≤ n && n ≤ 0x1E) || n == 0x85 || n == 0x2028 || n == 0x2029

/-- Makes every break a line feed; a carriage return and the line feed after it are one break. -/
def unifyAllBreaks : List CodePoint → List CodePoint
  | [] => []
  | '\r' :: '\n' :: rest => '\n' :: unifyAllBreaks rest
  | c :: rest => (if isBreak c then '\n' else c) :: unifyAllBreaks rest

/-- The lines of a text at hand. -/
def splitLines (s : List CodePoint) : List (List CodePoint) := lines (unifyAllBreaks s)

end LogTemplate.Text
