import LogTemplate.Text

/-!
# Blank characters

The white space that is ignored around names, constraints and lines: the characters of Unicode's
white-space property together with the four information separators U+001C to U+001F.
-/

namespace LogTemplate.Text

/-- White space, and the four information separators. -/
def isBlank (c : CodePoint) : Bool :=
  let n := c.toNat
  (0x09 ≤ n && n ≤ 0x0D) || (0x1C ≤ n && n ≤ 0x20) || n == 0x85 || n == 0xA0 || n == 0x1680
    || (0x2000 ≤ n && n ≤ 0x200A) || n == 0x2028 || n == 0x2029 || n == 0x202F || n == 0x205F
    || n == 0x3000

/-- The text without its leading blanks. -/
def trimLeft (s : List CodePoint) : List CodePoint := s.dropWhile isBlank

/-- The text without its trailing blanks. -/
def trimRight (s : List CodePoint) : List CodePoint := (s.reverse.dropWhile isBlank).reverse

/-- The text without the blanks around it. -/
def trim (s : List CodePoint) : List CodePoint := trimRight (trimLeft s)

/-- Whether a text holds nothing but blanks. -/
def isAllBlank (s : List CodePoint) : Bool := s.all isBlank

end LogTemplate.Text
