import LogTemplate.Text.Digit
import LogTemplate.Text.Printable

/-!
# Quoted text

A text as messages show it: between quotation marks, with unprintable characters escaped.  Single
marks are used unless the text holds a single mark and no double one.
-/

namespace LogTemplate.Text

/-- The mark that a text is quoted with. -/
def quotationMark (s : List CodePoint) : CodePoint :=
  if s.contains '\'' && !s.contains '"' then '"' else '\''

/-- An unprintable character as the shortest of the three hexadecimal escapes that holds it. -/
def hexEscape (code : Nat) : List CodePoint :=
  if code < 0x100 then '\\' :: 'x' :: hexDigits 2 code
  else if code < 0x10000 then '\\' :: 'u' :: hexDigits 4 code
  else '\\' :: 'U' :: hexDigits 8 code

/-- One character inside the given quotation marks. -/
def quoteChar (mark c : CodePoint) : List CodePoint :=
  if c = mark || c = '\\' then ['\\', c]
  else if c = '\t' then ['\\', 't']
  else if c = '\n' then ['\\', 'n']
  else if c = '\r' then ['\\', 'r']
  else if isPrintable c then [c]
  else hexEscape c.toNat

/-- A text between quotation marks. -/
def quote (s : List CodePoint) : List CodePoint :=
  let mark := quotationMark s
  mark :: s.flatMap (quoteChar mark) ++ [mark]

/-- A text between quotation marks. -/
def quoted (s : Text) : Text := Text.ofList (quote s.toList)

end LogTemplate.Text
