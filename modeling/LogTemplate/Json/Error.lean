import LogTemplate.Nesting
import LogTemplate.Numeral

/-!
# Errors in JSON texts

What is wrong with a text that is no JSON, and where; or why a text cannot be read to its end.
-/

namespace LogTemplate.Json

/-- What is wrong at a place of a text. -/
inductive Problem where
  | expectingValue
  | expectingName
  | expectingColon
  | expectingComma
  | extraData
  | unterminatedString
  | controlCharacter
  | invalidEscape
  | invalidCodeEscape
  | byteOrderMark
  deriving DecidableEq, Repr

/-- The wording of a problem. -/
def Problem.message : Problem → Text
  | .expectingValue => "Expecting value"
  | .expectingName => "Expecting property name enclosed in double quotes"
  | .expectingColon => "Expecting ':' delimiter"
  | .expectingComma => "Expecting ',' delimiter"
  | .extraData => "Extra data"
  | .unterminatedString => "Unterminated string starting at"
  | .controlCharacter => "Invalid control character at"
  | .invalidEscape => "Invalid \\escape"
  | .invalidCodeEscape => "Invalid \\uXXXX escape"
  | .byteOrderMark => "Unexpected UTF-8 BOM (decode using utf-8-sig)"

/-- Why a text is refused: a problem at a place, given by line, column and position; an integer that
is too long to be read; or collections that are nested too deep. -/
inductive Error where
  | misread (what : Problem) (line column position : Nat)
  | numeral (error : Numeral.Error)
  | tooDeep (what : Nesting.Excess)
  deriving DecidableEq, Repr

/-- The wording of an error. -/
def Error.message : Error → Text
  | .misread what line column position =>
    what.message ++ s!": line {line} column {column} (char {position})"
  | .numeral error => error.message
  | .tooDeep what => what.message

/-- A problem at a position of a text.  Lines are counted by line feeds. -/
def Error.at (text : List CodePoint) (what : Problem) (position : Nat) : Error :=
  let before := text.take position
  let column := (before.reverse.takeWhile (· != .char '\n')).length + 1
  .misread what (before.count (.char '\n') + 1) column position

end LogTemplate.Json
