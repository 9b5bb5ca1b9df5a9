import LogTemplate.Text.Digit
import LogTemplate.Text.Split

/-!
# Arguments

An argument of a command line is a word, an option, or the mark of two dashes, behind which all
arguments are words.  Which options there are depends on where the argument stands.  A long option
may be shortened as far as it stays unambiguous, and options of one letter may be written together.
-/

namespace LogTemplate

/-- The options. -/
inductive Switch where
  | help
  | verbose
  | workers
  deriving DecidableEq, Repr

namespace Switch

/-- The long name of an option. -/
def longName : Switch → List Char
  | .help => "--help".toList
  | .verbose => "--verbose".toList
  | .workers => "--workers".toList

/-- The letter of an option. -/
def letter? : Switch → Option Char
  | .help => some 'h'
  | .verbose => some 'v'
  | .workers => none

/-- Whether a value belongs to an option. -/
def takesValue : Switch → Bool
  | .workers => true
  | _ => false

end Switch

/-- An argument. -/
inductive Argument where
  | word (text : List Char)
  /-- Two dashes. -/
  | mark
  /-- Options without values. -/
  | flags (all : List Switch)
  /-- An option whose value, if not given here, is the next argument. -/
  | valued (switch : Switch) (value : Option (List Char))
  /-- An option that is not known. -/
  | unknown
  /-- An option with a value that it does not take, or with letters behind it that are none. -/
  | malformed
  /-- A shortened option that may be one of several. -/
  | ambiguous
  deriving DecidableEq, Repr

namespace Argument

/-- The options of some letters, if each of them is the letter of an option. -/
def cluster? (known : List Switch) (letters : List Char) : Option (List Switch) :=
  letters.mapM fun c => known.find? (·.letter? == some c)

/-- The option of a long name, with the value behind its equals sign. -/
def ofLong (switch : Switch) (value : Option (List Char)) : Argument :=
  if switch.takesValue then .valued switch value
  else if value.isSome then .malformed
  else .flags [switch]

/-- The options of one letter that are written together.  An equals sign behind the first of them
does not count, but some letter follows it. -/
def ofLetters (known : List Switch) (first : Char) (rest : List Char) : Argument :=
  let letters := match rest with
    | ['='] => none
    | '=' :: others => some (first :: others)
    | others => some (first :: others)
  match letters.bind (cluster? known) with
  | some all => .flags all
  | none => .malformed

/-- Whether a text is a negative number, with or without a point; a line feed may end it. -/
def isNegativeNumber (text : List Char) : Bool :=
  let isDigit := fun (c : Char) => (Text.digitValue? c).isSome
  let body := if text.getLast? == some '\n' then text.dropLast else text
  match body with
  | '-' :: number =>
    match number.dropWhile isDigit with
    | [] => !number.isEmpty
    | '.' :: fraction => !fraction.isEmpty && fraction.all isDigit
    | _ => false
  | _ => false

/-- An argument that is none of the known options: a word if it has a blank or is a number. -/
def ofOther (text : List Char) : Argument :=
  if isNegativeNumber text || text.contains ' ' then .word text else .unknown

/-- An argument that starts with two dashes. -/
def ofDashed (known : List Switch) (text : List Char) : Argument :=
  let (name, value) := match Text.splitAt? '=' text with
    | some (name, value) => (name, some value)
    | none => (text, none)
  match known.find? (·.longName == name) with
  | some switch => ofLong switch value
  | none =>
    match known.filter fun switch => name.isPrefixOf switch.longName with
    | [switch] => ofLong switch value
    | [] => ofOther text
    | _ => .ambiguous

/-- An argument, read with some options known. -/
def ofText (known : List Switch) (text : List Char) : Argument :=
  match text with
  | ['-', '-'] => .mark
  | '-' :: '-' :: _ => ofDashed known text
  | '-' :: c :: rest =>
    match known.find? (·.letter? == some c) with
    | none => ofOther text
    | some _ => ofLetters known c rest
  | _ => .word text

end Argument

end LogTemplate
