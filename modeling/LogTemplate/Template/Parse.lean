import LogTemplate.Template.Error
import LogTemplate.Template.Token
import LogTemplate.Text.Split

/-!
# Reading a template

A template is cut at its `@` signs into pieces: single characters, doubled signs, and the bodies of
fields.  Each body is then read as a field, and characters that stand together become one literal.
The first piece that cannot be read decides the error.
-/

namespace LogTemplate

open Text

/-- A piece of a template. -/
inductive Piece where
  /-- A character that stands for itself. -/
  | plain (c : CodePoint)
  /-- Two signs, which stand for one. -/
  | doubled
  /-- What stands between two signs. -/
  | body (text : List CodePoint)
  /-- A sign that no second one follows. -/
  | unclosed
  deriving DecidableEq, Repr

namespace Piece

/-- How many characters of the template a piece takes. -/
def length : Piece → Nat
  | .plain _ => 1
  | .doubled => 2
  | .body text => text.length + 2
  | .unclosed => 1

/-- The piece that a second sign closes. -/
def closed (reversedBody : List CodePoint) : Piece :=
  if reversedBody.isEmpty then .doubled else .body reversedBody.reverse

/-- The pieces of a text.  Behind a sign the state is the text since that sign, reversed. -/
def cut : Option (List CodePoint) → List CodePoint → List Piece
  | none, [] => []
  | some _, [] => [.unclosed]
  | none, c :: rest => if c = '@' then cut (some []) rest else .plain c :: cut none rest
  | some seen, c :: rest =>
    if c = '@' then closed seen :: cut none rest else cut (some (c :: seen)) rest

end Piece

namespace Field

/-- The parts of the body of a field. -/
structure Parts where
  kind : List CodePoint
  /-- What stands between the parentheses, if there are any. -/
  bounds : Option (List CodePoint)
  name : List CodePoint
  deriving DecidableEq, Repr

/-- The name at the end of a body.  A line feed after it does not count. -/
def nameAtEnd? (s : List CodePoint) : Option (List CodePoint) :=
  let name := s.takeWhile isNameChar
  let rest := s.dropWhile isNameChar
  if isName name && (rest.isEmpty || rest == [.char '\n']) then some name else none

/-- The parts of a body: the kind, bounds between parentheses or not, a colon, the name. -/
def parts? (body : List CodePoint) : Option Parts :=
  let kind := body.takeWhile CodePoint.isAlphanum
  if kind.isEmpty then none
  else match body.dropWhile CodePoint.isAlphanum with
    | ':' :: rest => (nameAtEnd? rest).map fun name => ⟨kind, none, name⟩
    | '(' :: rest =>
      let isInside := fun (c : CodePoint) => !(c == '(' || c == ')')
      match rest.dropWhile isInside with
      | ')' :: ':' :: after =>
        (nameAtEnd? after).map fun name => ⟨kind, some (rest.takeWhile isInside), name⟩
      | _ => none
    | _ => none

/-- Reads one bound and adds it to those before it. -/
def readBound (kind : Kind) (bounds : Bounds) (item : List CodePoint) :
    Except TemplateError.Cause Bounds :=
  let malformed := .error (.malformedBound (Text.ofList (trim item)))
  match splitAt? (CodePoint.char '=') item with
  | none => malformed
  | some (before, after) =>
    let key := Text.ofList (trim before)
    if key.isEmpty then malformed
    else match Limit.ofName? key with
      | none => .error (.unsupportedBound key kind)
      | some limit =>
        if !kind.allows limit then .error (.unsupportedBound key kind)
        else if (bounds.get? limit).isSome then .error (.repeatedBound limit)
        else match Numeral.readDecimal (trim after) with
          | .error _ => .error (.boundNotInteger limit (Text.ofList (trim after)))
          | .ok value => .ok (bounds.set limit value)

/-- Refuses bounds of which a lower one lies above its upper one. -/
def checkCrossing (bounds : Bounds) : Except TemplateError.Cause Bounds :=
  if Bounds.above bounds.min bounds.max then .error (.crossedBounds .min .max)
  else if Bounds.above bounds.minLength bounds.maxLength then
    .error (.crossedBounds .minLength .maxLength)
  else .ok bounds

/-- Reads the bounds between the parentheses; blank text holds none. -/
def readBounds (kind : Kind) (text : Option (List CodePoint)) : Except TemplateError.Cause Bounds :=
  match text with
  | none => .ok {}
  | some text =>
    if isAllBlank text then .ok {}
    else do checkCrossing (← (splitOn (CodePoint.char ',') text).foldlM (readBound kind) {})

/-- Reads the body of a field. -/
def read (body : List CodePoint) : Except TemplateError.Cause Field :=
  match parts? body with
  | none => .error (.malformedField (Text.ofList body))
  | some parts =>
    match Kind.ofName? (Text.ofList parts.kind) with
    | none => .error (.unknownKind (Text.ofList parts.kind))
    | some kind => do
      let bounds ← readBounds kind parts.bounds
      return ⟨kind, Text.ofList parts.name, bounds⟩

end Field

namespace Token

/-- The tokens of the pieces that start at a position, where the names in `seen` are taken. -/
def ofPieces (position : Nat) (seen : List Text) :
    List Piece → Except TemplateError (List Token)
  | [] => .ok []
  | .plain c :: rest => do return consChar c (← ofPieces (position + 1) seen rest)
  | .doubled :: rest => do return consChar '@' (← ofPieces (position + 2) seen rest)
  | .unclosed :: _ => .error ⟨.unterminated, position⟩
  | .body text :: rest =>
    match Field.read text with
    | .error cause => .error ⟨cause, position⟩
    | .ok f =>
      if seen.contains f.name then .error ⟨.repeatedName f.name, position⟩
      else do return .field f :: (← ofPieces (position + text.length + 2) (f.name :: seen) rest)

/-- The tokens of a template. -/
def parse (template : List CodePoint) : Except TemplateError (List Token) :=
  if template.isEmpty then .error ⟨.emptyTemplate, 0⟩
  else ofPieces 0 [] (Piece.cut none template)

end Token

end LogTemplate
