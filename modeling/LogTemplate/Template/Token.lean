import LogTemplate.Field
import LogTemplate.Numeral

/-!
# Tokens of a template

A template is a row of literals and fields.  This module holds the tokens, what can be read off
them, when a row of tokens is well formed, and its written form, in which an `@` of a literal is
doubled and a field stands between two.
-/

namespace LogTemplate

/-- Literal text, or a field. -/
inductive Token where
  | literal (text : List CodePoint)
  | field (field : Field)
  deriving DecidableEq, Repr, Inhabited

namespace Token

/-- How many characters of a line the token fixes. -/
def literalLength : Token → Nat
  | .literal text => text.length
  | .field _ => 0

/-- How many characters of a line the tokens fix. -/
def fixedLength : List Token → Nat
  | [] => 0
  | token :: rest => token.literalLength + fixedLength rest

/-- The name of a field. -/
def fieldName? : Token → Option Text
  | .literal _ => none
  | .field f => some f.name

/-- Puts a character before a row of tokens: into its first literal, or into a new one. -/
def consChar (c : CodePoint) : List Token → List Token
  | .literal text :: rest => .literal (c :: text) :: rest
  | tokens => .literal [c] :: tokens

end Token

/-- Whether the character may start the name of a field. -/
def Field.isNameStart (c : CodePoint) : Bool := c.isAlpha || c == '_'

/-- Whether the character may follow the first of the name of a field. -/
def Field.isNameChar (c : CodePoint) : Bool := c.isAlphanum || c == '_' || c == '.' || c == '-'

/-- Whether the text can be the name of a field. -/
def Field.isName : List CodePoint → Bool
  | [] => false
  | c :: rest => isNameStart c && rest.all isNameChar

namespace Bounds

/-- Whether every bound is one that the kind allows. -/
def fit (b : Bounds) (kind : Kind) : Bool := b.entries.all fun (limit, _) => kind.allows limit

/-- Whether no lower bound lies above its upper one. -/
def uncrossed (b : Bounds) : Bool := !above b.min b.max && !above b.minLength b.maxLength

/-- Whether every bound has a numeral short enough to be read. -/
def readable (b : Bounds) : Bool :=
  b.entries.all fun (_, value) => (toString value.natAbs).length ≤ Numeral.digitLimit

/-- The written form of one bound. -/
def renderEntry (entry : Limit × Int) : List CodePoint :=
  entry.1.name.toList ++ .char '=' :: Text.toList (Numeral.decimal entry.2)

/-- The written form of bounds: none, or their entries between parentheses. -/
def render (b : Bounds) : List CodePoint :=
  if b.entries.isEmpty then []
  else .char '(' :: [CodePoint.char ','].intercalate (b.entries.map renderEntry) ++ [.char ')']

end Bounds

/-- Whether a field could stand in a template. -/
def Field.wellFormed (f : Field) : Bool :=
  isName f.name.toList && f.bounds.fit f.kind && f.bounds.uncrossed && f.bounds.readable

/-- The written form of a field. -/
def Field.render (f : Field) : List CodePoint :=
  .char '@' :: f.kind.name.toList ++ f.bounds.render ++ .char ':' :: f.name.toList ++ [.char '@']

namespace Token

/-- The written form of a token. -/
def render : Token → List CodePoint
  | .literal text => text.flatMap fun (c : CodePoint) => if c = '@' then ['@', '@'] else [c]
  | .field f => f.render

/-- The written form of a row of tokens. -/
def renderAll (tokens : List Token) : List CodePoint := tokens.flatMap render

/-- The names of the fields, in order. -/
def fieldNames (tokens : List Token) : List Text := tokens.filterMap fieldName?

@[simp] theorem fieldNames_nil : fieldNames [] = [] := rfl

@[simp] theorem fieldNames_literal (text : List CodePoint) (rest : List Token) :
    fieldNames (.literal text :: rest) = fieldNames rest := rfl

@[simp] theorem fieldNames_field (f : Field) (rest : List Token) :
    fieldNames (.field f :: rest) = f.name :: fieldNames rest := rfl

/-- A character of a literal names no field. -/
@[simp] theorem fieldNames_consChar (c : CodePoint) (tokens : List Token) :
    fieldNames (consChar c tokens) = fieldNames tokens := by
  cases tokens with
  | nil => rfl
  | cons token rest => cases token <;> rfl

theorem consChar_ne_nil (c : CodePoint) (tokens : List Token) : consChar c tokens ≠ [] := by
  cases tokens with
  | nil => simp [consChar]
  | cons token rest => cases token <;> simp [consChar]

/-- No literal is empty, and none stands beside another. -/
def literalsApart : List Token → Bool
  | [] => true
  | .field _ :: rest => literalsApart rest
  | .literal text :: rest =>
    !text.isEmpty && (match rest with | .literal _ :: _ => false | _ => true)
      && literalsApart rest

/-- Whether a row of tokens is what some template says. -/
def wellFormed (tokens : List Token) : Bool :=
  !tokens.isEmpty && literalsApart tokens && decide (fieldNames tokens).Nodup
    && tokens.all fun
      | .literal _ => true
      | .field f => f.wellFormed

end Token

end LogTemplate
