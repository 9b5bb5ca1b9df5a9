import LogTemplate.Field
import LogTemplate.Text.Quoted

/-!
# Errors in templates

Why a template is refused, at which place, and how the refusal is worded.
-/

namespace LogTemplate

/-- Why a template is refused. -/
inductive TemplateError.Cause where
  | emptyTemplate
  /-- An `@` opens a field that no second one closes. -/
  | unterminated
  | malformedField (body : Text)
  | unknownKind (kind : Text)
  /-- A bound without a name or without an equals sign. -/
  | malformedBound (item : Text)
  | unsupportedBound (limit : Text) (kind : Kind)
  | repeatedBound (limit : Limit)
  | boundNotInteger (limit : Limit) (value : Text)
  /-- The lower bound lies above the upper one. -/
  | crossedBounds (low high : Limit)
  | repeatedName (name : Text)
  deriving DecidableEq, Repr

/-- Why a template is refused, and where: at the `@` of the field, or at the start. -/
structure TemplateError where
  cause : TemplateError.Cause
  position : Nat
  deriving DecidableEq, Repr

namespace TemplateError

/-- The two categories of errors: a field named twice, and all others. -/
inductive Category where
  | syntactic
  | duplicateField
  deriving DecidableEq, Repr

/-- The word for a category. -/
def Category.word : Category → Text
  | .syntactic => "syntax"
  | .duplicateField => "duplicate_field"

/-- The category of a cause. -/
def Cause.category : Cause → Category
  | .repeatedName _ => .duplicateField
  | _ => .syntactic

/-- The category of an error. -/
def category (e : TemplateError) : Category := e.cause.category

open Text in
/-- The wording of a cause. -/
def Cause.message : Cause → Text
  | .emptyTemplate => "empty pattern"
  | .unterminated => "unterminated field"
  | .malformedField body => "malformed field " ++ quoted body
  | .unknownKind kind => "unknown field kind " ++ quoted kind
  | .malformedBound item => "malformed constraint " ++ quoted item
  | .unsupportedBound limit kind =>
    "constraint " ++ quoted limit ++ " not supported by " ++ kind.name
  | .repeatedBound limit => "constraint " ++ quoted limit.name ++ " given twice"
  | .boundNotInteger limit value =>
    "constraint " ++ quoted limit.name ++ " needs an integer, got " ++ quoted value
  | .crossedBounds low high => low.name ++ " is greater than " ++ high.name
  | .repeatedName name => "field " ++ quoted name ++ " bound twice"

/-- The wording of an error, without its category and place. -/
def message (e : TemplateError) : Text := e.cause.message

/-- The wording of an error, with its category and place. -/
def text (e : TemplateError) : Text :=
  e.category.word ++ ": " ++ e.message ++ s!" at position {e.position}"

end TemplateError

end LogTemplate
