import LogTemplate.Template.Error
import LogTemplate.Document
import LogTemplate.Uuid

/-!
# Refused members

A record is a mapping whose members describe a pattern.  This module holds the members, and why the
value of one is refused.
-/

namespace LogTemplate.Record

/-- The members of a record, in the order in which they are checked. -/
inductive Member where
  | name
  | uuid
  | template
  | values
  | tags
  | examples
  deriving DecidableEq, Repr

namespace Member

/-- The key of a member. -/
def key : Member → Text
  | .name => "name"
  | .uuid => "uuid"
  | .template => "pattern"
  | .values => "values"
  | .tags => "tags"
  | .examples => "test_messages"

/-- All members, in order. -/
def all : List Member := [.name, .uuid, .template, .values, .tags, .examples]

/-- Whether a record without the member is no pattern. -/
def isRequired : Member → Bool
  | .name | .uuid | .template => true
  | .values | .tags | .examples => false

end Member

/-- Why a document is no mapping of texts. -/
inductive ValuesRefusal where
  | notMapping (found : Document)
  | notText (key : Text) (found : Document)
  deriving Repr

/-- Why a document is no list of tags. -/
inductive TagsRefusal where
  | notList (found : Document)
  | notText (found : Document)
  deriving Repr

/-- Why a document is no list of examples; examples are counted from zero. -/
inductive ExamplesRefusal where
  | notList (found : Document)
  | notMapping (index : Nat)
  | withoutLine (index : Nat)
  | values (index : Nat) (refusal : ValuesRefusal)
  | tags (index : Nat) (refusal : TagsRefusal)
  deriving Repr

/-- Why the value of a member is refused. -/
inductive Refusal where
  | nameNotText (found : Document)
  | nameBlank
  | uuidNotText (found : Document)
  | uuidUnreadable (text : Text) (error : Uuid.Error)
  | uuidNotCanonical (text : Text)
  | templateNotText (found : Document)
  | templateUnreadable (text : Text) (error : TemplateError)
  | values (refusal : ValuesRefusal)
  | tags (refusal : TagsRefusal)
  | examples (refusal : ExamplesRefusal)
  deriving Repr

/-- The wording of a refusal. -/
def ValuesRefusal.message : ValuesRefusal → Text
  | .notMapping found => "expected a mapping, got " ++ found.typeName
  | .notText key found =>
    "entry " ++ Text.quoted key ++ ": " ++ found.shown ++ " is not string to string"

/-- The wording of a refusal. -/
def TagsRefusal.message : TagsRefusal → Text
  | .notList found => "expected a list of strings, got " ++ found.typeName
  | .notText found => "tag " ++ found.shown ++ " is not a string"

/-- The wording of a refusal. -/
def ExamplesRefusal.message : ExamplesRefusal → Text
  | .notList found => "expected a list, got " ++ found.typeName
  | .notMapping index => s!"test message #{index} is not a mapping"
  | .withoutLine index => s!"test message #{index} has no message text"
  | .values index refusal => s!"test message #{index}: " ++ refusal.message
  | .tags index refusal => s!"test message #{index}: " ++ refusal.message

namespace Refusal

/-- The member whose value is refused. -/
def member : Refusal → Member
  | .nameNotText _ | .nameBlank => .name
  | .uuidNotText _ | .uuidUnreadable .. | .uuidNotCanonical _ => .uuid
  | .templateNotText _ | .templateUnreadable .. => .template
  | .values _ => .values
  | .tags _ => .tags
  | .examples _ => .examples

/-- Whether the refusal is reported as one of the value's type.  A blank name and every bad UUID
and template are reported as missing instead. -/
def isOfType : Refusal → Bool
  | .nameNotText _ | .values _ | .tags _ | .examples _ => true
  | .nameBlank | .uuidNotText _ | .uuidUnreadable .. | .uuidNotCanonical _
  | .templateNotText _ | .templateUnreadable .. => false

/-- The error in the template, if that is why it is refused. -/
def templateError? : Refusal → Option TemplateError
  | .templateUnreadable _ error => some error
  | _ => none

open Text in
/-- The wording of a refusal. -/
def message : Refusal → Text
  | .nameNotText found => "expected a string, got " ++ found.typeName
  | .nameBlank => "name is empty"
  | .uuidNotText found => "invalid uuid " ++ found.shown ++ ": not a string"
  | .uuidUnreadable text error => "invalid uuid " ++ quoted text ++ ": " ++ error.message
  | .uuidNotCanonical text => "invalid uuid " ++ quoted text ++ ": not in canonical form"
  | .templateNotText found => "invalid pattern " ++ found.shown ++ ": not a string"
  | .templateUnreadable text error => "invalid pattern " ++ quoted text ++ ": " ++ error.text
  | .values refusal => refusal.message
  | .tags refusal => refusal.message
  | .examples refusal => refusal.message

end Refusal

end LogTemplate.Record
