import LogTemplate.Document
import LogTemplate.TagSet
import LogTemplate.Template
import LogTemplate.Uuid

/-!
# Patterns

A pattern is a template with a name and a UUID, the values and tags that it adds to what it
extracts, and worked examples of lines.
-/

namespace LogTemplate

/-- A worked example: a line, the values that the template should extract from it, and the tags
that the pattern should have, if the example says so. -/
structure Example where
  line : Text
  values : OrderedMap Text
  tags : Option TagSet
  deriving DecidableEq

/-- A template and what belongs to it. -/
structure Pattern where
  name : Text
  uuid : Uuid
  template : Template
  defaults : OrderedMap Text
  tags : TagSet
  examples : List Example
  deriving DecidableEq

namespace Pattern

/-- The values that the template extracts from a whole line. -/
def extract (p : Pattern) (line : List CodePoint) : Option (List (Text × Text)) :=
  p.template.run line

end Pattern

end LogTemplate
