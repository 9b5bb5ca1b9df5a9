import LogTemplate.Pattern
import LogTemplate.Record.Refusal

/-!
# Writing a record

The record that describes a pattern.
-/

namespace LogTemplate

namespace Record

/-- An example as a document; without tags it says null. -/
def writeExample (e : Example) : Document :=
  .mapping [
    ("message", .text e.line),
    ("values", Document.ofTexts e.values),
    ("tags", (e.tags.map Document.ofTags).getD .null)]

end Record

/-- The record of a pattern. -/
def Pattern.record (p : Pattern) : Document :=
  .mapping [
    (Record.Member.name.key, .text p.name),
    (Record.Member.uuid.key, .text p.uuid.text),
    (Record.Member.template.key, .text p.template.source),
    (Record.Member.values.key, Document.ofTexts p.defaults),
    (Record.Member.tags.key, Document.ofTags p.tags),
    (Record.Member.examples.key, .list (p.examples.map Record.writeExample))]

end LogTemplate
