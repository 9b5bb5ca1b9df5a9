import LogTemplate.Pattern
import LogTemplate.Record.Diagnostic

/-!
# Reading a record

Each member is read on its own.  A record whose name, UUID or template cannot be read is no
pattern; values, tags and examples that cannot be read are reported and stay empty.
-/

namespace LogTemplate.Record

/-- Reads a name: a text that is not blank. -/
def readName : Document → Except Refusal Text
  | .text s => if Text.isAllBlank s.toList then .error .nameBlank else .ok s
  | found => .error (.nameNotText found)

/-- Reads a UUID in its canonical form. -/
def readUuid : Document → Except Refusal Uuid
  | .text s =>
    match Uuid.read s.toList with
    | .error e => .error (.uuidUnreadable s e)
    | .ok u => if u.isWrittenAs s.toList then .ok u else .error (.uuidNotCanonical s)
  | found => .error (.uuidNotText found)

/-- Reads a template. -/
def readTemplate : Document → Except Refusal Template
  | .text s =>
    match Template.compile s with
    | .error e => .error (.templateUnreadable s e)
    | .ok t => .ok t
  | found => .error (.templateNotText found)

/-- Reads the entries of a mapping as texts, and refuses the first that is none. -/
def readTexts : List (Text × Document) → Except ValuesRefusal (List (Text × Text))
  | [] => .ok []
  | (key, .text value) :: rest => do return (key, value) :: (← readTexts rest)
  | (key, found) :: _ => .error (.notText key found)

/-- Reads a mapping of texts. -/
def readValues : Document → Except ValuesRefusal (OrderedMap Text)
  | .mapping entries => (readTexts entries).map OrderedMap.ofList
  | found => .error (.notMapping found)

/-- Reads the items of a list as tags, and refuses the first that is no text. -/
def readTagItems : List Document → Except TagsRefusal (List Text)
  | [] => .ok []
  | .text tag :: rest => do return tag :: (← readTagItems rest)
  | found :: _ => .error (.notText found)

/-- Reads a list of tags.  The keys of a mapping count as one. -/
def readTags : Document → Except TagsRefusal TagSet
  | .list items => (readTagItems items).map TagSet.ofList
  | .mapping entries => .ok (TagSet.ofList (entries.map Prod.fst))
  | found => .error (.notList found)

/-- The line of an example: its message or, without that member, its text. -/
def exampleLine? (d : Document) : Option Text :=
  ((d.get? "message").getD (d.get "text")).text?

/-- Reads an example that stands at a place of its list. -/
def readExample (index : Nat) (d : Document) : Except ExamplesRefusal Example :=
  match d with
  | .mapping _ =>
    match exampleLine? d with
    | none => .error (.withoutLine index)
    | some line => do
      let values ← (readValues ((d.get? "values").getD (.mapping []))).mapError (.values index)
      let tags ← if (d.get "tags").isNull then .ok none
        else ((readTags (d.get "tags")).map some).mapError (.tags index)
      return ⟨line, values, tags⟩
  | _ => .error (.notMapping index)

/-- Reads examples, the first of which stands at a place of its list. -/
def readExamplesFrom : Nat → List Document → Except ExamplesRefusal (List Example)
  | _, [] => .ok []
  | index, d :: rest => do
    return (← readExample index d) :: (← readExamplesFrom (index + 1) rest)

/-- Reads a list of examples. -/
def readExamples : Document → Except ExamplesRefusal (List Example)
  | .list items => readExamplesFrom 0 items
  | found => .error (.notList found)

/-- Reads a member that a pattern has to have. -/
def required {α : Type} (member : Member) (read : Document → Except Refusal α)
    (record : Document) : Except Diagnostic.Cause α :=
  let found := record.get member.key
  if found.isNull then .error (.missing member) else (read found).mapError .refused

/-- Reads a member that may be absent or null, and then is empty. -/
def optional {α : Type} (member : Member) (read : Document → Except Refusal α) (empty : α)
    (record : Document) : Except Diagnostic.Cause α :=
  let found := record.get member.key
  if found.isNull then .ok empty else (read found).mapError .refused

/-- The members of a record, each read or refused. -/
structure Members where
  name : Except Diagnostic.Cause Text
  uuid : Except Diagnostic.Cause Uuid
  template : Except Diagnostic.Cause Template
  values : Except Diagnostic.Cause (OrderedMap Text)
  tags : Except Diagnostic.Cause TagSet
  examples : Except Diagnostic.Cause (List Example)

/-- The value that was read, or the empty one. -/
def orEmpty {α : Type} (empty : α) : Except Diagnostic.Cause α → α
  | .ok value => value
  | .error _ => empty

/-- The cause of a refusal. -/
def cause? {α : Type} : Except Diagnostic.Cause α → Option Diagnostic.Cause
  | .ok _ => none
  | .error cause => some cause

namespace Members

/-- Reads every member of a record. -/
def ofRecord (record : Document) : Members where
  name := required .name readName record
  uuid := required .uuid readUuid record
  template := required .template readTemplate record
  values := optional .values (fun d => (readValues d).mapError .values) {} record
  tags := optional .tags (fun d => (readTags d).mapError .tags) {} record
  examples := optional .examples (fun d => (readExamples d).mapError .examples) [] record

/-- The causes of all refusals, in the order of the members. -/
def causes (m : Members) : List Diagnostic.Cause :=
  [cause? m.name, cause? m.uuid, cause? m.template, cause? m.values, cause? m.tags,
    cause? m.examples].filterMap id

/-- The pattern, if every member that it has to have was read. -/
def pattern? (m : Members) : Option Pattern :=
  match m.name, m.uuid, m.template with
  | .ok name, .ok uuid, .ok template =>
    some ⟨name, uuid, template, orEmpty {} m.values, orEmpty {} m.tags, orEmpty [] m.examples⟩
  | _, _, _ => none

end Members

/-- The pattern that the record at a place describes, and all that is wrong with the record.  The
reports on a record that is no pattern all say that it is left out. -/
def read (index : Nat) (record : Document) : Option Pattern × List Diagnostic :=
  match record with
  | .mapping _ =>
    let members := Members.ofRecord record
    let pattern := members.pattern?
    let report := fun cause => {
      index, cause, skipped := pattern.isNone
      name := (record.get Member.name.key).text?
      uuid := (record.get Member.uuid.key).text? : Diagnostic }
    (pattern, members.causes.map report)
  | _ => (none, [{ index, cause := .notRecord record, skipped := true }])

end LogTemplate.Record
