import LogTemplate.Library
import LogTemplate.Record.Diagnostic

/-!
# Validating a library

Every example is run against its own pattern.  The values that the template extracts have to be
those that the example expects, defaults aside, and the pattern has to have the tags that the
example expects.  A library is valid if its records had no fault and all examples pass.
-/

namespace LogTemplate.Validation

/-- How an example went. -/
inductive Verdict where
  | pass
  | fail
  /-- The template does not match the line. -/
  | noMatch
  deriving DecidableEq, Repr

/-- The word for a verdict. -/
def Verdict.word : Verdict → Text
  | .pass => "pass"
  | .fail => "fail"
  | .noMatch => "no_match"

/-- How an example of a pattern went, and what was expected and found. -/
structure Outcome where
  uuid : Uuid
  /-- The place of the example in the pattern, counted from zero. -/
  index : Nat
  verdict : Verdict
  expected : OrderedMap Text
  actual : Option (OrderedMap Text)
  missingTags : TagSet
  deriving DecidableEq

/-- Runs an example of a pattern. -/
def runExample (p : Pattern) (index : Nat) (e : Example) : Outcome :=
  match p.extract e.line.toList with
  | none => ⟨p.uuid, index, .noMatch, e.values, none, {}⟩
  | some extracted =>
    let actual := OrderedMap.ofList extracted
    let missing := (e.tags.getD {}).without p.tags
    let passes := actual.agrees e.values && missing.tags.isEmpty
    ⟨p.uuid, index, if passes then .pass else .fail, e.values, some actual, missing⟩

/-- Runs the examples of a pattern. -/
def ofPattern (p : Pattern) : List Outcome :=
  p.examples.zipIdx.map fun (e, index) => runExample p index e

/-- Runs all examples of a library. -/
def outcomes (library : Library) : List Outcome := library.patterns.flatMap ofPattern

/-- What was wrong with the records of a library, and how its examples went. -/
structure Report where
  diagnostics : List Diagnostic
  outcomes : List Outcome

/-- Validates a library whose records were loaded with the given reports. -/
def report (library : Library) (diagnostics : List Diagnostic) : Report :=
  ⟨diagnostics, outcomes library⟩

namespace Report

/-- The outcomes of the examples that do not pass. -/
def failures (r : Report) : List Outcome := r.outcomes.filter (·.verdict != .pass)

/-- Whether no record has a fault and all examples pass. -/
def isValid (r : Report) : Bool := r.diagnostics.isEmpty && r.failures.isEmpty

end Report

/-- An outcome as a document. -/
def Outcome.document (o : Outcome) : Document :=
  .mapping [
    ("pattern_uuid", .text o.uuid.text),
    ("test_index", .int o.index),
    ("outcome", .text o.verdict.word),
    ("expected", Document.ofTexts o.expected),
    ("actual", (o.actual.map Document.ofTexts).getD .null),
    ("missing_tags", Document.ofTags o.missingTags)]

end LogTemplate.Validation
