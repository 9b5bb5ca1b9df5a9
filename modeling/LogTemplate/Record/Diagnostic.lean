import LogTemplate.Record.Refusal

/-!
# Diagnostics

What is reported about a record: where it stands, what is wrong, and whether the record was left
out because of it.
-/

namespace LogTemplate

/-- What is wrong with a record. -/
inductive Diagnostic.Cause where
  /-- The record is no mapping. -/
  | notRecord (found : Document)
  | missing (member : Record.Member)
  | refused (refusal : Record.Refusal)
  /-- An earlier pattern, of the given name, has the same UUID. -/
  | taken (holder : Text)
  deriving Repr

/-- A report about a record. -/
structure Diagnostic where
  /-- The place of the record, counted from zero. -/
  index : Nat
  cause : Diagnostic.Cause
  /-- The name in the record, if it is a text. -/
  name : Option Text := none
  /-- The UUID in the record, if it is a text. -/
  uuid : Option Text := none
  /-- Whether the record is left out. -/
  skipped : Bool
  deriving Repr

namespace Diagnostic

/-- The kinds of reports. -/
inductive Kind where
  | missingField
  | typeMismatch
  | duplicateUuid
  deriving DecidableEq, Repr

/-- The word for a kind. -/
def Kind.word : Kind → Text
  | .missingField => "missing_field"
  | .typeMismatch => "type_mismatch"
  | .duplicateUuid => "duplicate_uuid"

namespace Cause

/-- The kind of report on a cause. -/
def kind : Cause → Kind
  | .notRecord _ => .typeMismatch
  | .missing _ => .missingField
  | .refused refusal => if refusal.isOfType then .typeMismatch else .missingField
  | .taken _ => .duplicateUuid

/-- The key of the member at fault, or the word for the whole record. -/
def field : Cause → Text
  | .notRecord _ => "record"
  | .missing member => member.key
  | .refused refusal => refusal.member.key
  | .taken _ => Record.Member.uuid.key

/-- The wording of a cause. -/
def message : Cause → Text
  | .notRecord found => "expected a mapping, got " ++ found.typeName
  | .missing member => "missing field " ++ Text.quoted member.key
  | .refused refusal => refusal.message
  | .taken holder => "uuid already used by pattern " ++ Text.quoted holder

/-- The error in the template, if that is the cause. -/
def templateError? : Cause → Option TemplateError
  | .refused refusal => refusal.templateError?
  | _ => none

end Cause

/-- What the report is about: the record's name, else its UUID, else its place. -/
def subject (d : Diagnostic) : Text :=
  match [d.name, d.uuid].filterMap id |>.find? (!·.isEmpty) with
  | some who => who
  | none => s!"record #{d.index}"

/-- The report as one line. -/
def text (d : Diagnostic) : Text :=
  d.subject ++ ": " ++ d.cause.kind.word ++ "(" ++ d.cause.field ++ "): " ++ d.cause.message

/-- The report as a document. -/
def document (d : Diagnostic) : Document :=
  .mapping [
    ("record_index", .int d.index),
    ("error", .text d.cause.kind.word),
    ("field", .text d.cause.field),
    ("message", .text d.cause.message),
    ("name", Document.ofText? d.name),
    ("uuid", Document.ofText? d.uuid),
    ("compile_error", Document.ofText? (d.cause.templateError?.map (·.category.word))),
    ("skipped", .bool d.skipped)]

end Diagnostic

end LogTemplate
