import LogTemplate.Proofs.Record.Report
import LogTemplate.Proofs.Uuid.Canonical

/-!
# What a record has to say

A record without faults is a mapping whose name, UUID and template are readable texts, and whose
values, tags and examples can be read or are not there.  Main statement: these are the records that
describe a pattern and of which nothing is reported.
-/

namespace LogTemplate.Record

/-! ## One member -/

theorem required_eq_ok_iff {α : Type} {member : Member} {reader : Document → Except Refusal α}
    {record : Document} {value : α} :
    required member reader record = .ok value ↔
      record.get member.key ≠ .null ∧ reader (record.get member.key) = .ok value := by
  rw [required]
  by_cases absent : record.get member.key = .null
  · simp [absent, Document.isNull]
  · simp [absent, isNull_iff, mapError_eq_ok_iff]

theorem optional_eq_ok_iff {α : Type} {member : Member} {reader : Document → Except Refusal α}
    {empty value : α} {record : Document} :
    optional member reader empty record = .ok value ↔
      record.get member.key = .null ∧ empty = value
        ∨ record.get member.key ≠ .null ∧ reader (record.get member.key) = .ok value := by
  rw [optional]
  by_cases absent : record.get member.key = .null
  · simp [absent, Document.isNull]
  · simp [absent, isNull_iff, mapError_eq_ok_iff]

theorem readName_eq_ok_iff {d : Document} {name : Text} :
    readName d = .ok name ↔ d = .text name ∧ Text.isAllBlank name.toList = false := by
  cases d with
  | text s =>
    rw [readName]
    cases blank : Text.isAllBlank s.toList with
    | true =>
      simp only [if_true, reduceCtorEq, Document.text.injEq, false_iff, not_and]
      rintro rfl
      simp [blank]
    | false =>
      simp only [Bool.false_eq_true, if_false, Except.ok.injEq, Document.text.injEq]
      constructor
      · rintro rfl
        exact ⟨rfl, blank⟩
      · exact And.left
  | _ => simp [readName]

/-- A UUID is read from its canonical forms, and from no other text. -/
theorem readUuid_eq_ok_iff {d : Document} {u : Uuid} :
    readUuid d = .ok u ↔ ∃ s, d = .text s ∧ u.isWrittenAs s.toList = true := by
  cases d with
  | text s =>
    simp only [Document.text.injEq, exists_eq_left', readUuid]
    constructor
    · intro success
      split at success
      · cases success
      · split at success
        · rename_i written
          rwa [Except.ok.inj success] at written
        · cases success
    · intro written
      simp [Uuid.read_of_isWrittenAs written, written]
  | _ => simp [readUuid]

theorem readTemplate_eq_ok_iff {d : Document} {t : Template} :
    readTemplate d = .ok t ↔ ∃ s, d = .text s ∧ Template.compile s = .ok t := by
  cases d with
  | text s =>
    simp only [Document.text.injEq, exists_eq_left', readTemplate]
    cases Template.compile s <;> simp
  | _ => simp [readTemplate]

/-! ## All members -/

theorem Members.pattern?_eq_some_iff {m : Members} {p : Pattern} :
    m.pattern? = some p ↔
      m.name = .ok p.name ∧ m.uuid = .ok p.uuid ∧ m.template = .ok p.template
        ∧ orEmpty {} m.values = p.defaults ∧ orEmpty {} m.tags = p.tags
        ∧ orEmpty [] m.examples = p.examples := by
  obtain ⟨name, uuid, template, values, tags, examples⟩ := m
  obtain ⟨_, _, _, _, _, _⟩ := p
  cases name <;> cases uuid <;> cases template <;> simp [pattern?]

theorem Members.causes_eq_nil_iff {m : Members} :
    m.causes = [] ↔
      (∃ name, m.name = .ok name) ∧ (∃ uuid, m.uuid = .ok uuid)
        ∧ (∃ template, m.template = .ok template) ∧ (∃ values, m.values = .ok values)
        ∧ (∃ tags, m.tags = .ok tags) ∧ ∃ examples, m.examples = .ok examples := by
  simp only [causes, List.filterMap_eq_nil_iff, id_eq, List.forall_mem_cons, cause?_eq_none_iff,
    List.not_mem_nil, false_implies, implies_true, and_true]

/-- A pattern whose record is read without a cause to report it has the members that were read. -/
theorem Members.pattern?_and_causes_iff {m : Members} {p : Pattern} :
    m.pattern? = some p ∧ m.causes = [] ↔
      m.name = .ok p.name ∧ m.uuid = .ok p.uuid ∧ m.template = .ok p.template
        ∧ m.values = .ok p.defaults ∧ m.tags = .ok p.tags ∧ m.examples = .ok p.examples := by
  rw [pattern?_eq_some_iff, causes_eq_nil_iff]
  constructor
  · rintro ⟨⟨name, uuid, template, defaults, tags, examples⟩, -, -, -, ⟨_, values⟩, ⟨_, read⟩,
      ⟨_, all⟩⟩
    rw [values] at defaults
    rw [read] at tags
    rw [all] at examples
    exact ⟨name, uuid, template, defaults ▸ values, tags ▸ read, examples ▸ all⟩
  · rintro ⟨name, uuid, template, values, tags, examples⟩
    refine ⟨⟨name, uuid, template, ?_, ?_, ?_⟩, ⟨_, name⟩, ⟨_, uuid⟩, ⟨_, template⟩, ⟨_, values⟩,
      ⟨_, tags⟩, ⟨_, examples⟩⟩
    · rw [values, orEmpty]
    · rw [tags, orEmpty]
    · rw [examples, orEmpty]

/-- A record without a fault, and the pattern that it describes. -/
structure IsFaultless (record : Document) (p : Pattern) : Prop where
  mapping : ∃ entries, record = .mapping entries
  name : record.get Member.name.key = .text p.name ∧ Text.isAllBlank p.name.toList = false
  uuid : ∃ s, record.get Member.uuid.key = .text s ∧ p.uuid.isWrittenAs s.toList = true
  template : ∃ s, record.get Member.template.key = .text s ∧ Template.compile s = .ok p.template
  values : record.get Member.values.key = .null ∧ p.defaults = {}
    ∨ readValues (record.get Member.values.key) = .ok p.defaults
  tags : record.get Member.tags.key = .null ∧ p.tags = {}
    ∨ readTags (record.get Member.tags.key) = .ok p.tags
  examples : record.get Member.examples.key = .null ∧ p.examples = []
    ∨ readExamples (record.get Member.examples.key) = .ok p.examples

/-- An optional member is there and read, or not there and empty. -/
theorem optional_mapError_eq_ok_iff {ε α : Type} (member : Member) (reader : Document → Except ε α)
    (reword : ε → Refusal) (empty value : α) (record : Document)
    (present : reader .null ≠ .ok value) :
    optional member (fun d => (reader d).mapError reword) empty record = .ok value ↔
      record.get member.key = .null ∧ value = empty
        ∨ reader (record.get member.key) = .ok value := by
  rw [optional_eq_ok_iff, mapError_eq_ok_iff, eq_comm (a := empty)]
  constructor
  · rintro (absent | ⟨-, read⟩)
    · exact .inl absent
    · exact .inr read
  · rintro (absent | read)
    · exact .inl absent
    · refine .inr ⟨?_, read⟩
      intro absent
      exact present (absent ▸ read)

/-- Nothing is reported of a record that describes a pattern exactly if it is without a fault. -/
theorem isFaultless_iff {record : Document} {p : Pattern} (index : Nat) :
    IsFaultless record p ↔ pattern? record = some p ∧ (read index record).2 = [] := by
  cases record with
  | mapping entries =>
    have described :
        pattern? (.mapping entries) = (Members.ofRecord (.mapping entries)).pattern? := rfl
    have reported : (read index (.mapping entries)).2 = [] ↔
        (Members.ofRecord (.mapping entries)).causes = [] := List.map_eq_nil_iff
    have values := optional_mapError_eq_ok_iff .values readValues .values {} p.defaults
      (.mapping entries) nofun
    have tags := optional_mapError_eq_ok_iff .tags readTags .tags {} p.tags
      (.mapping entries) nofun
    have examples := optional_mapError_eq_ok_iff .examples readExamples .examples [] p.examples
      (.mapping entries) nofun
    rw [described, reported, Members.pattern?_and_causes_iff]
    simp only [Members.ofRecord, required_eq_ok_iff, readName_eq_ok_iff, readUuid_eq_ok_iff,
      readTemplate_eq_ok_iff, values, tags, examples]
    constructor
    · intro faultless
      obtain ⟨s, uuid, written⟩ := faultless.uuid
      obtain ⟨t, template, compiled⟩ := faultless.template
      refine ⟨⟨?_, faultless.name⟩, ⟨?_, s, uuid, written⟩, ⟨?_, t, template, compiled⟩,
        faultless.values, faultless.tags, faultless.examples⟩
      · simp [faultless.name.1]
      · simp [uuid]
      · simp [template]
    · rintro ⟨⟨-, name⟩, ⟨-, uuid⟩, ⟨-, template⟩, values, tags, examples⟩
      exact ⟨⟨entries, rfl⟩, name, uuid, template, values, tags, examples⟩
  | _ =>
    constructor
    · intro faultless
      obtain ⟨_, shape⟩ := faultless.mapping
      cases shape
    · rintro ⟨described, -⟩
      cases described

/-- A record that describes a pattern holds a canonical form of its UUID. -/
theorem exists_text_of_pattern? {record : Document} {p : Pattern}
    (described : pattern? record = some p) :
    ∃ s, record.get Member.uuid.key = .text s ∧ p.uuid.isWrittenAs s.toList = true := by
  cases record with
  | mapping entries =>
    obtain ⟨-, uuid, -⟩ := Members.pattern?_eq_some_iff.mp described
    exact readUuid_eq_ok_iff.mp (required_eq_ok_iff.mp uuid).2
  | _ => cases described

end LogTemplate.Record
