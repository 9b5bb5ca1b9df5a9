import LogTemplate.Proofs.Refusing
import LogTemplate.Record.Read

/-!
# What is read of one record

The place of a record shows only in the reports on it.  Main statements: the pattern that a record
describes does not depend on the place, each report says whether there is one, and a record that
describes none is reported.
-/

namespace LogTemplate

namespace Diagnostic

/-- The same report on a record one place further on. -/
def later (d : Diagnostic) : Diagnostic := { d with index := d.index + 1 }

/-- Only that a UUID is taken is reported as a duplicate. -/
theorem Cause.kind_eq_duplicateUuid_iff {cause : Cause} :
    cause.kind = .duplicateUuid ↔ ∃ holder, cause = .taken holder := by
  cases cause with
  | refused refusal =>
    simp only [kind]
    split <;> simp
  | _ => simp [kind]

end Diagnostic

namespace Record

/-- The pattern that a record describes, wherever it stands. -/
def pattern? (record : Document) : Option Pattern := (read 0 record).1

theorem fst_read (index : Nat) (record : Document) : (read index record).1 = pattern? record := by
  cases record <;> rfl

/-- On a record one place further on the same is reported. -/
theorem snd_read_succ (index : Nat) (record : Document) :
    (read (index + 1) record).2 = (read index record).2.map Diagnostic.later := by
  cases record with
  | mapping entries => simp [read, Diagnostic.later, Function.comp_def]
  | _ => rfl

theorem index_of_mem_read {index : Nat} {record : Document} {d : Diagnostic}
    (reported : d ∈ (read index record).2) : d.index = index := by
  cases record with
  | mapping entries =>
    obtain ⟨cause, -, rfl⟩ := List.mem_map.mp reported
    rfl
  | _ =>
    cases List.mem_singleton.mp reported
    rfl

/-- The reports on a record say that it is left out exactly if it describes no pattern. -/
theorem skipped_of_mem_read {index : Nat} {record : Document} {d : Diagnostic}
    (reported : d ∈ (read index record).2) : d.skipped = (pattern? record).isNone := by
  cases record with
  | mapping entries =>
    obtain ⟨cause, -, rfl⟩ := List.mem_map.mp reported
    rfl
  | _ =>
    cases List.mem_singleton.mp reported
    rfl

/-! ## Members that are refused -/

theorem isNull_iff {d : Document} : d.isNull = true ↔ d = .null := by
  cases d <;> simp [Document.isNull]

/-- A member that a pattern has to have is refused if it is missing or cannot be read. -/
theorem required_eq_error_iff {α : Type} {member : Member} {reader : Document → Except Refusal α}
    {record : Document} {cause : Diagnostic.Cause} :
    required member reader record = .error cause ↔
      record.get member.key = .null ∧ Diagnostic.Cause.missing member = cause
        ∨ record.get member.key ≠ .null
          ∧ ∃ refusal, reader (record.get member.key) = .error refusal
            ∧ .refused refusal = cause := by
  rw [required]
  by_cases absent : record.get member.key = .null
  · simp [absent, Document.isNull]
  · simp [absent, isNull_iff, mapError_eq_error_iff]

/-- A member that may be missing is refused if it is there and cannot be read. -/
theorem optional_eq_error_iff {α : Type} {member : Member} {reader : Document → Except Refusal α}
    {empty : α} {record : Document} {cause : Diagnostic.Cause} :
    optional member reader empty record = .error cause ↔
      record.get member.key ≠ .null
        ∧ ∃ refusal, reader (record.get member.key) = .error refusal
          ∧ .refused refusal = cause := by
  rw [optional]
  by_cases absent : record.get member.key = .null
  · simp [absent, Document.isNull]
  · simp [absent, isNull_iff, mapError_eq_error_iff]

theorem cause?_eq_some_iff {α : Type} {found : Except Diagnostic.Cause α}
    {cause : Diagnostic.Cause} : cause? found = some cause ↔ found = .error cause := by
  cases found <;> simp [cause?]

theorem cause?_eq_none_iff {α : Type} {found : Except Diagnostic.Cause α} :
    cause? found = none ↔ ∃ value, found = .ok value := by
  cases found <;> simp [cause?]

theorem Members.mem_causes {m : Members} {cause : Diagnostic.Cause} :
    cause ∈ m.causes ↔ m.name = .error cause ∨ m.uuid = .error cause ∨ m.template = .error cause
      ∨ m.values = .error cause ∨ m.tags = .error cause ∨ m.examples = .error cause := by
  simp only [causes, List.mem_filterMap, id_eq, exists_eq_right, List.mem_cons, List.not_mem_nil,
    or_false, eq_comm (a := some cause), cause?_eq_some_iff]

theorem Members.pattern?_eq_none_iff {m : Members} :
    m.pattern? = none ↔
      ∃ cause, m.name = .error cause ∨ m.uuid = .error cause ∨ m.template = .error cause := by
  obtain ⟨name, uuid, template, _, _, _⟩ := m
  cases name <;> cases uuid <;> cases template <;> simp [pattern?]

/-- A record that describes no pattern is reported. -/
theorem exists_mem_read {record : Document} (index : Nat) (none : pattern? record = none) :
    ∃ d, d ∈ (read index record).2 := by
  cases record with
  | mapping entries =>
    obtain ⟨cause, refused⟩ := Members.pattern?_eq_none_iff.mp none
    have member : cause ∈ (Members.ofRecord (.mapping entries)).causes := by
      rw [Members.mem_causes]
      rcases refused with name | uuid | template
      · exact .inl name
      · exact .inr (.inl uuid)
      · exact .inr (.inr (.inl template))
    exact ⟨_, List.mem_map_of_mem member⟩
  | _ => exact ⟨_, List.mem_singleton.mpr rfl⟩

/-- What is wrong with a record in itself is not that its UUID is taken. -/
theorem kind_of_mem_read {index : Nat} {record : Document} {d : Diagnostic}
    (reported : d ∈ (read index record).2) : d.cause.kind ≠ .duplicateUuid := by
  rw [Ne, Diagnostic.Cause.kind_eq_duplicateUuid_iff]
  rintro ⟨holder, taken⟩
  cases record with
  | mapping entries =>
    obtain ⟨cause, member, rfl⟩ := List.mem_map.mp reported
    obtain rfl : cause = .taken holder := taken
    simp [Members.mem_causes, Members.ofRecord, required_eq_error_iff, optional_eq_error_iff]
      at member
  | _ =>
    cases List.mem_singleton.mp reported
    cases taken

end Record

end LogTemplate
