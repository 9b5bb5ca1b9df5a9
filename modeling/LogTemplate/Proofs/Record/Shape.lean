import LogTemplate.Proofs.Record.Fault

/-!
# The shapes of values, tags and examples

Values are a mapping of texts, tags a list of texts, and examples a list of mappings with a line,
values and tags of their own.  Main statement: these members are read if they have their shape, and
reported and left empty otherwise, except that any mapping is taken for tags as well.
-/

namespace LogTemplate

namespace Document

/-- The document is a text. -/
def IsText (d : Document) : Prop := ∃ s, d = .text s

/-- The document is a mapping. -/
def IsMapping (d : Document) : Prop := ∃ entries, d = .mapping entries

/-- The document is a mapping of texts. -/
def IsTexts (d : Document) : Prop := ∃ entries, d = .mapping entries ∧ ∀ e ∈ entries, e.2.IsText

/-- The document is a list of texts. -/
def IsTextList (d : Document) : Prop := ∃ items, d = .list items ∧ ∀ item ∈ items, item.IsText

/-- The document is a list of texts, or a mapping, whose keys are texts. -/
def IsTaken (d : Document) : Prop := d.IsTextList ∨ d.IsMapping

end Document

namespace Record

/-- The shape of an example, whose tags have a shape of their own unless they are missing: it has a
line, as its message or, without that member, as its text. -/
structure IsExample (tagged : Document → Prop) (d : Document) : Prop where
  mapping : d.IsMapping
  line : ((d.get? "message").getD (d.get "text")).IsText
  values : ∀ v, d.get? "values" = some v → v.IsTexts
  tags : d.get "tags" = .null ∨ tagged (d.get "tags")

/-- The shape of a list of examples. -/
def IsExamples (tagged : Document → Prop) (d : Document) : Prop :=
  ∃ items, d = .list items ∧ ∀ item ∈ items, IsExample tagged item

theorem IsExamples.mono {tagged other : Document → Prop} (weaker : ∀ d, tagged d → other d)
    {d : Document} (examples : IsExamples tagged d) : IsExamples other d := by
  obtain ⟨items, rfl, all⟩ := examples
  refine ⟨items, rfl, fun item member => ?_⟩
  obtain ⟨mapping, line, values, tags⟩ := all item member
  exact ⟨mapping, line, values, tags.imp_right (weaker _)⟩

/-! ## What can be read -/

theorem exists_readTexts_iff {entries : List (Text × Document)} :
    (∃ texts, readTexts entries = .ok texts) ↔ ∀ e ∈ entries, e.2.IsText := by
  induction entries with
  | nil => simp [readTexts]
  | cons e entries ih =>
    obtain ⟨key, value⟩ := e
    rw [List.forall_mem_cons, ← ih]
    cases value with
    | text s =>
      have text : (Document.text s).IsText := ⟨s, rfl⟩
      rw [readTexts, and_iff_right text]
      exact exists_bind_ok_iff
    | _ => simp [readTexts, Document.IsText]

theorem exists_readValues_iff {d : Document} : (∃ m, readValues d = .ok m) ↔ d.IsTexts := by
  cases d with
  | mapping entries =>
    simp only [Document.IsTexts, Document.mapping.injEq, exists_eq_left', ← exists_readTexts_iff,
      readValues]
    cases readTexts entries <;> simp [Except.map]
  | _ => simp [readValues, Document.IsTexts]

theorem exists_readTagItems_iff {items : List Document} :
    (∃ tags, readTagItems items = .ok tags) ↔ ∀ item ∈ items, item.IsText := by
  induction items with
  | nil => simp [readTagItems]
  | cons item items ih =>
    rw [List.forall_mem_cons, ← ih]
    cases item with
    | text s =>
      have text : (Document.text s).IsText := ⟨s, rfl⟩
      rw [readTagItems, and_iff_right text]
      exact exists_bind_ok_iff
    | _ => simp [readTagItems, Document.IsText]

/-- Tags are read from a list of texts, and from every mapping. -/
theorem exists_readTags_iff {d : Document} : (∃ tags, readTags d = .ok tags) ↔ d.IsTaken := by
  cases d with
  | list items =>
    simp only [Document.IsTaken, Document.IsTextList, Document.IsMapping, Document.list.injEq,
      exists_eq_left', reduceCtorEq, exists_false, or_false, ← exists_readTagItems_iff, readTags]
    cases readTagItems items <;> simp [Except.map]
  | mapping entries => simp [readTags, Document.IsTaken, Document.IsMapping]
  | _ => simp [readTags, Document.IsTaken, Document.IsTextList, Document.IsMapping]

theorem exampleLine?_isSome_iff {d : Document} :
    (exampleLine? d).isSome ↔ ((d.get? "message").getD (d.get "text")).IsText := by
  rw [exampleLine?]
  cases (d.get? "message").getD (d.get "text") <;> simp [Document.text?, Document.IsText]

theorem exists_readExample_iff {index : Nat} {d : Document} :
    (∃ e, readExample index d = .ok e) ↔ IsExample Document.IsTaken d := by
  cases d with
  | mapping entries =>
    generalize shape : Document.mapping entries = d
    have mapping : d.IsMapping := ⟨entries, shape.symm⟩
    have values : (∃ m, readValues ((d.get? "values").getD (.mapping [])) = .ok m) ↔
        ∀ v, d.get? "values" = some v → v.IsTexts := by
      rw [exists_readValues_iff]
      cases d.get? "values" with
      | none => simp [Document.IsTexts]
      | some v => simp
    rw [← shape, readExample, shape]
    cases line : exampleLine? d with
    | none =>
      simp only [reduceCtorEq, exists_false, false_iff]
      intro isExample
      have found := exampleLine?_isSome_iff.mpr isExample.line
      rw [line] at found
      cases found
    | some text =>
      have isText := exampleLine?_isSome_iff.mp (Option.isSome_iff_exists.mpr ⟨text, line⟩)
      by_cases absent : d.get "tags" = .null
      · simp only [absent, Document.isNull, if_true, bind_eq_ok_iff, mapError_eq_ok_iff]
        constructor
        · rintro ⟨_, m, read, -⟩
          exact ⟨mapping, isText, values.mp ⟨m, read⟩, .inl absent⟩
        · intro isExample
          obtain ⟨m, read⟩ := values.mpr isExample.values
          exact ⟨_, m, read, none, rfl, rfl⟩
      · simp only [isNull_iff, absent, if_false, bind_eq_ok_iff, mapError_eq_ok_iff]
        constructor
        · rintro ⟨_, m, read, given, tagged, -⟩
          obtain ⟨tags, found, -⟩ := map_eq_ok_iff.mp tagged
          exact ⟨mapping, isText, values.mp ⟨m, read⟩,
            .inr (exists_readTags_iff.mp ⟨tags, found⟩)⟩
        · intro isExample
          obtain ⟨m, read⟩ := values.mpr isExample.values
          obtain ⟨tags, found⟩ := exists_readTags_iff.mpr (isExample.tags.resolve_left absent)
          exact ⟨_, m, read, some tags, by rw [found]; rfl, rfl⟩
  | _ =>
    simp only [readExample, reduceCtorEq, exists_false, false_iff]
    rintro ⟨⟨_, shape⟩, -, -, -⟩
    cases shape

theorem exists_readExamplesFrom_iff {index : Nat} {items : List Document} :
    (∃ es, readExamplesFrom index items = .ok es) ↔
      ∀ item ∈ items, IsExample Document.IsTaken item := by
  induction items generalizing index with
  | nil => simp [readExamplesFrom]
  | cons item items ih =>
    rw [List.forall_mem_cons, ← @ih (index + 1), ← @exists_readExample_iff index]
    simp only [readExamplesFrom, bind_eq_ok_iff]
    constructor
    · rintro ⟨_, e, first, es, rest, -⟩
      exact ⟨⟨e, first⟩, es, rest⟩
    · rintro ⟨⟨e, first⟩, es, rest⟩
      exact ⟨_, e, first, es, rest, rfl⟩

theorem exists_readExamples_iff {d : Document} :
    (∃ es, readExamples d = .ok es) ↔ IsExamples Document.IsTaken d := by
  cases d with
  | list items => simp [readExamples, exists_readExamplesFrom_iff, IsExamples]
  | _ => simp [readExamples, IsExamples]

/-! ## What is reported -/

/-- A value that a record may lack is at fault if it is there and cannot be read. -/
theorem Member.fault?_eq_none_iff {m : Member} {value : Document} (spare : m.isRequired = false) :
    m.fault? value = none ↔ value = .null ∨ m.refusal? value = none := by
  rw [fault?, spare]
  by_cases absent : value = .null
  · simp [absent, Document.isNull]
  · simp [absent, isNull_iff]

theorem fault?_values_iff {d : Document} :
    Member.values.fault? d = none ↔ d = .null ∨ d.IsTexts := by
  rw [Member.fault?_eq_none_iff rfl, Member.refusal?, Option.map_eq_none_iff,
    refusalOf_eq_none_iff, exists_readValues_iff]

theorem fault?_tags_iff {d : Document} :
    Member.tags.fault? d = none ↔ d = .null ∨ d.IsTaken := by
  rw [Member.fault?_eq_none_iff rfl, Member.refusal?, Option.map_eq_none_iff,
    refusalOf_eq_none_iff, exists_readTags_iff]

theorem fault?_examples_iff {d : Document} :
    Member.examples.fault? d = none ↔ d = .null ∨ IsExamples Document.IsTaken d := by
  rw [Member.fault?_eq_none_iff rfl, Member.refusal?, Option.map_eq_none_iff,
    refusalOf_eq_none_iff, exists_readExamples_iff]

/-- What is wrong with a value that a record may lack is its type. -/
theorem Member.kind_of_fault? {m : Member} {value : Document} {cause : Diagnostic.Cause}
    (spare : m.isRequired = false) (fault : m.fault? value = some cause) :
    cause.kind = .typeMismatch := by
  rw [fault?, spare] at fault
  split at fault
  · cases fault
  · obtain ⟨refusal, refused, rfl⟩ := Option.map_eq_some_iff.mp fault
    obtain rfl := member_of_refusal? refused
    have typed : refusal.isOfType = true := by
      cases refusal with
      | values _ | tags _ | examples _ => rfl
      | _ => cases spare
    rw [Diagnostic.Cause.kind, typed]
    rfl

/-- The reports on a member of a record. -/
def reportsOn (index : Nat) (record : Document) (m : Member) : List Diagnostic :=
  (read index record).2.filter (·.cause.field == m.key)

/-- Of the faults of different members no more than one is reported under the key of a member. -/
theorem filter_field_faults (record : Document) (m : Member) {members : List Member}
    (distinct : members.Nodup) :
    (members.filterMap fun m => m.fault? (record.get m.key)).filter (·.field == m.key) =
      if m ∈ members then (m.fault? (record.get m.key)).toList else [] := by
  induction members with
  | nil => rfl
  | cons other members ih =>
    obtain ⟨fresh, rest⟩ := List.nodup_cons.mp distinct
    have later := ih rest
    by_cases same : m = other
    · subst same
      cases fault : m.fault? (record.get m.key) with
      | none => simp [fault, later, fresh]
      | some cause => simp [fault, later, fresh, Member.field_of_fault? fault]
    · have apart : other.key ≠ m.key := fun here => same (Member.key_injective here).symm
      cases fault : other.fault? (record.get other.key) with
      | none => simp [fault, later, same]
      | some cause => simp [fault, later, same, Member.field_of_fault? fault, apart]

/-- Each member is reported for what is wrong with it. -/
theorem map_cause_reportsOn (index : Nat) (entries : List (Text × Document)) (m : Member) :
    (reportsOn index (.mapping entries) m).map Diagnostic.cause =
      (m.fault? ((Document.mapping entries).get m.key)).toList := by
  have own : m ∈ Member.all := by cases m <;> decide
  have causes : (read index (.mapping entries)).2.map Diagnostic.cause =
      (Members.ofRecord (.mapping entries)).causes := List.map_map.trans (List.map_id _)
  have filtered := filter_field_faults (.mapping entries) m (show Member.all.Nodup by decide)
  rw [if_pos own, ← Members.causes_ofRecord, ← causes, List.filter_map] at filtered
  exact filtered

/-- A member is judged by a shape: without it there is one report on the member, that its type is
wrong, and the record is kept without the member; with it there is none. -/
structure IsJudgedBy (index : Nat) (record : Document) (m : Member) (shape : Prop) : Prop where
  silent : reportsOn index record m = [] ↔ shape
  reported : ¬ shape → ∃ p d, (read index record).1 = some p ∧ m.IsEmptyIn p
    ∧ reportsOn index record m = [d] ∧ d.cause.kind = .typeMismatch ∧ d.skipped = false

/-- A record has all that a pattern has to have. -/
def HasRequired (record : Document) : Prop :=
  ∀ m : Member, m.isRequired = true → m.fault? (record.get m.key) = none

theorem HasRequired.isMapping {record : Document} (has : HasRequired record) :
    record.IsMapping := by
  cases record with
  | mapping entries => exact ⟨entries, rfl⟩
  | _ => exact absurd (has .name rfl) nofun

/-- A member that may be missing is judged by exactly those shapes in which it can be read. -/
theorem isJudgedBy_iff {index : Nat} {record : Document} {m : Member} {shape : Prop}
    (has : HasRequired record) (spare : m.isRequired = false) :
    IsJudgedBy index record m shape ↔ (m.fault? (record.get m.key) = none ↔ shape) := by
  obtain ⟨entries, rfl⟩ := has.isMapping
  have causes := map_cause_reportsOn index entries m
  have silent : reportsOn index (.mapping entries) m = [] ↔
      m.fault? ((Document.mapping entries).get m.key) = none := by
    rw [← List.map_eq_nil_iff, causes, Option.toList_eq_nil_iff]
  constructor
  · intro judged
    rw [← silent]
    exact judged.silent
  · intro readable
    refine ⟨silent.trans readable, fun other => ?_⟩
    obtain ⟨cause, fault⟩ := Option.ne_none_iff_exists'.mp (mt readable.mp other)
    obtain ⟨p, described⟩ : ∃ p, (Members.ofRecord (.mapping entries)).pattern? = some p := by
      rw [← Option.ne_none_iff_exists', Ne, Members.pattern?_ofRecord_eq_none_iff]
      rintro ⟨m, isRequired, fault⟩
      exact fault (has m isRequired)
    rw [fault] at causes
    obtain ⟨d, only, rfl⟩ := List.map_eq_singleton_iff.mp causes
    have reported : d ∈ reportsOn index (.mapping entries) m := by simp [only]
    refine ⟨p, d, described, (Members.holds_of_pattern? described m).1 (.inr ?_), only,
      Member.kind_of_fault? spare fault, ?_⟩
    · rw [fault]
      nofun
    · rw [skipped_of_mem_read ((List.mem_filter.mp reported).1)]
      exact congrArg Option.isNone described

/-- Values, tags and examples are judged by the shapes that they are meant to have. -/
def IsReadByShape (index : Nat) (record : Document) : Prop :=
  let value := fun m : Member => record.get m.key
  IsJudgedBy index record .values (value .values = .null ∨ (value .values).IsTexts)
    ∧ IsJudgedBy index record .tags (value .tags = .null ∨ (value .tags).IsTextList)
    ∧ IsJudgedBy index record .examples
      (value .examples = .null ∨ IsExamples Document.IsTextList (value .examples))

/-- A record has a mapping where a list of tags is due: as its tags, or in one of its examples, with
which nothing else is wrong. -/
def HasStrayMapping (record : Document) : Prop :=
  (record.get Member.tags.key).IsMapping
    ∨ IsExamples Document.IsTaken (record.get Member.examples.key)
      ∧ ¬ IsExamples Document.IsTextList (record.get Member.examples.key)

theorem isReadByShape_iff {index : Nat} {record : Document} (has : HasRequired record) :
    IsReadByShape index record ↔ ¬ HasStrayMapping record := by
  have noMapping {d : Document} (list : d.IsTextList) : ¬ d.IsMapping := by
    obtain ⟨_, rfl, -⟩ := list
    rintro ⟨_, shape⟩
    cases shape
  have noNull {d : Document} (taken : d.IsTaken ∨ IsExamples Document.IsTaken d) :
      d ≠ .null := by
    rintro rfl
    rcases taken with (⟨_, shape, -⟩ | ⟨_, shape⟩) | ⟨_, shape, -⟩ <;> cases shape
  rw [IsReadByShape, isJudgedBy_iff has rfl, isJudgedBy_iff has rfl, isJudgedBy_iff has rfl,
    fault?_values_iff, fault?_tags_iff, fault?_examples_iff, HasStrayMapping, not_or]
  constructor
  · rintro ⟨-, tags, examples⟩
    constructor
    · intro mapping
      have taken := tags.mp (.inr (.inr mapping))
      exact noMapping (taken.resolve_left (noNull (.inl (.inr mapping)))) mapping
    · rintro ⟨taken, other⟩
      exact other ((examples.mp (.inr taken)).resolve_left (noNull (.inr taken)))
  · rintro ⟨noTags, noExample⟩
    refine ⟨Iff.rfl, or_congr_right ⟨fun taken => taken.resolve_right noTags, .inl⟩,
      or_congr_right ⟨fun taken => ?_, .mono fun _ => .inl⟩⟩
    by_contra other
    exact noExample ⟨taken, other⟩

/-- A record whose tags are a mapping, and whose only example has one for its tags. -/
def tagged : Document := .mapping [
  (Member.name.key, .text "A"),
  (Member.uuid.key, .text "9a5e4f2c-6d1b-4c8e-9f3a-2b7d1e0c5a41"),
  (Member.template.key, .text "a"),
  (Member.values.key, .list []),
  (Member.tags.key, .mapping [("x", .int 1)]),
  (Member.examples.key, .list [
    .mapping [("text", .text "a"), ("tags", .mapping [])]])]

theorem hasRequired_tagged : HasRequired tagged := by
  intro m isRequired
  cases m with
  | name | uuid | template => decide +kernel
  | values | tags | examples => cases isRequired

end Record

end LogTemplate
