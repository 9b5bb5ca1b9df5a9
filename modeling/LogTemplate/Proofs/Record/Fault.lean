import LogTemplate.Proofs.Record.Member

/-!
# What is wrong with a record

Whether a member is at fault can be told from the value of that member alone.  Main statement: a
record is reported for the members at fault, in the order of the members and once for each, and its
pattern holds what was read of all others.
-/

namespace LogTemplate.Record

/-- The reason of a refusal. -/
def refusalOf {ε α : Type} : Except ε α → Option ε
  | .ok _ => none
  | .error e => some e

namespace Member

/-- Why the value of a member is refused, if it is. -/
def refusal? (m : Member) (value : Document) : Option Refusal :=
  match m with
  | .name => refusalOf (readName value)
  | .uuid => refusalOf (readUuid value)
  | .template => refusalOf (readTemplate value)
  | .values => (refusalOf (readValues value)).map .values
  | .tags => (refusalOf (readTags value)).map .tags
  | .examples => (refusalOf (readExamples value)).map .examples

/-- What is wrong with a member that has a value, if something is: it is not there and has to be, or
it is there and refused. -/
def fault? (m : Member) (value : Document) : Option Diagnostic.Cause :=
  if value.isNull then if m.isRequired then some (.missing m) else none
  else (m.refusal? value).map .refused

/-- A pattern has nothing for a member. -/
def IsEmptyIn (p : Pattern) : Member → Prop
  | .name | .uuid | .template => False
  | .values => p.defaults = {}
  | .tags => p.tags = {}
  | .examples => p.examples = []

/-- A pattern has what is read of the value of a member. -/
def IsReadInto (p : Pattern) (value : Document) : Member → Prop
  | .name => readName value = .ok p.name
  | .uuid => readUuid value = .ok p.uuid
  | .template => readTemplate value = .ok p.template
  | .values => readValues value = .ok p.defaults
  | .tags => readTags value = .ok p.tags
  | .examples => readExamples value = .ok p.examples

end Member

/-! ## The verdict on a member -/

theorem Member.key_injective : Function.Injective key := by
  intro m n
  cases m <;> cases n <;> decide

theorem refusalOf_eq_some_iff {ε α : Type} {found : Except ε α} {e : ε} :
    refusalOf found = some e ↔ found = .error e := by
  cases found <;> simp [refusalOf]

theorem refusalOf_eq_none_iff {ε α : Type} {found : Except ε α} :
    refusalOf found = none ↔ ∃ a, found = .ok a := by
  cases found <;> simp [refusalOf]

theorem refusalOf_mapError {ε ε' α : Type} (reword : ε → ε') (found : Except ε α) :
    refusalOf (found.mapError reword) = (refusalOf found).map reword := by
  cases found <;> rfl

theorem cause?_required {α : Type} (member : Member) (reader : Document → Except Refusal α)
    (record : Document) :
    cause? (required member reader record) =
      if (record.get member.key).isNull then some (.missing member)
      else (refusalOf (reader (record.get member.key))).map .refused := by
  rw [required]
  split
  · rfl
  · cases reader (record.get member.key) <;> rfl

theorem cause?_optional {α : Type} (member : Member) (reader : Document → Except Refusal α)
    (empty : α) (record : Document) :
    cause? (optional member reader empty record) =
      if (record.get member.key).isNull then none
      else (refusalOf (reader (record.get member.key))).map .refused := by
  rw [optional]
  split
  · rfl
  · cases reader (record.get member.key) <;> rfl

/-- A refusal names the member whose value is refused. -/
theorem Member.member_of_refusal? {m : Member} {value : Document} {refusal : Refusal}
    (refused : m.refusal? value = some refusal) : refusal.member = m := by
  cases m with
  | name =>
    rw [refusal?, refusalOf_eq_some_iff] at refused
    cases value with
    | text s =>
      rw [readName] at refused
      split at refused
      · cases refused
        rfl
      · cases refused
    | _ => cases refused; rfl
  | uuid =>
    rw [refusal?, refusalOf_eq_some_iff] at refused
    cases value with
    | text s =>
      simp only [readUuid] at refused
      split at refused
      · cases refused
        rfl
      · split at refused
        · cases refused
        · cases refused
          rfl
    | _ => cases refused; rfl
  | template =>
    rw [refusal?, refusalOf_eq_some_iff] at refused
    cases value with
    | text s =>
      simp only [readTemplate] at refused
      split at refused
      · cases refused
        rfl
      · cases refused
    | _ => cases refused; rfl
  | values | tags | examples =>
    obtain ⟨_, -, rfl⟩ := Option.map_eq_some_iff.mp refused
    rfl

/-- What is wrong with a member is reported under the key of the member. -/
theorem Member.field_of_fault? {m : Member} {value : Document} {cause : Diagnostic.Cause}
    (fault : m.fault? value = some cause) : cause.field = m.key := by
  rw [fault?] at fault
  split at fault
  · split at fault
    · cases fault
      rfl
    · cases fault
  · obtain ⟨refusal, refused, rfl⟩ := Option.map_eq_some_iff.mp fault
    exact congrArg Member.key (member_of_refusal? refused)

/-- Only the template has errors of its own: those of a text that cannot be compiled. -/
theorem Member.templateError?_of_fault? {m : Member} {value : Document} {cause : Diagnostic.Cause}
    (fault : m.fault? value = some cause) (e : TemplateError) :
    cause.templateError? = some e ↔
      m = .template ∧ ∃ s, value = .text s ∧ Template.compile s = .error e := by
  rw [fault?] at fault
  split at fault
  · rename_i absent
    obtain rfl := isNull_iff.mp absent
    split at fault
    · cases fault
      simp [Diagnostic.Cause.templateError?]
    · cases fault
  · obtain ⟨refusal, refused, rfl⟩ := Option.map_eq_some_iff.mp fault
    constructor
    · intro found
      cases refusal with
      | templateUnreadable s own =>
        obtain rfl := Option.some.inj found
        obtain rfl : Member.template = m := member_of_refusal? refused
        refine ⟨rfl, ?_⟩
        rw [refusal?, refusalOf_eq_some_iff] at refused
        cases value with
        | text s =>
          simp only [readTemplate] at refused
          split at refused
          · rename_i compiled
            cases refused
            exact ⟨s, rfl, compiled⟩
          · cases refused
        | _ => cases refused
      | _ => cases found
    · rintro ⟨rfl, s, rfl, compiled⟩
      simp only [refusal?, readTemplate, compiled, refusalOf, Option.some.injEq] at refused
      subst refused
      rfl

/-- What is wrong with a member comes with the error of a template if the member is the template,
and a text that is refused with the error. -/
theorem Member.category_of_fault? {m : Member} {value : Document} {cause : Diagnostic.Cause}
    (fault : m.fault? value = some cause) (category : TemplateError.Category) :
    cause.templateError?.map TemplateError.category = some category ↔
      m = .template ∧ ∃ s e, value = .text s ∧ Template.compile s = .error e
        ∧ e.category = category := by
  rw [Option.map_eq_some_iff]
  constructor
  · rintro ⟨e, found, same⟩
    obtain ⟨here, s, text, refused⟩ := (templateError?_of_fault? fault e).mp found
    exact ⟨here, s, e, text, refused, same⟩
  · rintro ⟨here, s, e, text, refused, same⟩
    exact ⟨e, (templateError?_of_fault? fault e).mpr ⟨here, s, text, refused⟩, same⟩

/-! ## The verdicts on all members -/

/-- The members at fault are reported under their keys. -/
theorem map_field_faults (record : Document) (members : List Member) :
    (members.filterMap fun m => m.fault? (record.get m.key)).map Diagnostic.Cause.field =
      (members.filter fun m => (m.fault? (record.get m.key)).isSome).map Member.key := by
  induction members with
  | nil => rfl
  | cons m members ih =>
    cases fault : m.fault? (record.get m.key) with
    | none => simp [fault, ih]
    | some cause => simp [fault, ih, Member.field_of_fault? fault]

theorem Members.causes_ofRecord (record : Document) :
    (ofRecord record).causes = Member.all.filterMap fun m => m.fault? (record.get m.key) := by
  have each : [cause? (ofRecord record).name, cause? (ofRecord record).uuid,
      cause? (ofRecord record).template, cause? (ofRecord record).values,
      cause? (ofRecord record).tags, cause? (ofRecord record).examples] =
      Member.all.map fun m => m.fault? (record.get m.key) := by
    simp only [ofRecord, cause?_required, cause?_optional, refusalOf_mapError]
    rfl
  rw [causes, each, List.filterMap_map]
  rfl

theorem Members.pattern?_ofRecord_eq_none_iff {record : Document} :
    (ofRecord record).pattern? = none ↔
      ∃ m : Member, m.isRequired = true ∧ m.fault? (record.get m.key) ≠ none := by
  have each {α : Type} (member : Member) (reader : Document → Except Refusal α)
      (verdict : (refusalOf (reader (record.get member.key))).map Diagnostic.Cause.refused =
        (member.refusal? (record.get member.key)).map .refused)
      (isRequired : member.isRequired = true) :
      (∃ cause, required member reader record = .error cause) ↔
        member.fault? (record.get member.key) ≠ none := by
    rw [← exists_congr fun _ => cause?_eq_some_iff, ← Option.ne_none_iff_exists',
      cause?_required, Member.fault?, if_pos isRequired, verdict]
  rw [Members.pattern?_eq_none_iff, exists_or, exists_or]
  simp only [ofRecord]
  rw [each .name readName rfl rfl, each .uuid readUuid rfl rfl, each .template readTemplate rfl rfl]
  constructor
  · rintro (name | uuid | template)
    · exact ⟨.name, rfl, name⟩
    · exact ⟨.uuid, rfl, uuid⟩
    · exact ⟨.template, rfl, template⟩
  · rintro ⟨m, isRequired, fault⟩
    cases m with
    | name => exact .inl fault
    | uuid => exact .inr (.inl fault)
    | template => exact .inr (.inr fault)
    | values | tags | examples => cases isRequired

/-- A pattern has what was read of a member that may be missing, and nothing if the member is
missing or at fault. -/
theorem optional_holds {ε α : Type} {member : Member} {reader : Document → Except ε α}
    {reword : ε → Refusal} {empty value : α} {record : Document}
    (held : orEmpty empty (optional member (fun d => (reader d).mapError reword) empty record) =
      value)
    (verdict : member.refusal? (record.get member.key) =
      (refusalOf (reader (record.get member.key))).map reword) :
    (record.get member.key = .null ∨ member.fault? (record.get member.key) ≠ none →
        value = empty)
      ∧ (record.get member.key ≠ .null → member.fault? (record.get member.key) = none →
        reader (record.get member.key) = .ok value) := by
  subst held
  rw [Member.fault?, verdict, optional]
  cases absent : (record.get member.key).isNull with
  | true => simp [isNull_iff.mp absent, orEmpty]
  | false =>
    have present : record.get member.key ≠ .null := fun null => by
      rw [null] at absent
      cases absent
    simp only [Bool.false_eq_true, if_false]
    cases found : reader (record.get member.key) with
    | error e => exact ⟨fun _ => rfl, fun _ none => by simp [refusalOf] at none⟩
    | ok read => exact ⟨fun fault => by simp [refusalOf, present] at fault, fun _ _ => rfl⟩

/-- A pattern holds what was read of the members that are there and not at fault, and nothing for
all others. -/
theorem Members.holds_of_pattern? {record : Document} {p : Pattern}
    (described : (ofRecord record).pattern? = some p) (m : Member) :
    (record.get m.key = .null ∨ m.fault? (record.get m.key) ≠ none → m.IsEmptyIn p)
      ∧ (record.get m.key ≠ .null → m.fault? (record.get m.key) = none →
        m.IsReadInto p (record.get m.key)) := by
  obtain ⟨name, uuid, template, values, tags, examples⟩ := pattern?_eq_some_iff.mp described
  have faultless : ∀ member : Member, member.isRequired = true →
      member.fault? (record.get member.key) = none := by
    intro member isRequired
    by_contra fault
    have none := pattern?_ofRecord_eq_none_iff.mpr ⟨member, isRequired, fault⟩
    rw [described] at none
    cases none
  -- A member that has to be there is there, since it would be at fault otherwise.
  have required_holds {α : Type} {reader : Document → Except Refusal α} {value : α}
      (read : required m reader record = .ok value) (isRequired : m.isRequired = true) :
      (record.get m.key = .null ∨ m.fault? (record.get m.key) ≠ none → False)
        ∧ reader (record.get m.key) = .ok value := by
    obtain ⟨present, found⟩ := required_eq_ok_iff.mp read
    exact ⟨fun missing => missing.elim present (absurd (faultless m isRequired)), found⟩
  cases m with
  | name => exact (required_holds name rfl).imp_right fun found _ _ => found
  | uuid => exact (required_holds uuid rfl).imp_right fun found _ _ => found
  | template => exact (required_holds template rfl).imp_right fun found _ _ => found
  | values => exact optional_holds values rfl
  | tags => exact optional_holds tags rfl
  | examples => exact optional_holds examples rfl

end LogTemplate.Record
