import LogTemplate.Proofs.Library.Origin

/-!
# Whether reports say that their record is left out

A record is left out if no pattern of the library comes from it, and what is reported on it should
say so.  Main statement: this fails for the other reports on a record whose UUID is taken, and for
no others.
-/

namespace LogTemplate.Library

/-- Every report says that its record is left out exactly if it is. -/
def FlagsAreTrue (records : List Document) : Prop :=
  ∀ d ∈ (load records).diagnostics,
    d.skipped = true ↔ ¬ ∃ p ∈ (load records).library.patterns, IsOrigin records d.index p

theorem exists_mem_isOrigin_iff {records : List Document} {i : Nat} {fate : Fate}
    (found : fateAt? records i = some fate) :
    (∃ p ∈ (load records).library.patterns, IsOrigin records i p) ↔ ∃ p, fate = .kept p := by
  simp only [mem_patterns_load, isOrigin_iff, found, Option.some.injEq]
  constructor
  · rintro ⟨p, -, kept⟩
    exact ⟨p, kept⟩
  · rintro ⟨p, kept⟩
    exact ⟨p, ⟨i, found.trans (congrArg some kept)⟩, kept⟩

theorem exists_describes_iff_fateAt? {records : List Document} {i : Nat} {fate : Fate}
    (found : fateAt? records i = some fate) :
    (∃ p, Describes records i p) ↔ fate ≠ .refused := by
  obtain ⟨record, present, rfl⟩ := fateAt?_eq_some_iff.mp found
  simp only [describes_iff, present, Option.bind_some, Ne, fate_eq_refused_iff]
  exact Option.ne_none_iff_exists'.symm

/-- A report says that the record is left out exactly if it is, and either describes no pattern or
is reported for its UUID. -/
theorem skipped_iff_of_mem {records : List Document} {d : Diagnostic}
    (member : d ∈ (load records).diagnostics) :
    d.skipped = true ↔
      (¬ ∃ p ∈ (load records).library.patterns, IsOrigin records d.index p)
        ∧ ((∃ p, Describes records d.index p) → d.cause.kind = .duplicateUuid) := by
  have reported := mem_diagnostics_load.mp member
  obtain ⟨fate, found⟩ := exists_fateAt? (index_lt_of_mem_load member)
  rw [skipped_iff_of_mem_reportsAt found reported, exists_mem_isOrigin_iff found,
    exists_describes_iff_fateAt? found]
  cases fate with
  | refused => simp
  | kept p =>
    have other : d.cause.kind ≠ .duplicateUuid := by
      intro kind
      obtain ⟨q, described, missing⟩ := exists_describes_of_duplicate member kind
      have origin := isOrigin_iff.mpr found
      exact missing (described.unique origin.described ▸ origin)
    simp [other]
  | taken p holder => simp

/-- Reports are true exactly if every record whose UUID is taken is without any other fault. -/
theorem flagsAreTrue_iff {records : List Document} :
    FlagsAreTrue records ↔
      ∀ i record p, records[i]? = some record → Describes records i p → ¬ IsOrigin records i p →
        Record.IsFaultless record p := by
  constructor
  · intro honest i record p present described missing
    have describes : Record.pattern? record = some p := by
      rw [describes_iff, present] at described
      exact described
    rw [Record.isFaultless_iff i]
    refine ⟨describes, List.eq_nil_iff_forall_not_mem.mpr ?_⟩
    intro d own
    obtain rfl : d.index = i := Record.index_of_mem_read own
    have member : d ∈ (load records).diagnostics := by
      rw [mem_diagnostics_load, reportsAt_of_getElem? present]
      exact mem_reports.mpr (.inl own)
    have left : ¬ ∃ q ∈ (load records).library.patterns, IsOrigin records d.index q := by
      rintro ⟨q, -, origin⟩
      exact missing (described.unique origin.described ▸ origin)
    have skipped := (honest d member).mpr left
    exact Record.kind_of_mem_read own (((skipped_iff_of_mem member).mp skipped).2 ⟨p, described⟩)
  · intro faultless d member
    rw [skipped_iff_of_mem member, and_iff_left_iff_imp]
    rintro left ⟨p, described⟩
    obtain ⟨record, present, reported⟩ := mem_reportsAt.mp (mem_diagnostics_load.mp member)
    have missing : ¬ IsOrigin records d.index p := fun origin =>
      left ⟨p, mem_patterns_load.mpr ⟨d.index, origin⟩, origin⟩
    obtain ⟨-, silent⟩ := (Record.isFaultless_iff d.index).mp
      (faultless d.index record p present described missing)
    rcases mem_reports.mp reported with own | taken
    · rw [silent] at own
      cases own
    · obtain ⟨q, holder, -, same⟩ := Fate.report?_eq_some_iff.mp taken
      rw [← same]
      rfl

/-- A report says that its record is left out exactly if no pattern of the library comes from it,
unless the record describes a pattern whose UUID is taken: of the reports on such a record only the
one on the UUID says so, and all reports are true exactly if there are no others. -/
theorem skipped_iff_left_out (records : List Document) :
    (∀ d ∈ (load records).diagnostics,
      d.skipped = true ↔
        (¬ ∃ p ∈ (load records).library.patterns, IsOrigin records d.index p)
          ∧ ((∃ p, Describes records d.index p) → d.cause.kind = .duplicateUuid))
      ∧ (FlagsAreTrue records ↔
        ∀ i record p, records[i]? = some record → Describes records i p →
          ¬ IsOrigin records i p → Record.IsFaultless record p) :=
  ⟨fun _ => skipped_iff_of_mem, flagsAreTrue_iff⟩

/-- Two records with the same UUID; the tags of the second one are no list. -/
def twins : List Document := [
  .mapping [
    (Record.Member.name.key, .text "A"),
    (Record.Member.uuid.key, .text "9a5e4f2c-6d1b-4c8e-9f3a-2b7d1e0c5a41"),
    (Record.Member.template.key, .text "a")],
  .mapping [
    (Record.Member.name.key, .text "B"),
    (Record.Member.uuid.key, .text "9a5e4f2c-6d1b-4c8e-9f3a-2b7d1e0c5a41"),
    (Record.Member.template.key, .text "b"),
    (Record.Member.tags.key, .text "x")]]

/-- The reports on the second record disagree: only the one on its UUID says that it is left out. -/
theorem not_flagsAreTrue_twins : ¬ FlagsAreTrue twins := by
  intro honest
  have flags : (load twins).diagnostics.map (fun d => (d.index, d.skipped)) =
      [(1, false), (1, true)] := by
    decide +kernel
  have first : (1, false) ∈ (load twins).diagnostics.map fun d => (d.index, d.skipped) := by
    simp [flags]
  have second : (1, true) ∈ (load twins).diagnostics.map fun d => (d.index, d.skipped) := by
    simp [flags]
  obtain ⟨tags, tagsMember, tagsFlag⟩ := List.mem_map.mp first
  obtain ⟨uuid, uuidMember, uuidFlag⟩ := List.mem_map.mp second
  obtain ⟨tagsIndex, kept⟩ := Prod.mk.inj tagsFlag
  obtain ⟨uuidIndex, skipped⟩ := Prod.mk.inj uuidFlag
  have left := (honest uuid uuidMember).mp skipped
  rw [uuidIndex, ← tagsIndex] at left
  have again := (honest tags tagsMember).mpr left
  rw [kept] at again
  cases again

end LogTemplate.Library
