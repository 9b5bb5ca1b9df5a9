import Mathlib.Data.List.Forall2
import LogTemplate.Proofs.Library.Load
import LogTemplate.Proofs.Record.Member

/-!
# Where the patterns of a library come from

A pattern comes from the first record that describes one with its UUID.  Main statement: the library
has these patterns, each once and in the order of the records, and every other record is reported to
be left out.
-/

namespace LogTemplate.Library

/-- The record at a place of a list describes a pattern. -/
def Describes (records : List Document) (i : Nat) (p : Pattern) : Prop :=
  ∃ record, records[i]? = some record ∧ (Record.read i record).1 = some p

/-- The record at a place describes a pattern, and no record before it describes one with the same
UUID. -/
structure IsOrigin (records : List Document) (i : Nat) (p : Pattern) : Prop where
  described : Describes records i p
  first : ∀ j < i, ∀ q, Describes records j q → q.uuid ≠ p.uuid

theorem describes_iff {records : List Document} {i : Nat} {p : Pattern} :
    Describes records i p ↔ records[i]?.bind Record.pattern? = some p := by
  simp only [Describes, Record.fst_read, Option.bind_eq_some_iff]

theorem Describes.lt_length {records : List Document} {i : Nat} {p : Pattern}
    (described : Describes records i p) : i < records.length := by
  obtain ⟨record, found, -⟩ := described
  exact (List.getElem?_eq_some_iff.mp found).1

theorem Describes.unique {records : List Document} {i : Nat} {p q : Pattern}
    (described : Describes records i p) (again : Describes records i q) : p = q := by
  rw [describes_iff] at described again
  rw [described] at again
  exact Option.some.inj again

theorem exists_describes_iff {records : List Document} {p : Pattern} :
    (∃ i, Describes records i p) ↔ p ∈ records.filterMap Record.pattern? := by
  rw [List.mem_filterMap]
  constructor
  · rintro ⟨i, record, found, described⟩
    exact ⟨record, List.mem_of_getElem? found, Record.fst_read i record ▸ described⟩
  · rintro ⟨record, member, described⟩
    obtain ⟨i, found⟩ := List.mem_iff_getElem?.mp member
    exact ⟨i, record, found, (Record.fst_read i record).trans described⟩

theorem uuid_mem_of_get? {library : Library} {uuid : Uuid} {p : Pattern}
    (held : library.get? uuid = some p) : uuid ∈ library.patterns.map Pattern.uuid := by
  by_contra free
  rw [← get?_eq_none_iff, held] at free
  cases free

/-- The library of some records has the UUIDs of all patterns that the records describe, whether
they are kept or not. -/
theorem mem_map_uuid_load {records : List Document} {uuid : Uuid} :
    uuid ∈ (load records).library.patterns.map Pattern.uuid ↔
      uuid ∈ (records.filterMap Record.pattern?).map Pattern.uuid := by
  induction records using List.reverseRecOn generalizing uuid with
  | nil => rfl
  | append_singleton records record ih =>
    rw [(load_concat records record).1, List.filterMap_append, List.map_append, List.map_append,
      List.mem_append, List.mem_append, ih]
    cases fate : (load records).library.fate record with
    | refused => simp [Fate.gained?, fate_eq_refused_iff.mp fate]
    | kept p => simp [Fate.gained?, (fate_eq_kept_iff.mp fate).1]
    | taken p holder =>
      obtain ⟨described, held⟩ := fate_eq_taken_iff.mp fate
      have present := ih.mp (uuid_mem_of_get? held)
      simp only [Fate.gained?, Option.toList_none, List.map_nil, List.not_mem_nil, or_false,
        List.filterMap_cons, described, List.filterMap_nil, List.map_cons, List.mem_singleton]
      constructor
      · exact .inl
      · rintro (earlier | rfl)
        · exact earlier
        · exact present

/-- A UUID is free in the library of some records if no record describes a pattern with it. -/
theorem get?_load_eq_none_iff {records : List Document} {uuid : Uuid} :
    (load records).library.get? uuid = none ↔
      ∀ i p, Describes records i p → p.uuid ≠ uuid := by
  rw [get?_eq_none_iff, mem_map_uuid_load, List.mem_map]
  constructor
  · intro free i p described same
    exact free ⟨p, exists_describes_iff.mp ⟨i, described⟩, same⟩
  · rintro free ⟨p, member, same⟩
    obtain ⟨i, described⟩ := exists_describes_iff.mpr member
    exact free i p described same

theorem describes_take {records : List Document} {i j : Nat} {p : Pattern} (earlier : j < i) :
    Describes (records.take i) j p ↔ Describes records j p := by
  rw [describes_iff, describes_iff, List.getElem?_take_of_lt earlier]

/-! ## What became of the record at a place -/

theorem fateAt?_eq_some_iff {records : List Document} {i : Nat} {fate : Fate} :
    fateAt? records i = some fate ↔
      ∃ record, records[i]? = some record ∧ (load (records.take i)).library.fate record = fate := by
  rw [fateAt?, Option.map_eq_some_iff]

theorem reportsAt_of_getElem? {records : List Document} {i : Nat} {record : Document}
    (found : records[i]? = some record) :
    reportsAt records i = (load (records.take i)).library.reports i record := by
  rw [reportsAt, found]
  rfl

theorem exists_fateAt? {records : List Document} {i : Nat} (inside : i < records.length) :
    ∃ fate, fateAt? records i = some fate :=
  ⟨_, fateAt?_eq_some_iff.mpr ⟨records[i], List.getElem?_eq_getElem inside, rfl⟩⟩

/-- A pattern comes from a place exactly if the record there was kept with it. -/
theorem isOrigin_iff {records : List Document} {i : Nat} {p : Pattern} :
    IsOrigin records i p ↔ fateAt? records i = some (.kept p) := by
  rw [fateAt?_eq_some_iff]
  constructor
  · rintro ⟨⟨record, found, described⟩, first⟩
    rw [Record.fst_read] at described
    refine ⟨record, found, fate_eq_kept_iff.mpr ⟨described, ?_⟩⟩
    rw [get?_load_eq_none_iff]
    intro j q earlier
    have before : j < i := by
      have inside := earlier.lt_length
      rw [List.length_take] at inside
      omega
    exact first j before q ((describes_take before).mp earlier)
  · rintro ⟨record, found, kept⟩
    obtain ⟨described, free⟩ := fate_eq_kept_iff.mp kept
    rw [get?_load_eq_none_iff] at free
    refine ⟨⟨record, found, (Record.fst_read i record).trans described⟩, ?_⟩
    intro j before q earlier
    exact free j q ((describes_take before).mpr earlier)

/-- The library has the patterns that come from some place, and no other ones. -/
theorem mem_patterns_load {records : List Document} {p : Pattern} :
    p ∈ (load records).library.patterns ↔ ∃ i, IsOrigin records i p := by
  simp only [patterns_load, List.mem_filterMap, List.mem_range, Option.bind_eq_some_iff,
    Fate.gained?_eq_some_iff, isOrigin_iff]
  constructor
  · rintro ⟨i, -, fate, found, rfl⟩
    exact ⟨i, found⟩
  · rintro ⟨i, found⟩
    exact ⟨i, (isOrigin_iff.mpr found).described.lt_length, _, found, rfl⟩

theorem fateAt?_take {records : List Document} {i j : Nat} (earlier : j < i)
    (inside : i < records.length) : fateAt? (records.take i) j = fateAt? records j := by
  have short : j < (records.take i).length := by
    rw [List.length_take]
    omega
  rw [← fateAt?_append (records.drop i) short, List.take_append_drop]

/-- The holder of a UUID that is taken comes from an earlier place. -/
theorem exists_isOrigin_of_taken {records : List Document} {i : Nat} {p holder : Pattern}
    (taken : fateAt? records i = some (.taken p holder)) :
    Describes records i p ∧ holder.uuid = p.uuid ∧ ∃ j < i, IsOrigin records j holder := by
  obtain ⟨record, found, fate⟩ := fateAt?_eq_some_iff.mp taken
  obtain ⟨described, held⟩ := fate_eq_taken_iff.mp fate
  have inside := (List.getElem?_eq_some_iff.mp found).1
  obtain ⟨j, origin⟩ := mem_patterns_load.mp (List.mem_of_find?_eq_some held)
  have earlier : j < i := by
    have short := origin.described.lt_length
    rw [List.length_take] at short
    omega
  rw [isOrigin_iff, fateAt?_take earlier inside, ← isOrigin_iff] at origin
  exact ⟨⟨record, found, (Record.fst_read i record).trans described⟩, uuid_of_get? held,
    j, earlier, origin⟩

/-! ## What is reported -/

/-- The report on a UUID that is taken is the only one of its kind at a place. -/
theorem filter_duplicate_reportsAt {records : List Document} {i : Nat} {fate : Fate}
    (found : fateAt? records i = some fate) :
    (reportsAt records i).filter (fun d => d.cause.kind = .duplicateUuid) =
      (fate.report? i).toList := by
  obtain ⟨record, present, rfl⟩ := fateAt?_eq_some_iff.mp found
  rw [reportsAt_of_getElem? present, filter_duplicate_reports]

theorem skipped_iff_of_mem_reportsAt {records : List Document} {i : Nat} {fate : Fate}
    {d : Diagnostic} (found : fateAt? records i = some fate) (reported : d ∈ reportsAt records i) :
    d.skipped = true ↔ fate = .refused ∨ d.cause.kind = .duplicateUuid := by
  obtain ⟨record, present, rfl⟩ := fateAt?_eq_some_iff.mp found
  rw [reportsAt_of_getElem? present] at reported
  exact skipped_iff_of_mem_reports reported

theorem report?_of_mem_reportsAt {records : List Document} {i : Nat} {fate : Fate} {d : Diagnostic}
    (found : fateAt? records i = some fate) (reported : d ∈ reportsAt records i)
    (kind : d.cause.kind = .duplicateUuid) : fate.report? i = some d := by
  rw [← Option.mem_toList, ← filter_duplicate_reportsAt found]
  simpa using ⟨reported, kind⟩

/-- What is reported of a record with which the library gains nothing says so at least once. -/
theorem exists_skipped_of_gained? {records : List Document} {i : Nat} {fate : Fate}
    (found : fateAt? records i = some fate) (none : fate.gained? = none) :
    ∃ d ∈ reportsAt records i, d.skipped = true := by
  cases fate with
  | refused =>
    obtain ⟨record, present, refused⟩ := fateAt?_eq_some_iff.mp found
    obtain ⟨d, own⟩ := Record.exists_mem_read i (fate_eq_refused_iff.mp refused)
    have reported : d ∈ reportsAt records i := by
      rw [reportsAt_of_getElem? present]
      exact mem_reports.mpr (.inl own)
    exact ⟨d, reported, (skipped_iff_of_mem_reportsAt found reported).mpr (.inl rfl)⟩
  | kept p => cases none
  | taken p holder =>
    have duplicate : Loading.duplicate i p holder ∈
        (reportsAt records i).filter fun d => d.cause.kind = .duplicateUuid := by
      rw [filter_duplicate_reportsAt found]
      exact Option.mem_toList.mpr rfl
    exact ⟨_, (List.mem_filter.mp duplicate).1, rfl⟩

/-- What is reported of a record that is left out says so at least once, and what is reported of a
record that is kept never does. -/
theorem exists_skipped_iff {records : List Document} {i : Nat} (inside : i < records.length) :
    (∃ d ∈ (load records).diagnostics, d.index = i ∧ d.skipped = true) ↔
      ¬ ∃ p, IsOrigin records i p := by
  obtain ⟨fate, found⟩ := exists_fateAt? inside
  constructor
  · rintro ⟨d, member, rfl, skipped⟩ ⟨p, origin⟩
    have reported := mem_diagnostics_load.mp member
    rw [isOrigin_iff, found] at origin
    cases origin
    rcases (skipped_iff_of_mem_reportsAt found reported).mp skipped with refused | kind
    · cases refused
    · cases report?_of_mem_reportsAt found reported kind
  · intro missing
    have nothing : fate.gained? = none := by
      rw [Option.eq_none_iff_forall_ne_some]
      intro p gained
      rw [Fate.gained?_eq_some_iff] at gained
      exact missing ⟨p, isOrigin_iff.mpr (gained ▸ found)⟩
    obtain ⟨d, reported, skipped⟩ := exists_skipped_of_gained? found nothing
    have index := index_of_mem_reportsAt reported
    exact ⟨d, mem_diagnostics_load.mpr (index ▸ reported), index, skipped⟩

/-! ## The library as a list of patterns -/

theorem foldlM_add_eq_ok_iff {patterns : List Pattern} {start library : Library} :
    patterns.foldlM (fun library p => (library.add p).mapError fun _ => p) start = .ok library ↔
      library.patterns = start.patterns ++ patterns := by
  induction patterns generalizing start with
  | nil =>
    rw [List.append_nil]
    constructor
    · rintro ⟨⟩
      rfl
    · intro same
      rw [ext_patterns same]
      rfl
  | cons p rest ih =>
    simp only [List.foldlM_cons, bind_eq_ok_iff, mapError_eq_ok_iff, add_eq_ok_iff, ih]
    constructor
    · rintro ⟨middle, ⟨-, added⟩, all⟩
      rw [all, added, List.append_assoc, List.singleton_append]
    · intro all
      have distinct := library.distinct
      rw [all, List.map_append, List.map_cons, List.nodup_append] at distinct
      have free : start.get? p.uuid = none := by
        rw [get?_eq_none_iff]
        intro present
        exact distinct.2.2 p.uuid present p.uuid List.mem_cons_self rfl
      cases added : start.add p with
      | error holder =>
        rw [add_eq_error_iff, free] at added
        cases added
      | ok middle =>
        obtain ⟨-, patterns⟩ := add_eq_ok_iff.mp added
        exact ⟨middle, ⟨free, patterns⟩, by rw [all, patterns, List.append_assoc]; rfl⟩

/-- A list of patterns makes a library, with just these patterns, unless a UUID occurs twice. -/
theorem ofList_eq_ok_iff {patterns : List Pattern} {library : Library} :
    ofList patterns = .ok library ↔ library.patterns = patterns := by
  rw [ofList, foldlM_add_eq_ok_iff]
  rfl

theorem forall₂_filterMap {α β : Type} (f : α → Option β) (l : List α) :
    List.Forall₂ (fun a b => f a = some b) (l.filter fun a => (f a).isSome) (l.filterMap f) := by
  induction l with
  | nil => exact .nil
  | cons a rest ih =>
    cases found : f a with
    | none => simpa [found] using ih
    | some b =>
      rw [List.filter_cons_of_pos (by simp [found]), List.filterMap_cons_some found]
      exact .cons found ih

/-- The patterns of a library are lined up with the places that they come from. -/
theorem exists_places_load (records : List Document) :
    ∃ places : List Nat, places.Pairwise (· < ·)
      ∧ List.Forall₂ (IsOrigin records) places (load records).library.patterns
      ∧ ∀ i, i ∈ places ↔ ∃ p, IsOrigin records i p := by
  let origin := fun i => (fateAt? records i).bind Fate.gained?
  have comes : ∀ i p, origin i = some p ↔ IsOrigin records i p := by
    intro i p
    simp only [origin, Option.bind_eq_some_iff, Fate.gained?_eq_some_iff, isOrigin_iff,
      exists_eq_right]
  refine ⟨(List.range records.length).filter fun i => (origin i).isSome, ?_, ?_, ?_⟩
  · exact List.pairwise_lt_range.filter _
  · rw [patterns_load]
    exact (forall₂_filterMap origin _).imp fun i p => (comes i p).mp
  · intro i
    simp only [List.mem_filter, List.mem_range, Option.isSome_iff_exists, comes]
    constructor
    · exact And.right
    · rintro ⟨p, found⟩
      exact ⟨found.described.lt_length, p, found⟩

/-- A record that describes a pattern is kept with it, or its UUID is taken. -/
theorem Describes.exists_taken {records : List Document} {i : Nat} {p : Pattern}
    (described : Describes records i p) (missing : ¬ IsOrigin records i p) :
    ∃ holder, fateAt? records i = some (.taken p holder) := by
  obtain ⟨fate, found⟩ := exists_fateAt? described.lt_length
  cases fate with
  | refused =>
    obtain ⟨record, present, refused⟩ := fateAt?_eq_some_iff.mp found
    rw [fate_eq_refused_iff] at refused
    rw [describes_iff, present, Option.bind_some, refused] at described
    cases described
  | kept q =>
    have origin := isOrigin_iff.mpr found
    exact absurd (described.unique origin.described ▸ origin) missing
  | taken q holder =>
    obtain ⟨again, -, -⟩ := exists_isOrigin_of_taken found
    exact ⟨holder, described.unique again ▸ found⟩

theorem filter_duplicate_diagnostics_load {records : List Document} {i : Nat} {fate : Fate}
    (found : fateAt? records i = some fate) :
    ((load records).diagnostics.filter fun d => d.index = i ∧ d.cause.kind = .duplicateUuid) =
      (fate.report? i).toList := by
  rw [← filter_duplicate_reportsAt found, ← filter_index_diagnostics_load, List.filter_filter]
  simp only [Bool.decide_and, Bool.and_comm]

/-- A report that a UUID is taken is on a record that describes a pattern and is not kept. -/
theorem exists_describes_of_duplicate {records : List Document} {d : Diagnostic}
    (member : d ∈ (load records).diagnostics) (kind : d.cause.kind = .duplicateUuid) :
    ∃ p, Describes records d.index p ∧ ¬ IsOrigin records d.index p := by
  have reported := mem_diagnostics_load.mp member
  obtain ⟨fate, found⟩ := exists_fateAt? (index_lt_of_mem_load member)
  have duplicate := report?_of_mem_reportsAt found reported kind
  obtain ⟨p, holder, rfl, -⟩ := Fate.report?_eq_some_iff.mp duplicate
  refine ⟨p, (exists_isOrigin_of_taken found).1, ?_⟩
  intro origin
  rw [isOrigin_iff, found] at origin
  cases origin

theorem exists_uuid_text_of_describes {records : List Document} {i : Nat} {p : Pattern}
    (described : Describes records i p) :
    ∃ s, records[i]?.map (Document.get Record.Member.uuid.key) = some (.text s)
      ∧ p.uuid.isWrittenAs s.toList = true := by
  obtain ⟨record, found, read⟩ := described
  rw [Record.fst_read] at read
  obtain ⟨s, text, written⟩ := Record.exists_text_of_pattern? read
  exact ⟨s, by rw [found, Option.map_some, text], written⟩

end LogTemplate.Library
