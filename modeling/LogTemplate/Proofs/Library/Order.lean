import LogTemplate.Proofs.Library.Origin
import LogTemplate.Proofs.Library.Winner

/-!
# Records in another order

Where no two records describe patterns with the same UUID, all that describe one are kept.  Main
statement: the order of such records matters neither to what becomes of lines nor to what is
reported, but for the places in the reports.
-/

namespace LogTemplate

/-- The report, whatever the place of its record. -/
def Diagnostic.unplaced (d : Diagnostic) : Diagnostic := { d with index := 0 }

/-- What is reported on a record shows its place and nothing else of where it stands. -/
theorem Record.map_unplaced_read (index : Nat) (record : Document) :
    (read index record).2.map Diagnostic.unplaced = (read 0 record).2 := by
  cases record with
  | mapping entries => simp [read, Diagnostic.unplaced, Function.comp_def]
  | _ => rfl

namespace Library

/-- Libraries with the same patterns, in whatever order, make the same of a line. -/
theorem match?_congr {library other : Library}
    (same : ∀ p, p ∈ library.patterns ↔ p ∈ other.patterns) (line : List CodePoint) :
    library.match? line = other.match? line :=
  match?_eq_of_matching fun p _ => same p

/-- No two of some records describe patterns with the same UUID. -/
def HasDistinctUuids (records : List Document) : Prop :=
  ((records.filterMap Record.pattern?).map Pattern.uuid).Nodup

instance (records : List Document) : Decidable (HasDistinctUuids records) :=
  inferInstanceAs (Decidable (List.Nodup _))

theorem HasDistinctUuids.perm {records others : List Document}
    (distinct : HasDistinctUuids records) (perm : records.Perm others) :
    HasDistinctUuids others :=
  ((perm.filterMap Record.pattern?).map Pattern.uuid).nodup_iff.mp distinct

/-- Behind records that are all kept, one that describes a pattern with another UUID is kept, too.
-/
theorem fate_of_hasDistinctUuids {records : List Document} {record : Document}
    (distinct : HasDistinctUuids (records ++ [record])) :
    ((load records).library.fate record).gained? = Record.pattern? record
      ∧ ∀ index, ((load records).library.fate record).report? index = none := by
  cases described : Record.pattern? record with
  | none => simp [fate_eq_refused_iff.mpr described, Fate.gained?, Fate.report?]
  | some p =>
    have free : (load records).library.get? p.uuid = none := by
      rw [HasDistinctUuids, List.filterMap_append, List.map_append, List.nodup_append] at distinct
      rw [get?_eq_none_iff, mem_map_uuid_load]
      intro present
      exact distinct.2.2 p.uuid present p.uuid (by simp [described]) rfl
    simp [fate_eq_kept_iff.mpr ⟨described, free⟩, Fate.gained?, Fate.report?]

/-- Records that describe patterns with distinct UUIDs give the library these patterns, and nothing
is reported but what is wrong with each record in itself. -/
theorem load_of_hasDistinctUuids {records : List Document} (distinct : HasDistinctUuids records) :
    (load records).library.patterns = records.filterMap Record.pattern?
      ∧ (load records).diagnostics.map Diagnostic.unplaced =
        records.flatMap fun record => (Record.read 0 record).2 := by
  induction records using List.reverseRecOn with
  | nil => exact ⟨rfl, rfl⟩
  | append_singleton records record ih =>
    have earlier : HasDistinctUuids records := by
      rw [HasDistinctUuids, List.filterMap_append, List.map_append] at distinct
      exact (List.nodup_append.mp distinct).1
    obtain ⟨patterns, reported⟩ := ih earlier
    obtain ⟨gained, silent⟩ := fate_of_hasDistinctUuids distinct
    obtain ⟨added, addedReports⟩ := load_concat records record
    constructor
    · rw [added, gained, patterns, List.filterMap_append]
      cases described : Record.pattern? record <;> simp [described]
    · rw [addedReports, List.map_append, reported, reports, silent, Option.toList_none,
        List.append_nil, Record.map_unplaced_read, List.flatMap_append, List.flatMap_singleton]

/-- The order of records does not matter: as long as no two of them describe patterns with the same
UUID, every line has the same match and the same is reported, but for the places of the records. -/
theorem load_perm {records others : List Document} (perm : records.Perm others)
    (distinct : HasDistinctUuids records) :
    (∀ line, (load records).library.match? line = (load others).library.match? line)
      ∧ ((load records).diagnostics.map Diagnostic.unplaced).Perm
        ((load others).diagnostics.map Diagnostic.unplaced) := by
  obtain ⟨patterns, reported⟩ := load_of_hasDistinctUuids distinct
  obtain ⟨patterns', reported'⟩ := load_of_hasDistinctUuids (distinct.perm perm)
  constructor
  · refine match?_congr fun p => ?_
    rw [patterns, patterns']
    exact (perm.filterMap Record.pattern?).mem_iff
  · rw [reported, reported']
    exact perm.flatMap_right _

/-- Two records that match a line with equally long literals, and one that describes no pattern. -/
def evenRecords : List Document := [
  .mapping [
    (Record.Member.name.key, .text "A"),
    (Record.Member.uuid.key, .text "b2d5c8f1-0a3e-4d67-8b9c-1f2e3d4c5b6a"),
    (Record.Member.template.key, .text "a @ANY:x@")],
  .mapping [(Record.Member.name.key, .text " "), (Record.Member.tags.key, .text "x")],
  .mapping [
    (Record.Member.name.key, .text "B"),
    (Record.Member.uuid.key, .text "9A5E4F2C-6D1B-4C8E-9F3A-2B7D1E0C5A41"),
    (Record.Member.template.key, .text "@ANY:x@ b")]]

/-- Either way round the pattern with the smaller UUID wins. -/
theorem load_perm_even :
    HasDistinctUuids evenRecords
      ∧ (load evenRecords).library.match? (Text.toList "a b") =
        (load evenRecords.reverse).library.match? (Text.toList "a b")
      ∧ ((load evenRecords).diagnostics.map Diagnostic.unplaced).Perm
        ((load evenRecords.reverse).diagnostics.map Diagnostic.unplaced) := by
  have distinct : HasDistinctUuids evenRecords := by decide +kernel
  obtain ⟨lines, reports⟩ := load_perm (List.reverse_perm evenRecords).symm distinct
  exact ⟨distinct, lines _, reports⟩

end Library

end LogTemplate
