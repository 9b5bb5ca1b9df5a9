import LogTemplate.Library.Match
import LogTemplate.Proofs.Library.Load
import LogTemplate.Validation

/-!
# Records that are left out

A record is left out if it describes no pattern, or one whose UUID is taken.  Main statement: these
are the records without which everything else is the same, whatever follows them: the library, what
it makes of lines, how its examples go, and the reports on other records but for their places.
-/

namespace LogTemplate.Library

/-- A record is left out of the library of those before it. -/
def IsLeftOut (earlier : List Document) (record : Document) : Prop :=
  (Record.read earlier.length record).1 = none
    ∨ ∃ p, (Record.read earlier.length record).1 = some p
      ∧ ∃ holder ∈ (load earlier).library.patterns, holder.uuid = p.uuid

theorem isLeftOut_iff {earlier : List Document} {record : Document} :
    IsLeftOut earlier record ↔ ((load earlier).library.fate record).gained? = none := by
  rw [IsLeftOut, Record.fst_read]
  cases fate : (load earlier).library.fate record with
  | refused => simp [fate_eq_refused_iff.mp fate, Fate.gained?]
  | kept p =>
    obtain ⟨described, free⟩ := fate_eq_kept_iff.mp fate
    rw [get?_eq_none_iff, List.mem_map] at free
    simp [described, free, Fate.gained?]
  | taken p holder =>
    obtain ⟨described, held⟩ := fate_eq_taken_iff.mp fate
    have present := List.mem_of_find?_eq_some held
    have same := uuid_of_get? held
    simp only [described, reduceCtorEq, Option.some.injEq, exists_eq_left', false_or, Fate.gained?,
      iff_true]
    exact ⟨holder, present, same⟩

/-- On a record one place further on the same is reported. -/
theorem reports_succ (library : Library) (index : Nat) (record : Document) :
    library.reports (index + 1) record = (library.reports index record).map Diagnostic.later := by
  rw [reports, reports, Record.snd_read_succ, List.map_append]
  cases library.fate record <;> rfl

/-! ## Two runs, one with the record and one without it -/

/-- A run is at the same point as another one that has had one record more.  That record was left
out: it has added only its own reports, behind those `before` it. -/
structure Loading.Misses (before own : List Diagnostic) (without withRecord : Loading) : Prop where
  library : withRecord.library = without.library
  count : withRecord.count = without.count + 1
  diagnostics : ∃ after, without.diagnostics = before ++ after
    ∧ withRecord.diagnostics = before ++ own ++ after.map Diagnostic.later

/-- Both runs make the same of the next record, in places next to each other. -/
theorem Loading.Misses.add {before own : List Diagnostic} {without withRecord : Loading}
    (misses : Misses before own without withRecord) (record : Document) :
    Misses before own (without.add record) (withRecord.add record) := by
  obtain ⟨patterns, diagnostics, count⟩ := Loading.add_eq without record
  obtain ⟨patterns', diagnostics', count'⟩ := Loading.add_eq withRecord record
  obtain ⟨after, reported, reported'⟩ := misses.diagnostics
  rw [misses.library] at patterns' diagnostics'
  refine ⟨ext_patterns (patterns'.trans patterns.symm), ?_, ?_⟩
  · rw [count, count', misses.count]
  · refine ⟨after ++ without.library.reports without.count record, ?_, ?_⟩
    · rw [diagnostics, reported, List.append_assoc]
    · rw [diagnostics', reported', misses.count, reports_succ, List.map_append, List.append_assoc]

theorem Loading.Misses.foldl_add {before own : List Diagnostic} {without withRecord : Loading}
    (misses : Misses before own without withRecord) (records : List Document) :
    Misses before own (records.foldl Loading.add without)
      (records.foldl Loading.add withRecord) := by
  induction records generalizing without withRecord with
  | nil => exact misses
  | cons record rest ih => exact ih (misses.add record)

/-- A record that is left out puts a run where it was, but for one more place and the reports on
the record. -/
theorem misses_of_isLeftOut {earlier : List Document} {record : Document}
    (out : IsLeftOut earlier record) :
    Loading.Misses (load earlier).diagnostics
      ((load earlier).library.reports earlier.length record) (earlier.foldl Loading.add {})
      ((earlier.foldl Loading.add {}).add record) := by
  obtain ⟨patterns, diagnostics, count⟩ :=
    Loading.add_eq (earlier.foldl Loading.add {}) record
  have none : ((earlier.foldl Loading.add {}).library.fate record).gained? = none :=
    isLeftOut_iff.mp out
  have place := Loading.count_foldl_add earlier {}
  rw [none, Option.toList_none, List.append_nil] at patterns
  rw [place, Nat.zero_add] at diagnostics
  exact ⟨ext_patterns patterns, count, [], (List.append_nil _).symm,
    diagnostics.trans (List.append_nil _).symm⟩

/-- Further records only add reports of their own. -/
theorem exists_diagnostics_append (earlier later : List Document) :
    ∃ after, (load (earlier ++ later)).diagnostics = (load earlier).diagnostics ++ after
      ∧ ∀ d ∈ after, earlier.length ≤ d.index := by
  induction later using List.reverseRecOn with
  | nil => exact ⟨[], by simp, by simp⟩
  | append_singleton later record ih =>
    obtain ⟨after, reported, places⟩ := ih
    obtain ⟨-, added⟩ := load_concat (earlier ++ later) record
    refine ⟨after ++ (load (earlier ++ later)).library.reports (earlier ++ later).length record,
      ?_, ?_⟩
    · rw [← List.append_assoc, added, reported, List.append_assoc]
    · rw [List.forall_mem_append]
      refine ⟨places, ?_⟩
      intro d own
      rw [index_of_mem_reports own, List.length_append]
      exact Nat.le_add_right _ _

end LogTemplate.Library
