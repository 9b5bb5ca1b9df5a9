import Mathlib.Data.List.Basic
import Mathlib.Data.List.Induction
import LogTemplate.Library.Load
import LogTemplate.Proofs.Record.Report

/-!
# Loading record by record

A record that is added to a library is refused, kept, or left out because its UUID is taken.  Main
statements: the library of a list of records has what each of them is kept with, and what is
reported is what is reported on each of them, place by place.
-/

namespace LogTemplate.Library

/-- What becomes of a record that is added to a library. -/
inductive Fate where
  /-- The record describes no pattern. -/
  | refused
  | kept (p : Pattern)
  /-- The record describes a pattern whose UUID the holder has. -/
  | taken (p holder : Pattern)

namespace Fate

/-- The pattern that the library gains. -/
def gained? : Fate → Option Pattern
  | .kept p => some p
  | _ => none

/-- The report on a UUID that is taken. -/
def report? (index : Nat) : Fate → Option Diagnostic
  | .taken p holder => some (Loading.duplicate index p holder)
  | _ => none

theorem gained?_eq_some_iff {fate : Fate} {p : Pattern} :
    fate.gained? = some p ↔ fate = .kept p := by
  cases fate <;> simp [gained?]

theorem report?_eq_some_iff {index : Nat} {fate : Fate} {d : Diagnostic} :
    fate.report? index = some d ↔
      ∃ p holder, fate = .taken p holder ∧ Loading.duplicate index p holder = d := by
  cases fate <;> simp [report?]

end Fate

/-- What becomes of a record. -/
def fate (library : Library) (record : Document) : Fate :=
  match Record.pattern? record with
  | none => .refused
  | some p =>
    match library.get? p.uuid with
    | none => .kept p
    | some holder => .taken p holder

/-- What is reported on a record that is added from a place. -/
def reports (library : Library) (index : Nat) (record : Document) : List Diagnostic :=
  (Record.read index record).2 ++ ((library.fate record).report? index).toList

theorem fate_eq_refused_iff {library : Library} {record : Document} :
    library.fate record = .refused ↔ Record.pattern? record = none := by
  unfold fate
  cases Record.pattern? record with
  | none => simp
  | some p => cases held : library.get? p.uuid <;> simp [held]

theorem fate_eq_kept_iff {library : Library} {record : Document} {p : Pattern} :
    library.fate record = .kept p ↔
      Record.pattern? record = some p ∧ library.get? p.uuid = none := by
  unfold fate
  cases Record.pattern? record with
  | none => simp
  | some q =>
    rw [Option.some.injEq]
    constructor
    · intro kept
      cases held : library.get? q.uuid with
      | none =>
        simp only [held, Fate.kept.injEq] at kept
        exact ⟨kept, kept ▸ held⟩
      | some holder => simp [held] at kept
    · rintro ⟨rfl, free⟩
      simp [free]

theorem fate_eq_taken_iff {library : Library} {record : Document} {p holder : Pattern} :
    library.fate record = .taken p holder ↔
      Record.pattern? record = some p ∧ library.get? p.uuid = some holder := by
  unfold fate
  cases Record.pattern? record with
  | none => simp
  | some q =>
    rw [Option.some.injEq]
    constructor
    · intro taken
      cases held : library.get? q.uuid with
      | none => simp [held] at taken
      | some found =>
        simp only [held, Fate.taken.injEq] at taken
        obtain ⟨rfl, rfl⟩ := taken
        exact ⟨rfl, held⟩
    · rintro ⟨rfl, held⟩
      simp [held]

theorem mem_reports {library : Library} {index : Nat} {record : Document} {d : Diagnostic} :
    d ∈ library.reports index record ↔
      d ∈ (Record.read index record).2 ∨ (library.fate record).report? index = some d := by
  rw [reports, List.mem_append, Option.mem_toList]

theorem index_of_mem_reports {library : Library} {index : Nat} {record : Document}
    {d : Diagnostic} (reported : d ∈ library.reports index record) : d.index = index := by
  rcases mem_reports.mp reported with own | taken
  · exact Record.index_of_mem_read own
  · obtain ⟨p, holder, -, rfl⟩ := Fate.report?_eq_some_iff.mp taken
    rfl

/-- A report says that the record is left out exactly if the record describes no pattern or what is
reported is that its UUID is taken. -/
theorem skipped_iff_of_mem_reports {library : Library} {index : Nat} {record : Document}
    {d : Diagnostic} (reported : d ∈ library.reports index record) :
    d.skipped = true ↔ library.fate record = .refused ∨ d.cause.kind = .duplicateUuid := by
  rcases mem_reports.mp reported with own | taken
  · rw [Record.skipped_of_mem_read own, Option.isNone_iff_eq_none, fate_eq_refused_iff]
    exact (or_iff_left (Record.kind_of_mem_read own)).symm
  · obtain ⟨p, holder, -, rfl⟩ := Fate.report?_eq_some_iff.mp taken
    simp [Loading.duplicate, Diagnostic.Cause.kind]

/-- Of the reports on a record one at most is that its UUID is taken. -/
theorem filter_duplicate_reports (library : Library) (index : Nat) (record : Document) :
    (library.reports index record).filter (fun d => d.cause.kind = .duplicateUuid) =
      ((library.fate record).report? index).toList := by
  have own : (Record.read index record).2.filter (fun d => d.cause.kind = .duplicateUuid) = [] := by
    rw [List.filter_eq_nil_iff]
    intro d member
    simpa using Record.kind_of_mem_read member
  rw [reports, List.filter_append, own, List.nil_append]
  cases library.fate record with
  | taken p holder => simp [Fate.report?, Loading.duplicate, Diagnostic.Cause.kind]
  | _ => rfl

/-! ## One step -/

theorem ext_patterns {library other : Library} (same : library.patterns = other.patterns) :
    library = other := by
  cases library
  cases other
  cases same
  rfl

/-- Adding a record: the library gains what the record is kept with, and what is reported on the
record comes behind the reports there are. -/
theorem Loading.add_eq (state : Loading) (record : Document) :
    (state.add record).library.patterns =
        state.library.patterns ++ (state.library.fate record).gained?.toList
      ∧ (state.add record).diagnostics =
        state.diagnostics ++ state.library.reports state.count record
      ∧ (state.add record).count = state.count + 1 := by
  have described := Record.fst_read state.count record
  simp only [Loading.add, reports]
  cases fate : state.library.fate record with
  | refused =>
    rw [fate_eq_refused_iff] at fate
    simp [described, fate, Fate.gained?, Fate.report?]
  | kept p =>
    obtain ⟨found, free⟩ := fate_eq_kept_iff.mp fate
    rw [described, found]
    cases added : state.library.add p with
    | error holder =>
      rw [add_eq_error_iff, free] at added
      cases added
    | ok library => simp [added, (add_eq_ok_iff.mp added).2, Fate.gained?, Fate.report?]
  | taken p holder =>
    obtain ⟨found, held⟩ := fate_eq_taken_iff.mp fate
    have refused : state.library.add p = .error holder := add_eq_error_iff.mpr held
    simp [described, found, refused, Fate.gained?, Fate.report?]

/-! ## A whole list of records -/

theorem Loading.count_foldl_add (records : List Document) (state : Loading) :
    (records.foldl add state).count = state.count + records.length := by
  induction records generalizing state with
  | nil => rfl
  | cons record rest ih =>
    rw [List.foldl_cons, ih, (add_eq state record).2.2, List.length_cons]
    omega

theorem load_concat (records : List Document) (record : Document) :
    (load (records ++ [record])).library.patterns =
        (load records).library.patterns ++ ((load records).library.fate record).gained?.toList
      ∧ (load (records ++ [record])).diagnostics =
        (load records).diagnostics
          ++ (load records).library.reports records.length record := by
  have count := Loading.count_foldl_add records {}
  obtain ⟨patterns, diagnostics, -⟩ := Loading.add_eq (records.foldl Loading.add {}) record
  rw [count, Nat.zero_add] at diagnostics
  simp only [load, List.foldl_append, List.foldl_cons, List.foldl_nil]
  exact ⟨patterns, diagnostics⟩

/-- What becomes of the record at a place of a list. -/
def fateAt? (records : List Document) (i : Nat) : Option Fate :=
  records[i]?.map (load (records.take i)).library.fate

/-- What is reported on the record at a place of a list. -/
def reportsAt (records : List Document) (i : Nat) : List Diagnostic :=
  (records[i]?.map ((load (records.take i)).library.reports i)).getD []

/-- Records further on have no part in what becomes of a record, or in what is reported on it. -/
theorem fateAt?_append {records : List Document} {i : Nat} (later : List Document)
    (inside : i < records.length) : fateAt? (records ++ later) i = fateAt? records i := by
  have short := Nat.le_of_lt inside
  rw [fateAt?, fateAt?, List.getElem?_append_left inside, List.take_append_of_le_length short]

theorem reportsAt_append {records : List Document} {i : Nat} (later : List Document)
    (inside : i < records.length) : reportsAt (records ++ later) i = reportsAt records i := by
  have short := Nat.le_of_lt inside
  rw [reportsAt, reportsAt, List.getElem?_append_left inside, List.take_append_of_le_length short]

theorem fateAt?_length (records : List Document) (record : Document) :
    fateAt? (records ++ [record]) records.length = some ((load records).library.fate record) := by
  simp [fateAt?]

theorem reportsAt_length (records : List Document) (record : Document) :
    reportsAt (records ++ [record]) records.length =
      (load records).library.reports records.length record := by
  simp [reportsAt]

/-- The library has what the records are kept with, in their order. -/
theorem patterns_load (records : List Document) :
    (load records).library.patterns =
      (List.range records.length).filterMap fun i => (fateAt? records i).bind Fate.gained? := by
  induction records using List.reverseRecOn with
  | nil => rfl
  | append_singleton records record ih =>
    have earlier : ∀ i ∈ List.range records.length,
        (fateAt? (records ++ [record]) i).bind Fate.gained? =
          (fateAt? records i).bind Fate.gained? := by
      intro i member
      rw [fateAt?_append [record] (List.mem_range.mp member)]
    rw [(load_concat records record).1, ih, List.length_append, List.length_singleton,
      List.range_succ, List.filterMap_append, List.filterMap_congr earlier]
    cases gained : ((load records).library.fate record).gained? with
    | none => simp [fateAt?_length, gained]
    | some p => simp [fateAt?_length, gained]

/-- What is reported is what is reported on the records, in their order. -/
theorem diagnostics_load (records : List Document) :
    (load records).diagnostics = (List.range records.length).flatMap (reportsAt records) := by
  induction records using List.reverseRecOn with
  | nil => rfl
  | append_singleton records record ih =>
    have earlier : ∀ i ∈ List.range records.length,
        reportsAt (records ++ [record]) i = reportsAt records i := by
      intro i member
      exact reportsAt_append [record] (List.mem_range.mp member)
    rw [(load_concat records record).2, ih, List.length_append, List.length_singleton,
      List.range_succ, List.flatMap_append, List.flatMap_congr earlier, List.flatMap_singleton,
      reportsAt_length]

theorem mem_reportsAt {records : List Document} {i : Nat} {d : Diagnostic} :
    d ∈ reportsAt records i ↔
      ∃ record, records[i]? = some record
        ∧ d ∈ (load (records.take i)).library.reports i record := by
  rw [reportsAt]
  cases records[i]? with
  | none => simp
  | some record => simp

theorem index_of_mem_reportsAt {records : List Document} {i : Nat} {d : Diagnostic}
    (reported : d ∈ reportsAt records i) : d.index = i := by
  obtain ⟨record, -, member⟩ := mem_reportsAt.mp reported
  exact index_of_mem_reports member

theorem mem_diagnostics_load {records : List Document} {d : Diagnostic} :
    d ∈ (load records).diagnostics ↔ d ∈ reportsAt records d.index := by
  rw [diagnostics_load, List.mem_flatMap]
  constructor
  · rintro ⟨i, -, reported⟩
    rwa [index_of_mem_reportsAt reported]
  · intro reported
    obtain ⟨record, found, -⟩ := mem_reportsAt.mp reported
    have inside := (List.getElem?_eq_some_iff.mp found).1
    exact ⟨d.index, List.mem_range.mpr inside, reported⟩

/-- A report bears the place of a record. -/
theorem index_lt_of_mem_load {records : List Document} {d : Diagnostic}
    (member : d ∈ (load records).diagnostics) : d.index < records.length := by
  obtain ⟨record, present, -⟩ := mem_reportsAt.mp (mem_diagnostics_load.mp member)
  exact (List.getElem?_eq_some_iff.mp present).1

/-- The reports of a whole list that bear a place are those on the record there. -/
theorem filter_index_diagnostics_load (records : List Document) (i : Nat) :
    (load records).diagnostics.filter (fun d => d.index = i) = reportsAt records i := by
  have own : ∀ j, (reportsAt records j).filter (fun d => d.index = i) =
      if j = i then reportsAt records j else [] := by
    intro j
    split
    · rename_i same
      rw [List.filter_eq_self]
      intro d reported
      simpa [index_of_mem_reportsAt reported] using same
    · rename_i different
      rw [List.filter_eq_nil_iff]
      intro d reported
      simpa [index_of_mem_reportsAt reported] using different
  have alone : ∀ count, (List.range count).flatMap
      (fun j => if j = i then reportsAt records j else []) =
        if i < count then reportsAt records i else [] := by
    intro count
    induction count with
    | zero => rfl
    | succ count ih =>
      rw [List.range_succ, List.flatMap_append, ih, List.flatMap_singleton]
      rcases Nat.lt_trichotomy i count with below | rfl | above
      · simp [below, Nat.lt_succ_of_lt below, Nat.ne_of_gt below]
      · simp
      · have beyond : ¬ i < count + 1 := by omega
        simp [beyond, Nat.lt_asymm above, Nat.ne_of_lt above]
  rw [diagnostics_load, List.filter_flatMap]
  simp only [own, alone]
  split
  · rfl
  · rename_i outside
    rw [reportsAt, List.getElem?_eq_none (Nat.not_lt.mp outside)]
    rfl

theorem pairwise_index_load (records : List Document) :
    ((load records).diagnostics.map Diagnostic.index).Pairwise (· ≤ ·) := by
  rw [diagnostics_load, List.pairwise_map, List.pairwise_flatMap]
  constructor
  · intro i _
    rw [List.pairwise_iff_forall_sublist]
    intro d e pair
    have first := index_of_mem_reportsAt (pair.subset (by simp : d ∈ [d, e]))
    have second := index_of_mem_reportsAt (pair.subset (by simp : e ∈ [d, e]))
    omega
  · refine List.pairwise_lt_range.imp ?_
    intro i j before d first e second
    rw [index_of_mem_reportsAt first, index_of_mem_reportsAt second]
    exact Nat.le_of_lt before

end LogTemplate.Library
