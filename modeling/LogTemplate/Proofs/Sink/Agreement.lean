import LogTemplate.Proofs.Sink.Fidelity
import LogTemplate.Proofs.Sink.Question

/-!
# Sinks of both kinds, asked the same

Main statement: a file of lines and a table to which the same entries have been written give the
same records to every question but one: asked for the entries without a UUID, the table gives none.
-/

namespace LogTemplate.Sink.Session

variable {s s' : Session} {name : String} {place : List String} {d : Database}
  {entries : List Entry}

/-- A sink whose table holds entries gives those that have what is asked for, unless nothing is
asked for, and none if a half stands alone in what is. -/
theorem IsReady.query_filter [Nesting] {t : TableSink} {c : Connection} {table : Table}
    (ready : s.IsReady name place t c d table) (whole : ∀ e ∈ entries, e.IsWhole)
    (ascending : entries.Pairwise fun e f => e.number < f.number)
    (holds : table.rows.map Row.entryCells = entries.map entryCells) (q : Question) :
    (q.IsWhole → (s.query name q.filter).2 =
      .ok ((entries.filter fun e => q.uuid != some none && q.admits e).map
        fun e => e.inOrder.document))
      ∧ (¬ q.IsWhole → ∃ e, (s.query name q.filter).2 = .error e) := by
  have made := ready.opened.others.made
  have sound := (made.tables table (Database.mem_of_table? ready.found)).sound
  obtain ⟨wanted, refused⟩ := q.wantedOf_filter
  obtain ⟨-, outcome⟩ :=
    (ready.withConnection (some c)).lookUp_eq q.filter.uuid q.wanted.matched
  rw [query, ready.opened.bound]
  simp only [queryRows, q.mapM_integerOf_filter]
  constructor
  · intro asked
    have found : recordsIn d t.table q.wanted =
        .ok ((entries.filter fun e => q.uuid != some none && q.admits e).map
          fun e => e.inOrder.document) := by
      rw [recordsIn, ready.found, Question.select_wanted made ready.found ascending holds asked]
      simp only [Option.any_some, sound, Bool.false_eq_true, if_false]
      exact recordsOf_entryCells fun e member =>
        (whole e (List.mem_of_mem_filter member)).isStorable
    rw [wanted asked] at outcome
    exact outcome.trans found
  · intro broken
    obtain ⟨e, failed⟩ := refused broken
    rw [failed] at outcome
    exact outcome

theorem fits_of_isNumbered {e : Entry} (numbered : IsNumbered e.document) :
    fits e.number = true := by
  obtain ⟨n, number, fit⟩ := numbered.number
  obtain rfl : e.number = n := Option.some.inj number
  exact fit

/-- A table that tracks entries gives those that have what is asked for, unless nothing is asked
for, and none if a half stands alone in what is. -/
theorem query_filter_of_tracks [Nesting] {table : String} (whole : ∀ e ∈ entries, e.IsWhole)
    (tracks : s.Tracks place table (entries.map Entry.document))
    (ascending : entries.Pairwise fun e f => e.number < f.number)
    (apart : ∀ e ∈ entries, ∀ f ∈ entries, e.hash = f.hash → e.hashText = f.hashText)
    (isOpen : s.IsOpenAt name place table) (q : Question) :
    (∀ e ∈ entries, fits e.number = true)
      ∧ (q.IsWhole → (s.query name q.filter).2 =
        .ok ((entries.filter fun e => q.uuid != some none && q.admits e).map
          fun e => e.inOrder.document))
      ∧ (¬ q.IsWhole → ∃ e, (s.query name q.filter).2 = .error e) := by
  obtain ⟨d, quiet, holds, numbered⟩ := tracks
  obtain ⟨t, c, found, ready, -, there⟩ := quiet.isReady isOpen
  have fit : ∀ e ∈ entries, fits e.number = true := fun e member =>
    fits_of_isNumbered (numbered _ (List.mem_map_of_mem member))
  have rows : found.rows.map Row.entryCells = entries.map entryCells := by
    rw [Database.tableOr_of_table? there] at holds
    have storable := fun e member => (whole e member).isStorable
    rw [holds.rows, firstOccurrences_eq_self (nodup_hash? fit storable ascending apart),
      List.map_map]
    exact List.map_congr_left fun e member =>
      storedCells_document (fit e member) (whole e member).toIsBindable
  exact ⟨fit, ready.query_filter whole ascending rows q⟩

/-- Two sinks give the same records to a filter, in the same order. -/
def AnswerAlike [Nesting] (s : Session) (name : String) (t : Session) (reader : String)
    (f : JsonLines.Filter) : Prop :=
  ∃ shown found, (s.query name f).2 = .ok shown ∧ (t.query reader f).2 = .ok found
    ∧ found.Forall₂ Document.IsSameEntry shown

theorem answerAlike_iff [Nesting] {t : Session} {reader : String} {f : JsonLines.Filter}
    {shown found : List Document} (lines : (s.query name f).2 = .ok shown)
    (table : (t.query reader f).2 = .ok found) :
    AnswerAlike s name t reader f ↔ found.Forall₂ Document.IsSameEntry shown := by
  constructor
  · rintro ⟨shown', found', lines', table', alike⟩
    rw [lines] at lines'
    rw [table] at table'
    cases lines'
    cases table'
    exact alike
  · exact fun alike => ⟨shown, found, lines, table, alike⟩

/-- The same entries, in which no half stands alone, are written to a file of lines, and to a table
that is new or has been emptied before: both give those that have what is asked for, in their order,
but the table gives none if it is asked for those without a UUID, and fails if a half stands alone
in the UUID that it is asked for.  So the two answer alike exactly unless there are entries without
a UUID and they are asked for, or such a half is. -/
theorem sinks_answer_alike [Nesting] (whole : ∀ e ∈ entries, e.IsWhole)
    (ascending : entries.Pairwise fun e f => e.number < f.number)
    (apart : ∀ e ∈ entries, ∀ f ∈ entries, e.hash = f.hash → e.hashText = f.hashText)
    {sink : LineSink} (free : sink.HoldsNothing) (made : s.get? name = some (.lines sink))
    (opened : s.connect name = (s', .ok ()))
    {batches : List (List Document)} (cut : batches.flatten = entries.map Entry.document)
    {w : Workspace} (new : HoldsDatabase w place {}) {table reader : String} {steps : List Step}
    {t : Session} (run : Run place table { workspace := w } steps t)
    (same : written steps = entries.map Entry.document) (isOpen : t.IsOpenAt reader place table) :
    ∃ last, s'.writeAll name batches = (last, .ok ())
      ∧ ∀ q : Question,
        (last.query name q.filter).2 = .ok ((entries.filter q.admits).map Entry.document)
        ∧ (q.IsWhole → (t.query reader q.filter).2 =
          .ok (if q.uuid = some none then []
            else (entries.filter q.admits).map fun e => e.inOrder.document))
        ∧ (¬ q.IsWhole → ∃ e, (t.query reader q.filter).2 = .error e)
        ∧ (AnswerAlike last name t reader q.filter ↔
          q.IsWhole ∧ (q.uuid = some none → entries.filter q.admits = [])) := by
  have tracks : t.Tracks place table (entries.map Entry.document) :=
    same ▸ tracks_run run (tracks_new new)
  have documents : ∀ d ∈ batches.flatten, d.isWhole = true := by
    rw [cut]
    exact Entry.forall_isWhole_document_iff.mpr whole
  obtain ⟨last, -, all, look, -⟩ := lines_keep_text free made opened documents
  refine ⟨last, all, fun q => ?_⟩
  obtain ⟨fit, found, failed⟩ := query_filter_of_tracks whole tracks ascending apart isOpen q
  have shown : (last.query name q.filter).2 =
      .ok ((entries.filter q.admits).map Entry.document) := by
    rw [look, cut]
    exact q.query_lines fit whole
  by_cases asked : q.IsWhole
  case neg =>
    obtain ⟨e, refused⟩ := failed asked
    refine ⟨shown, fun asked' => absurd asked' asked, fun _ => ⟨e, refused⟩,
      iff_of_false ?_ fun asked' => asked asked'.1⟩
    rintro ⟨_, _, -, given, -⟩
    cases refused.symm.trans given
  have found := found asked
  rw [and_iff_right asked]
  refine ⟨shown, ?_⟩
  rw [imp_iff_right asked]
  by_cases nothing : q.uuid = some none
  · simp only [nothing, bne_self_eq_false, Bool.false_and, List.filter_false, List.map_nil] at found
    rw [if_pos nothing, answerAlike_iff shown found, List.forall₂_nil_left_iff,
      List.map_eq_nil_iff]
    exact ⟨found, absurd asked, (imp_iff_right nothing).symm⟩
  · have something : (q.uuid != some none) = true := bne_iff_ne.mpr nothing
    simp only [something, Bool.true_and] at found
    rw [if_neg nothing, answerAlike_iff shown found]
    refine ⟨found, absurd asked, iff_of_true ?_ fun null => absurd null nothing⟩
    rw [List.forall₂_map_left_iff, List.forall₂_map_right_iff, List.forall₂_same]
    exact fun e _ => Entry.isSameEntry_inOrder e

/-- The entry of a line that nothing matches. -/
def strayEntry : Entry := ⟨1, "id", none⟩

theorem isWhole_strayEntry : ∀ e ∈ [strayEntry], e.IsWhole :=
  List.forall_mem_singleton.mpr (Entry.isWhole_unmatched 1 "id")

theorem document_strayEntry : strayEntry.document = unmatchedAt 1 "id"
    "eeffce67dcc19c983157439cee25c528cf9504fa5106d859029ef08941db29d0" := by
  have hash : strayEntry.hash =
      ("eeffce67dcc19c983157439cee25c528cf9504fa5106d859029ef08941db29d0" : Text) := by
    rw [strayEntry, Entry.hash_eq, Entry.hashText_unmatched]
    decide +kernel
  rw [Entry.document_eq, hash]
  rfl

/-- What has been done with a table to which that entry has been written. -/
def straySteps : List Step := [.open "a" newSink, .write "a" [strayEntry.document]]

theorem run_straySteps :
    letI := Nesting.usual
    Run ["", "x.db"] "results" {} straySteps (takeAll {} straySteps)
      ∧ (takeAll {} straySteps).IsOpenAt "a" ["", "x.db"] "results" := by
  let := Nesting.usual
  have numbered : IsNumbered strayEntry.document := ⟨rfl, 1, rfl, rfl⟩
  rw [straySteps, document_strayEntry] at *
  refine ⟨?_, by decide +kernel⟩
  exact .cons (.open leadsTo_newSink (by decide) (eq_of_isOk (by decide +kernel)))
    (.cons (.write (by decide +kernel) (by simp [numbered]) (eq_of_isOk (by decide +kernel))) .nil)

theorem apart_strayEntry :
    ∀ e ∈ [strayEntry], ∀ f ∈ [strayEntry], e.hash = f.hash → e.hashText = f.hashText := by
  intro e first f second _
  rw [List.mem_singleton.mp first, List.mem_singleton.mp second]

/-- Both find the entry among those that are not matched. -/
theorem sinks_answer_alike_stray :
    letI := Nesting.usual
    ∃ s' last,
      (Session.bind {} "a" (.lines { path := .ofText "x.jsonl" })).connect "a" = (s', .ok ())
      ∧ s'.writeAll "a" [[strayEntry.document]] = (last, .ok ())
      ∧ Run ["", "x.db"] "results" {} straySteps (takeAll {} straySteps)
      ∧ (last.query "a" ⟨none, some (.bool false)⟩).2 = .ok [strayEntry.document]
      ∧ AnswerAlike last "a" (takeAll {} straySteps) "a" ⟨none, some (.bool false)⟩ := by
  let := Nesting.usual
  have opened := eq_of_isOk (x := (Session.bind {} "a"
    (.lines { path := .ofText "x.jsonl" })).connect "a") (by decide +kernel)
  obtain ⟨run, isOpen⟩ := run_straySteps
  have cut : [[strayEntry.document]].flatten = [strayEntry].map Entry.document := rfl
  obtain ⟨last, all, answers⟩ := sinks_answer_alike isWhole_strayEntry
    (List.pairwise_singleton _ strayEntry) apart_strayEntry (LineSink.holdsNothing_new _)
    get?_bind_self opened cut holdsDatabase_new run rfl isOpen
  obtain ⟨shown, -, -, alike⟩ := answers { matched := some false }
  exact ⟨_, last, opened, all, run, shown, alike.mpr ⟨nofun, nofun⟩⟩

/-- Asked for the entries without a UUID, the file of lines gives the entry, and the table does not.
-/
theorem not_answerAlike_stray :
    letI := Nesting.usual
    ∃ s' last,
      (Session.bind {} "a" (.lines { path := .ofText "x.jsonl" })).connect "a" = (s', .ok ())
      ∧ s'.writeAll "a" [[strayEntry.document]] = (last, .ok ())
      ∧ Run ["", "x.db"] "results" {} straySteps (takeAll {} straySteps)
      ∧ (last.query "a" ⟨some .null, none⟩).2 = .ok [strayEntry.document]
      ∧ ((takeAll {} straySteps).query "a" ⟨some .null, none⟩).2 = .ok []
      ∧ ¬ AnswerAlike last "a" (takeAll {} straySteps) "a" ⟨some .null, none⟩ := by
  let := Nesting.usual
  have opened := eq_of_isOk (x := (Session.bind {} "a"
    (.lines { path := .ofText "x.jsonl" })).connect "a") (by decide +kernel)
  obtain ⟨run, isOpen⟩ := run_straySteps
  have tracks : (takeAll {} straySteps).Tracks ["", "x.db"] "results"
      ([strayEntry].map Entry.document) := tracks_run run (tracks_new holdsDatabase_new)
  obtain ⟨fit, found, -⟩ := query_filter_of_tracks isWhole_strayEntry tracks
    (List.pairwise_singleton _ strayEntry) apart_strayEntry isOpen { uuid := some none }
  have found := found fun _ asked => by
    obtain rfl := Option.some.inj asked
    exact nofun
  have documents : ∀ d ∈ [[strayEntry.document]].flatten, d.isWhole = true :=
    Entry.forall_isWhole_document_iff.mpr isWhole_strayEntry
  obtain ⟨last, -, all, look, -⟩ := lines_keep_text (LineSink.holdsNothing_new _) get?_bind_self
    opened documents
  have shown : (last.query "a" ⟨some .null, none⟩).2 = .ok [strayEntry.document] := by
    rw [look]
    exact Question.query_lines fit isWhole_strayEntry { uuid := some none }
  refine ⟨_, last, opened, all, run, shown, found, fun alike => ?_⟩
  have none := (answerAlike_iff shown found).mp alike
  cases none

end LogTemplate.Sink.Session
