import Mathlib.Data.List.Permutation
import LogTemplate.Proofs.Sink.Listed
import LogTemplate.Proofs.Sink.Look

/-!
# Runs of sinks on one table

Sinks of a table are opened, written to, queried and closed, one after the other or side by side.
Main statement: after each step the table holds the first occurrences of the records that were
written since it was last emptied, and a query lists them by their line numbers.
-/

namespace LogTemplate.Sink

open Definition (sameName)

namespace Session

variable {s s' : Session} {name table : String} {place : List String} {d : Database}
  {t : TableSink} {c : Connection}

/-! ## Sinks that are all at rest -/

/-- A file holds a database that sinks have made, and all sinks are at rest there. -/
structure IsQuiet (s : Session) (place : List String) (d : Database) : Prop where
  made : d.IsMade
  holds : HoldsDatabase s.workspace place d
  distinct : (s.sinks.map Prod.fst).Nodup
  rest : ∀ name sink, (name, sink) ∈ s.sinks → Rests place d sink

theorem IsQuiet.others (quiet : s.IsQuiet place d) (name : String) :
    s.OthersRest name place d :=
  ⟨quiet.made, quiet.holds, quiet.distinct, fun other sink member _ => quiet.rest other sink member⟩

/-- All sinks are at rest once the one that was not is. -/
theorem OthersRest.isQuiet (others : s.OthersRest name place d)
    (own : ∀ sink, s.get? name = some sink → Rests place d sink) : s.IsQuiet place d where
  made := others.made
  holds := others.holds
  distinct := others.distinct
  rest := fun other sink member => by
    by_cases same : other = name
    · exact own sink (same ▸ (OrderedMap.lookup_eq_some_iff others.distinct).mpr member)
    · exact others.rest other sink member same

theorem HasOpen.isQuiet (opened : s.HasOpen name place t c d)
    (word : TableName.isReservedWord t.table = false) (isThere : (d.table? t.table).isSome) :
    s.IsQuiet place d :=
  opened.others.isQuiet fun sink bound => by
    rw [opened.bound] at bound
    cases bound
    intro own connected _
    obtain rfl := Option.some.inj connected
    exact ⟨opened.rests.knows, opened.rests.idle, word, isThere⟩

/-- The sink of a name has a table of the file at a place open. -/
def IsOpenAt (s : Session) (name : String) (place : List String) (table : String) : Prop :=
  ∃ t c, s.get? name = some (.table t) ∧ t.connection = some c ∧ c.store = .file place
    ∧ sameName t.table table = true

theorem isOpenAt_iff : s.IsOpenAt name place table ↔ (s.connection? name).any (fun (t, c) =>
    c.store.isSame (.file place) && sameName t.table table) = true := by
  rw [Option.any_eq_true]
  constructor
  · rintro ⟨t, c, bound, connected, here, same⟩
    refine ⟨(t, c), connection?_eq_some_iff.mpr ⟨bound, connected⟩, ?_⟩
    simp [here, Store.isSame, same]
  · rintro ⟨⟨t, c⟩, found, same⟩
    rw [Bool.and_eq_true] at same
    obtain ⟨bound, connected⟩ := connection?_eq_some_iff.mp found
    exact ⟨t, c, bound, connected, eq_of_isSame_file same.1, same.2⟩

instance : Decidable (s.IsOpenAt name place table) := decidable_of_iff _ isOpenAt_iff.symm

/-- A sink that has a table open is ready to be used. -/
theorem IsQuiet.isReady (quiet : s.IsQuiet place d) (isOpen : s.IsOpenAt name place table) :
    ∃ t c found, s.IsReady name place t c d found ∧ sameName t.table table = true
      ∧ d.table? table = some found := by
  obtain ⟨t, c, bound, connected, here, same⟩ := isOpen
  have member := (OrderedMap.lookup_eq_some_iff quiet.distinct).mp bound
  have rests := quiet.rest name _ member c connected here
  obtain ⟨found, there⟩ := Option.isSome_iff_exists.mp rests.isThere
  refine ⟨t, c, found, ⟨⟨quiet.others name, ?_, here, rests.knows, rests.idle⟩,
    rests.isReservedWord, there⟩, same, (Database.table?_congr same).symm.trans there⟩
  rw [bound, ← connected]

/-- A sink that is at rest leaves nothing behind when it is closed. -/
theorem IsQuiet.close (quiet : s.IsQuiet place d) (isOpen : s.IsOpenAt name place table) :
    ∃ s', s.close name = (s', .ok ()) ∧ s'.IsQuiet place d := by
  obtain ⟨t, c, found, ready, -⟩ := quiet.isReady isOpen
  have idle := ready.opened.rests.idle
  have left : s.leave name = s := by
    rw [leave, ready.opened.connection?_eq]
    simp only [release, wake, idle.snapshot, idle.pending, dropLog, ready.opened.rests.here,
      ready.opened.rests.knows.usesLog]
    rfl
  rw [Session.close, ready.opened.bound, left]
  have others := (quiet.others name).bind (shut (.table { t with connection := some c }))
  have closed : OthersRest (dropUnused (s.bind name (shut (.table
      { t with connection := some c })))) name place d :=
    ⟨others.made, others.holds, others.distinct, others.rest⟩
  refine ⟨_, rfl, closed.isQuiet fun sink bound => ?_⟩
  have own : sink = shut (.table { t with connection := some c }) :=
    Option.some.inj (bound.symm.trans get?_bind_self)
  rw [own]
  intro _ connected
  cases connected

/-! ## Steps -/

/-- The records that count after a step, where some did before: those that were written since the
table was emptied. -/
def Step.written (records : List Document) : Step → List Document
  | .open _ sink => if sink.empties then [] else records
  | .write _ more => records ++ more
  | .query _ _ | .close _ => records

/-- The records that were written since the table was last emptied. -/
def written (steps : List Step) : List Document := steps.foldl Step.written []

/-- A step is taken, and succeeds, with a sink of a table of the database in the file at a place. -/
inductive Takes [Nesting] (place : List String) (table : String) : Session → Step → Session → Prop
  | open {s s' : Session} {name : String} {sink : TableSink}
      (leads : sink.LeadsTo s.workspace.home place)
      (same : sameName sink.table table = true)
      (opened : (s.bind name (.table sink)).connect name = (s', .ok ())) :
      Takes place table s (.open name sink) s'
  | write {s s' : Session} {name : String} {records : List Document}
      (isOpen : s.IsOpenAt name place table)
      (numbered : ∀ record ∈ records, IsNumbered record)
      (written : s.write name records = (s', .ok ())) :
      Takes place table s (.write name records) s'
  | query {s : Session} {name : String} {filter : JsonLines.Filter}
      (isOpen : s.IsOpenAt name place table) :
      Takes place table s (.query name filter) (s.query name filter).1
  | close {s s' : Session} {name : String}
      (isOpen : s.IsOpenAt name place table)
      (closed : s.close name = (s', .ok ())) :
      Takes place table s (.close name) s'

/-- One step is taken after the other. -/
inductive Run [Nesting] (place : List String) (table : String) :
    Session → List Step → Session → Prop
  | nil {s : Session} : Run place table s [] s
  | cons {s s₁ s' : Session} {step : Step} {steps : List Step}
      (first : Takes place table s step s₁) (rest : Run place table s₁ steps s') :
      Run place table s (step :: steps) s'

/-- All sinks are at rest, and a table of the database in the file at a place holds the first
occurrences of some records. -/
def Tracks (s : Session) (place : List String) (table : String) (records : List Document) : Prop :=
  ∃ d, s.IsQuiet place d ∧ (d.tableOr table).Holds records
    ∧ ∀ record ∈ records, IsNumbered record

theorem rows_tableOr_congr {own : String} (same : sameName own table = true) :
    (d.tableOr own).rows = (d.tableOr table).rows := by
  rw [Database.tableOr, Database.tableOr, Database.table?_congr same]
  cases d.table? table <;> rfl

/-- A step keeps the first occurrences of the records that count after it. -/
theorem tracks_step [Nesting] {records : List Document} {step : Step}
    (taken : Takes place table s step s') (tracks : s.Tracks place table records) :
    s'.Tracks place table (step.written records) := by
  obtain ⟨d, quiet, holds, numbered⟩ := tracks
  cases taken with
  | @«open» _ name sink leads same opened =>
    have others := (quiet.others name).bind (.table sink)
    obtain ⟨free, next, c, has, serves, -, stands⟩ :=
      connect_ok (s := s.bind name (.table sink)) leads others get?_bind_self opened
    have word := isReservedWord_eq_false free
    have rows := rows_tableOr_congr (d := d) same
    rw [Database.table?_congr same] at stands
    refine ⟨next, has.isQuiet word serves.isThere, ?_, ?_⟩
    · rw [Database.tableOr_of_table? stands, Step.written]
      split
      · exact Table.holds_emptied _
      · exact ⟨rows ▸ holds.rows, holds.bound, holds.hashed⟩
    · rw [Step.written]
      split
      · exact fun _ member => absurd member (by simp)
      · exact numbered
  | @write _ name more isOpen numbered' wrote =>
    obtain ⟨t, c, found, ready, same, there⟩ := quiet.isReady isOpen
    have added := ready.write_ok wrote
    obtain ⟨next, c', has, -, stands, -⟩ := added.opened
    rw [Database.tableOr_of_table? there] at holds
    refine ⟨next, has.isQuiet ready.isReservedWord (by rw [stands]; rfl), ?_, ?_⟩
    · rw [Database.table?_congr same] at stands
      rw [Database.tableOr_of_table? stands]
      exact Table.holds_keepAll holds added.bound fun record member =>
        (numbered' record member).hash
    · exact fun record member => (List.mem_append.mp member).elim (numbered record)
        (numbered' record)
  | @query name filter isOpen =>
    obtain ⟨t, c, found, ready, -⟩ := quiet.isReady isOpen
    obtain ⟨c', has, -⟩ := ready.hasOpen_query filter
    exact ⟨d, has.isQuiet ready.isReservedWord (by rw [ready.found]; rfl), holds, numbered⟩
  | @close _ name isOpen closed =>
    obtain ⟨next, done, quiet'⟩ := quiet.close isOpen
    obtain ⟨rfl, -⟩ := Prod.mk.inj (done.symm.trans closed)
    exact ⟨d, quiet', holds, numbered⟩

theorem tracks_run [Nesting] {records : List Document} {steps : List Step}
    (run : Run place table s steps s')
    (tracks : s.Tracks place table records) :
    s'.Tracks place table (steps.foldl Step.written records) := by
  induction run generalizing records with
  | nil => exact tracks
  | cons first rest ih => exact ih (tracks_step first tracks)

/-! ## What is seen of a table -/

/-- The cells of the entries in a table of the database in the file at a place. -/
def entriesAt (s : Session) (place : List String) (table : String) : List (List Cell) :=
  match s.workspace.node? place with
  | some (.file content) =>
    ((databaseOf content).toOption.map fun d => (d.tableOr table).rows.map Row.entryCells).getD []
  | _ => []

theorem entriesAt_eq (holds : HoldsDatabase s.workspace place d) :
    s.entriesAt place table = (d.tableOr table).rows.map Row.entryCells := by
  rw [entriesAt]
  split
  · rename_i content file
    rw [holds.databaseOf file]
    rfl
  · rename_i none
    rcases holds.file with file | ⟨file | file, rfl⟩
    · exact absurd file (none _)
    · exact absurd file (none _)
    · rfl

/-- Some records are listed by their line numbers, those of one line in their order. -/
structure IsListing (listed records : List Document) : Prop where
  perm : listed.Perm records
  ascending : listed.Pairwise fun a b =>
    ∀ m n, lineNumber? a = some m → lineNumber? b = some n → m ≤ n
  stable : ∀ n, listed.filter (lineNumber? · == some n) = records.filter (lineNumber? · == some n)

/-- The line number of a record, where it has one. -/
def lineOf (record : Document) : Int := (lineNumber? record).getD 0

/-- Whether the line number of a record is up to that of another one. -/
def isUpTo (a b : Document) : Bool := lineOf a ≤ lineOf b

theorem isListing_mergeSort {records : List Document} :
    IsListing (records.mergeSort isUpTo) records := by
  have trans : ∀ a b c : Document, isUpTo a b = true → isUpTo b c = true → isUpTo a c = true := by
    simp only [isUpTo, decide_eq_true_eq]
    exact fun _ _ _ => Int.le_trans
  have total : ∀ a b : Document, (isUpTo a b || isUpTo b a) = true := by
    intro a b
    simpa [isUpTo] using Int.le_total (lineOf a) (lineOf b)
  refine ⟨List.mergeSort_perm records isUpTo, ?_, ?_⟩
  · refine (List.pairwise_mergeSort trans total records).imp fun {a b} upTo m n first second => ?_
    simpa [isUpTo, lineOf, first, second] using upTo
  · intro n
    have alike : (records.filter (lineNumber? · == some n)).Pairwise fun a b => isUpTo a b := by
      refine List.pairwise_of_forall_mem_list fun a first b second => ?_
      have first' := (List.mem_filter.mp first).2
      have second' := (List.mem_filter.mp second).2
      rw [beq_iff_eq] at first' second'
      simp [isUpTo, lineOf, first', second']
    have kept := (List.sublist_mergeSort trans total alike (List.filter_sublist)).filter
      (lineNumber? · == some n)
    simp only [List.filter_filter, Bool.and_self] at kept
    exact (kept.eq_of_length ((List.mergeSort_perm records isUpTo).filter _).length_eq.symm).symm

/-- Rows are ordered as the records are for which they stand. -/
theorem mergeSort_storedCells {records : List Document}
    (bound : ∀ record ∈ records, IsBound record)
    (numbered : ∀ record ∈ records, IsNumbered record) :
    (records.map storedCells).mergeSort (Wanted.isUpToLine .utf8 .binary) =
      (records.mergeSort isUpTo).map storedCells := by
  have first : ∀ record ∈ records, (storedCells record).headD .null = .integer (lineOf record) := by
    intro record member
    obtain ⟨n, number, -⟩ := (numbered record member).number
    have cell := getElem?_storedCells_number (bound record member) number
    rw [← List.head?_eq_getElem?] at cell
    rw [List.headD_eq_head?_getD, cell, lineOf, number]
    rfl
  refine (List.map_mergeSort fun a inside b inside' => ?_).symm
  rw [Wanted.isUpToLine, first a inside, first b inside', isUpTo, Cell.compare, Bool.eq_iff_iff,
    decide_eq_true_eq, bne_iff_ne]
  exact Int.isLE_compare.symm.trans Ordering.isLE_iff_ne_gt

/-! ## Runs -/

/-- Whether a step empties the table. -/
def Step.empties : Step → Bool
  | .open _ sink => sink.empties
  | .write .. | .query .. | .close _ => false

/-- Steps that do not empty a table add what they write. -/
theorem foldl_written {steps : List Step} {records : List Document}
    (keep : ∀ step ∈ steps, step.empties = false) :
    steps.foldl Step.written records = records ++ steps.flatMap Step.records := by
  induction steps generalizing records with
  | nil => simp
  | cons step steps ih =>
    have first := keep step List.mem_cons_self
    rw [List.foldl_cons, ih fun other member => keep other (List.mem_cons_of_mem step member),
      List.flatMap_cons, ← List.append_assoc]
    congr 1
    cases step <;> simp_all [Step.written, Step.records, Step.empties]

/-- A table tracks the records that are written to it from the time when its file is new. -/
theorem tracks_new {w : Workspace} (new : HoldsDatabase w place {}) :
    Tracks { workspace := w } place table [] :=
  ⟨{}, ⟨Database.isMade_empty, new, List.nodup_nil, fun _ _ member => absurd member (by simp)⟩,
    Table.holds_emptied { name := table }, fun _ member => absurd member (by simp)⟩

theorem entriesAt_of_tracks {records : List Document} (tracks : s.Tracks place table records) :
    s.entriesAt place table = (firstOccurrences records).map storedCells := by
  obtain ⟨d, quiet, holds, -⟩ := tracks
  rw [entriesAt_eq quiet.holds, holds.rows]

/-- A query lists the first occurrences of the records that a table tracks, and gives each of them
back. -/
theorem query_of_tracks [Nesting] {records : List Document} (tracks : s.Tracks place table records)
    (isOpen : s.IsOpenAt name place table) :
    ∃ listed, IsListing listed (firstOccurrences records)
      ∧ (s.query name {}).2 = recordsOf (listed.map storedCells)
      ∧ ((∀ record ∈ listed, KeepsTexts record) → ∃ shown,
          (s.query name {}).2 = .ok shown ∧ listed.Forall₂ IsListedAs shown) := by
  obtain ⟨d, quiet, holds, numbered⟩ := tracks
  obtain ⟨t, c, found, ready, -, there⟩ := quiet.isReady isOpen
  rw [Database.tableOr_of_table? there] at holds
  have bound : ∀ record ∈ firstOccurrences records, IsBound record :=
    fun record member => holds.bound record (mem_of_mem_firstOccurrences member)
  have numbered : ∀ record ∈ firstOccurrences records, IsNumbered record :=
    fun record member => numbered record (mem_of_mem_firstOccurrences member)
  have found : (s.query name {}).2 =
      recordsOf (((firstOccurrences records).mergeSort isUpTo).map storedCells) := by
    rw [ready.query_empty, holds.rows, mergeSort_storedCells bound numbered]
  refine ⟨_, isListing_mergeSort, found, fun keeps => ?_⟩
  rw [found]
  exact exists_recordsOf (fun record member => bound record (List.mem_mergeSort.mp member))
    (fun record member => numbered record (List.mem_mergeSort.mp member)) keeps

/-- After every run that starts with a new file a table holds the first occurrences of the records
that were written since it was last emptied, and a query lists them by their line numbers, each as
it was written unless something of it is lost in texts.  What has been written already changes
nothing, and neither does it how records are cut into batches. -/
theorem run_keeps_firstOccurrences [Nesting] {w : Workspace} (new : HoldsDatabase w place {})
    {steps : List Step} (run : Run place table { workspace := w } steps s') :
    s'.entriesAt place table = (firstOccurrences (written steps)).map storedCells
      ∧ (∀ name, s'.IsOpenAt name place table → ∃ listed,
          IsListing listed (firstOccurrences (written steps))
            ∧ (s'.query name {}).2 = recordsOf (listed.map storedCells)
            ∧ ((∀ record ∈ listed, KeepsTexts record) → ∃ shown,
                (s'.query name {}).2 = .ok shown ∧ listed.Forall₂ IsListedAs shown))
      ∧ (∀ more s'', Run place table s' more s'' → (∀ step ∈ more, step.empties = false) →
          (∀ record ∈ more.flatMap Step.records, hash? record ∈ (written steps).map hash?) →
          s''.entriesAt place table = s'.entriesAt place table)
      ∧ ∀ w' others s'', HoldsDatabase w' place {} →
          Run place table { workspace := w' } others s'' → written others = written steps →
          s''.entriesAt place table = s'.entriesAt place table := by
  have tracks : s'.Tracks place table (written steps) := tracks_run run (tracks_new new)
  have entries := entriesAt_of_tracks tracks
  refine ⟨entries, fun name isOpen => query_of_tracks tracks isOpen, ?_, ?_⟩
  · intro more s'' later keep known
    have again := entriesAt_of_tracks (tracks_run later tracks)
    rw [foldl_written keep, firstOccurrences_append_of_known known] at again
    exact again.trans entries.symm
  · intro w' others s'' new' other same
    have tracks' : s''.Tracks place table (written others) := tracks_run other (tracks_new new')
    rw [entriesAt_of_tracks tracks', same, entries]

/-- A sink of a table in a new file. -/
def newSink : TableSink := { path := some "x.db", table := "results", empties := true }

theorem holdsDatabase_new : HoldsDatabase {} ["", "x.db"] {} :=
  ⟨.inr ⟨.inr rfl, rfl⟩, fun b => by cases b <;> rfl⟩

theorem leadsTo_newSink : newSink.LeadsTo (Workspace.home {}) ["", "x.db"] :=
  ⟨⟨_, rfl, by decide +kernel⟩, rfl⟩

/-- The record of a line that nothing matches. -/
def unmatchedAt (number : Int) (line hash : String) : Document :=
  .mapping [("line_number", .int number), ("line", .text line), ("matched", .bool false),
    ("uuid", .null), ("name", .null), ("values", .mapping []), ("tags", .list []),
    ("content_hash", .text hash)]

/-- The record of a first line that nothing matches. -/
def unmatched : Document := unmatchedAt 1 "id" "0f"

theorem keepsTexts_unmatchedAt [Nesting] (number : Int) (line hash : String) :
    KeepsTexts (unmatchedAt number line hash) where
  values := fun _ has => Option.some.inj has ▸ Entry.isKept_ofTexts .empty
  tags := fun _ has =>
    Option.some.inj has ▸ ⟨Entry.isKept_ofTags {}, fun _ => List.forall_mem_nil _⟩

/-- A record that is written three times, in two batches, stands in the table once, and a query
lists it before that of a later line which was written first. -/
theorem run_keeps_firstOccurrences_repeated :
    letI := Nesting.usual
    ∃ s', Run ["", "x.db"] "results" {} [.open "a" newSink,
        .write "a" [unmatchedAt 2 "od" "1e", unmatched], .write "a" [unmatched, unmatched]] s'
      ∧ s'.entriesAt ["", "x.db"] "results" =
        [storedCells (unmatchedAt 2 "od" "1e"), storedCells unmatched]
      ∧ ∃ shown, (s'.query "a" {}).2 = .ok shown
        ∧ [unmatched, unmatchedAt 2 "od" "1e"].Forall₂ IsListedAs shown := by
  let := Nesting.usual
  have first : IsNumbered unmatched := ⟨rfl, 1, rfl, rfl⟩
  have second : IsNumbered (unmatchedAt 2 "od" "1e") := ⟨rfl, 2, rfl, rfl⟩
  have run : Run ["", "x.db"] "results" {} [.open "a" newSink,
      .write "a" [unmatchedAt 2 "od" "1e", unmatched], .write "a" [unmatched, unmatched]] _ :=
    .cons (.open leadsTo_newSink (by decide) (eq_of_isOk (by decide +kernel)))
      (.cons (.write (by decide +kernel) (by simp [first, second])
        (eq_of_isOk (by decide +kernel)))
        (.cons (.write (by decide +kernel) (by simp [first]) (eq_of_isOk (by decide +kernel)))
          .nil))
  obtain ⟨entries, lists, -⟩ := run_keeps_firstOccurrences holdsDatabase_new run
  obtain ⟨listed, isListing, -, shows⟩ := lists "a" (by decide +kernel)
  obtain rfl : listed = [unmatched, unmatchedAt 2 "od" "1e"] := by
    have swapped : listed.Perm [unmatched, unmatchedAt 2 "od" "1e"] :=
      isListing.perm.trans (.swap _ _ [])
    refine (List.perm_pair.mp swapped).resolve_right ?_
    rintro rfl
    exact absurd (List.rel_of_pairwise_cons isListing.ascending List.mem_cons_self 2 1 rfl rfl)
      (by decide)
  refine ⟨_, run, entries, shows ?_⟩
  simp only [List.forall_mem_cons, List.not_mem_nil, false_implies, implies_true, and_true]
  exact ⟨keepsTexts_unmatchedAt _ _ _, keepsTexts_unmatchedAt _ _ _⟩

end Session

end LogTemplate.Sink
