import LogTemplate.Library.Load
import LogTemplate.Proofs.Sink.EntryRow
import LogTemplate.Proofs.Sink.Lines
import LogTemplate.Proofs.Sink.Reopen
import LogTemplate.Proofs.Sink.Run
import LogTemplate.Proofs.Sink.Sound

/-!
# What goes into a sink comes out of it

Main statement: whichever sink is made for a path, whatever earlier sinks have left there, and
however the entries of lines are cut into batches, a query gives these entries in their order, also
once the sink is closed and another one is asked that has its path.
-/

namespace LogTemplate

/-- Records that have the same members, but that their values may stand in another order. -/
structure Document.IsSameEntry (d record : Document) : Prop where
  members : ∀ key : Text, key ≠ "values" → d.get? key = record.get? key
  values : ∃ m n : OrderedMap Text, d.get? "values" = some (.ofTexts m)
    ∧ record.get? "values" = some (.ofTexts n) ∧ m.agrees n = true

namespace Entry

theorem isSameEntry_document (e : Entry) : e.document.IsSameEntry e.document :=
  ⟨fun _ _ => rfl, e.values, e.values, rfl, rfl, OrderedMap.agrees_iff.mpr fun _ => rfl⟩

theorem get?_document_of_ne (e : Entry) {key : Text} (other : key ≠ "values") :
    e.document.get? key = OrderedMap.lookup key
      [("line_number", .int e.number), ("line", .text e.line), ("matched", .bool e.found.isSome),
        ("uuid", Document.ofText? (e.uuid?.map (·.text))),
        ("name", Document.ofText? (e.found.map (·.name))), ("tags", Document.ofTags e.tags),
        ("content_hash", .text e.hash)] := by
  simp [document_eq, Document.get?, OrderedMap.lookup, other.symm]

/-- The order of its values makes no other record of an entry. -/
theorem isSameEntry_inOrder (e : Entry) :
    e.inOrder.document.IsSameEntry e.document where
  members := fun key other => by
    rw [get?_document_of_ne _ other, get?_document_of_ne _ other, hash_inOrder e]
    obtain ⟨_, _, _ | _⟩ := e <;> rfl
  values := ⟨e.inOrder.values, e.values, rfl, rfl, by
    rw [values_inOrder]
    exact OrderedMap.agrees_sorted e.values⟩

end Entry

namespace Sink

/-! ## The sink of a path -/

theorem ofKind_sqlite {arguments : Document} {sink : Sink}
    (made : ofKind "sqlite" arguments = .ok sink) :
    ∃ table, sink = .table {
      path := match arguments.get? "db_path" with
        | none => some "results.db"
        | some given => given.text?.bind Text.string?
      table
      empties := isTrue (arguments.get "truncate") } := by
  rw [ofKind] at made
  split at made
  · cases made
  · rw [if_neg (by decide), if_pos (by decide)] at made
    obtain ⟨_, _, made⟩ := bind_eq_ok_iff.mp made
    dsimp only at made
    split at made
    · obtain ⟨_, _, made⟩ := bind_eq_ok_iff.mp made
      obtain ⟨table, _, made⟩ := bind_eq_ok_iff.mp made
      exact ⟨table, (Except.ok.inj made).symm⟩
    · obtain ⟨_, _, made⟩ := bind_eq_ok_iff.mp made
      obtain ⟨table, _, made⟩ := bind_eq_ok_iff.mp made
      exact ⟨table, (Except.ok.inj made).symm⟩
    · cases made

theorem lookup_filter_append {α : Type} {key : Text} {entries more : List (Text × α)}
    {p : Text × α → Bool} (absent : ∀ e ∈ entries, p e = true → e.1 ≠ key) :
    OrderedMap.lookup key (entries.filter p ++ more) = OrderedMap.lookup key more := by
  induction entries with
  | nil => rfl
  | cons e entries ih =>
    rw [List.forall_mem_cons] at absent
    rw [List.filter_cons]
    split
    · rename_i kept
      rw [List.cons_append, OrderedMap.lookup, if_neg (absent.1 kept), ih absent.2]
    · exact ih absent.2

theorem eq_of_ofKind {path : String} {entries : List (Text × Document)}
    {truncate : Option Document} {sink : Sink}
    (known : ∀ e ∈ entries, (e.1 != ("truncate" : Text)) = true → e.1 ≠ "db_path")
    (made : ofKind "sqlite" (.mapping (entries.filter (·.1 != ("truncate" : Text))
      ++ ([("truncate", truncate.getD (.bool true)), ("db_path", .text path)] :
        List (Text × Document)))) = .ok sink) :
    ∃ table, sink = .table { path := some path, table, empties := truncate.all isTrue } := by
  obtain ⟨table, rfl⟩ := ofKind_sqlite made
  have others : ∀ e ∈ entries, (e.1 != ("truncate" : Text)) = true → e.1 ≠ "truncate" :=
    fun e _ other => by simpa using other
  refine ⟨table, ?_⟩
  rw [Document.get, Document.get?, Document.get?, lookup_filter_append known,
    lookup_filter_append others]
  cases truncate <;>
    exact congrArg (fun path => Sink.table { path, table, empties := _ })
      (Text.string?_ofString path)

/-- A sink that is made for a path is one of lines or one of a table there, which is emptied unless
the arguments say otherwise. -/
theorem eq_of_ofPath {path : String} {arguments : Document} {sink : Sink}
    (made : ofPath path arguments = .ok sink) :
    sink = .lines { path := .ofText path }
      ∨ ∃ table, sink = .table {
          path := some path
          table
          empties := (arguments.get? "truncate").all isTrue } := by
  unfold ofPath at made
  split at made
  · cases made
  split at made
  · obtain ⟨_, checked, made⟩ := bind_eq_ok_iff.mp made
    refine .inr (eq_of_ofKind (fun e member other => ?_) made)
    cases arguments with
    | mapping entries =>
      rw [checkArguments] at checked
      split at checked
      · rename_i known
        have key := List.all_eq_true.mp known e member
        simp only [List.contains_cons, List.contains_nil, Bool.or_false, Bool.or_eq_true,
          beq_iff_eq] at key
        rcases key with key | key <;> simp [key]
      · cases checked
    | _ => exact absurd member (by simp)
  · have same : (.ok (.lines { path := .ofText path }) : Except Error Sink) = .ok sink := made
    exact .inl (Except.ok.inj same).symm

/-- A file of lines can hold an entry in which no half stands alone, and a table one that it stores
as it is. -/
def CanHold (sink : Sink) (e : Entry) : Prop :=
  match sink with
  | .lines _ => e.IsWhole
  | .table _ => e.IsStorable

/-! ## Records that go through a table -/

/-- No two of some records have the same hash: each is a first occurrence. -/
theorem firstOccurrences_eq_self {records : List Document}
    (distinct : (records.map hash?).Nodup) : firstOccurrences records = records := by
  induction records with
  | nil => rfl
  | cons record rest ih =>
    rw [List.map_cons, List.nodup_cons] at distinct
    rw [firstOccurrences, ih distinct.2, List.filter_eq_self.mpr]
    intro other member
    rw [bne_iff_ne]
    exact fun same => distinct.1 (same ▸ List.mem_map_of_mem member)

theorem Database.IsWithin.lastId_tableOr {d : Database} {given : List (List Cell)}
    (within : d.IsWithin given) (table : String) : (d.tableOr table).lastId ≤ given.length := by
  rw [Database.tableOr]
  cases found : d.table? table with
  | none => exact Int.natCast_nonneg given.length
  | some t => exact within.counted t (Database.mem_of_table? found)

namespace Session

variable {s s' : Session} {w : Workspace} {name table : String} {place : List String}
  {given : List (List Cell)} {d : Database} {t : TableSink} {c : Connection}

/-- No sink of a table is open. -/
def isClosed (s : Session) : Bool :=
  s.sinks.all fun entry =>
    match entry.2 with
    | .lines _ => true
    | .table t => t.connection.isNone

/-- Once all sinks are closed they are at rest. -/
theorem IsSound.isQuiet (sound : s.IsSound w place given) (closed : s.isClosed = true) :
    ∃ d, s.IsQuiet place d ∧ d.IsWithin given := by
  obtain ⟨d, holds, within⟩ := sound.holds
  refine ⟨d, ⟨within.made, holds, sound.distinct, fun name sink member => ?_⟩, within⟩
  have shut := List.all_eq_true.mp closed (name, sink) member
  cases sink with
  | lines _ => trivial
  | table t =>
    intro c connected
    rw [Option.isNone_iff_eq_none.mp shut] at connected
    cases connected

/-- A sink that empties its table takes all batches, and the table then holds what they have. -/
theorem IsQuiet.exists_writeAll (quiet : s.IsQuiet place d) (within : d.IsWithin given)
    (leads : t.LeadsTo s.workspace.home place) (empties : t.empties = true)
    (opened : (s.bind name (.table t)).connect name = (s', .ok ()))
    {batches : List (List Document)} (bound : ∀ record ∈ batches.flatten, IsBound record)
    (hashed : ∀ record ∈ batches.flatten, (hash? record).isSome)
    (room : given.length + batches.flatten.length < 2 ^ 63) :
    TableName.isReserved t.table = false
      ∧ ∃ last next c found, s'.writeAll name batches = (last, .ok ())
        ∧ last.IsReady name place t c next found ∧ next.Serves t.table
        ∧ found.Holds batches.flatten := by
  have others := (quiet.others name).bind (.table t)
  obtain ⟨free, next, c, has, serves, able, stands⟩ :=
    connect_ok (s := s.bind name (.table t)) leads others get?_bind_self opened
  obtain ⟨writable, fits⟩ := able empties
  have word := isReservedWord_eq_false free
  rw [if_pos empties] at stands
  have last : (d.tableOr t.table).emptied.lastId ≤ given.length := within.lastId_tableOr t.table
  obtain ⟨last, final, c', all, ready, serves'⟩ :=
    IsReady.writeAll_succeeds ⟨has, word, stands⟩ writable fits serves bound (by
      rw [Table.greatestId]
      omega)
  have holds := Table.holds_keepAll (Table.holds_emptied (d.tableOr t.table)) bound hashed
  exact ⟨free, last, final, c', _, all, ready, serves', holds⟩

/-- A sink that is ready leaves all at rest when it is closed after a query. -/
theorem IsReady.exists_close [Nesting] {found : Table} (ready : s.IsReady name place t c d found)
    (f : JsonLines.Filter) :
    ∃ closed, (s.query name f).1.close name = (closed, .ok ()) ∧ closed.IsQuiet place d := by
  obtain ⟨c', has, -⟩ := ready.hasOpen_query f
  have quiet := has.isQuiet ready.isReservedWord (by rw [ready.found]; rfl)
  exact quiet.close ⟨_, c', has.bound, rfl, has.rests.here, by rw [sameName_iff]⟩

/-- Another sink that keeps what a table holds finds that there. -/
theorem IsQuiet.query_of_connect [Nesting] (quiet : s.IsQuiet place d) {found : Table}
    (there : d.table? t.table = some found) (leads : t.LeadsTo s.workspace.home place)
    (keeps : t.empties = false) (opened : (s.bind name (.table t)).connect name = (s', .ok ())) :
    (s'.query name {}).2 = recordsOf ((found.rows.map Row.entryCells).mergeSort
      (Wanted.isUpToLine .utf8 .binary)) := by
  have others := (quiet.others name).bind (.table t)
  obtain ⟨free, next, c, has, serves, -, stands⟩ :=
    connect_ok (s := s.bind name (.table t)) leads others get?_bind_self opened
  have word := isReservedWord_eq_false free
  rw [keeps, if_neg Bool.false_ne_true, Database.tableOr_of_table? there] at stands
  exact IsReady.query_empty ⟨has, word, stands⟩

/-! ## Entries that go through a sink -/

section

variable {entries : List Entry}

theorem isBound_and_isNumbered (fit : ∀ e ∈ entries, fits e.number = true)
    (storable : ∀ e ∈ entries, e.IsStorable) :
    ∀ record ∈ entries.map Entry.document, IsBound record ∧ IsNumbered record := by
  intro record member
  obtain ⟨e, known, rfl⟩ := List.mem_map.mp member
  exact ⟨isBound_document (fit e known) (storable e known).toIsBindable,
    isNumbered_document (fit e known)⟩

/-- Entries with ascending numbers have different hashes, as long as no two texts have the same. -/
theorem nodup_hash? (fit : ∀ e ∈ entries, fits e.number = true)
    (storable : ∀ e ∈ entries, e.IsStorable)
    (ascending : entries.Pairwise fun e f => e.number < f.number)
    (apart : ∀ e ∈ entries, ∀ f ∈ entries, e.hash = f.hash → e.hashText = f.hashText) :
    ((entries.map Entry.document).map hash?).Nodup := by
  rw [List.map_map]
  refine List.pairwise_map.mpr (List.Pairwise.imp_of_mem ?_ ascending)
  intro e f first second less same
  exact Entry.hash_ne (fit e first) (storable e first).toIsHashable (fit f second)
    (storable f second).toIsHashable (apart e first f second) (ne_of_lt less) (Option.some.inj same)

/-- The rows of entries with ascending numbers are in order. -/
theorem mergeSort_entryCells (fit : ∀ e ∈ entries, fits e.number = true)
    (storable : ∀ e ∈ entries, e.IsStorable)
    (ascending : entries.Pairwise fun e f => e.number < f.number) :
    ((entries.map Entry.document).map storedCells).mergeSort (Wanted.isUpToLine .utf8 .binary) =
      entries.map entryCells := by
  have sorted : (entries.map Entry.document).mergeSort isUpTo = entries.map Entry.document := by
    refine List.mergeSort_of_pairwise (List.pairwise_map.mpr ?_)
    exact ascending.imp fun less => decide_eq_true (Int.le_of_lt less)
  have sound := isBound_and_isNumbered fit storable
  rw [mergeSort_storedCells (fun record member => (sound record member).1)
    fun record member => (sound record member).2, sorted, List.map_map]
  exact List.map_congr_left fun e member =>
    storedCells_document (fit e member) (storable e member).toIsBindable

/-- What is found in a table that holds entries with ascending numbers. -/
theorem recordsOf_rows [Nesting] {found : Table} (holds : found.Holds (entries.map Entry.document))
    (fit : ∀ e ∈ entries, fits e.number = true) (storable : ∀ e ∈ entries, e.IsStorable)
    (ascending : entries.Pairwise fun e f => e.number < f.number)
    (apart : ∀ e ∈ entries, ∀ f ∈ entries, e.hash = f.hash → e.hashText = f.hashText) :
    recordsOf ((found.rows.map Row.entryCells).mergeSort (Wanted.isUpToLine .utf8 .binary)) =
      .ok (entries.map fun e => e.inOrder.document) := by
  rw [holds.rows, firstOccurrences_eq_self (nodup_hash? fit storable ascending apart),
    mergeSort_entryCells fit storable ascending, recordsOf_entryCells storable]

end

/-- From before a sink is opened until it is closed nothing but the file of its table changes. -/
theorem IsSound.through [Nesting] (sound : s.IsSound w place given)
    (leads : t.LeadsTo s.workspace.home place)
    (opened : (s.bind name (.table t)).connect name = (s', .ok ()))
    {batches : List (List Document)} {last closed : Session}
    (all : s'.writeAll name batches = (last, .ok ())) {f : JsonLines.Filter}
    (shut : (last.query name f).1.close name = (closed, .ok ())) :
    closed.IsSound s.workspace place (given ++ batches.flatten.map cellsOf) := by
  have started : s'.IsSound s.workspace place given := by
    have taken := isSound_take sound.since (show (Step.open name t).LeadsTo _ place from leads)
    rw [Step.records, List.map_nil, List.append_nil, Step.take, opened] at taken
    exact taken
  have written := started.writeAll name batches
  rw [all] at written
  have left := (written.query name f).close name
  rwa [shut] at left

/-- Another sink is opened where nothing but the file of its table has changed since one was. -/
theorem IsSound.connect_again {closed : Session} (left : closed.IsSound s.workspace place given)
    (leads : t.LeadsTo s.workspace.home place) {path : String} (named : t.path = some path)
    (opened : (s.bind name (.table t)).connect name = (s', .ok ()))
    (quiet : closed.IsQuiet place d) (serves : d.Serves t.table)
    (free : TableName.isReserved t.table = false)
    (direct : Locator.IsDirect s.workspace.home path) (reader : String) :
    ∃ again, (closed.bind reader
      (.table { path := some path, table := t.table, empties := false })).connect reader =
        (again, .ok ()) := by
  obtain ⟨_, first⟩ := openStore_of_connect named get?_bind_self opened
  obtain ⟨found, there⟩ := Option.isSome_iff_exists.mp serves.isThere
  have file : closed.workspace.node? place = some (.file (.database d)) := by
    rcases quiet.holds.file with file | ⟨-, rfl⟩
    · exact file
    · cases there
  have direct' : Locator.IsDirect (s.bind name (.table t)).workspace.home path := direct
  have leads' : Locator.place? s.workspace.home path = some place := by
    obtain ⟨text, same, leads⟩ := leads.path
    rwa [Option.some.inj (named.symm.trans same)]
  exact Session.connect_again (t := { path := some path, table := t.table, empties := false })
    direct' first left.elsewhere left.home file ((quiet.others reader).bind _) serves free rfl
    rfl ⟨⟨path, rfl, leads'⟩, rfl⟩ get?_bind_self

/-- Another sink is made where one was made for a path: one of lines can be asked at once, and one
of a table, which it does not empty, is opened. -/
def reopen (s : Session) (reader path : String) : Sink → Session × Except Error Unit
  | .lines _ => (s.bind reader (.lines { path := .ofText path }), .ok ())
  | .table t =>
    let sink : TableSink := { path := some path, table := t.table, empties := false }
    (s.bind reader (.table sink)).connect reader

/-- Entries with ascending numbers go through a table that is emptied before. -/
theorem IsSound.table_returns [Nesting] (sound : s.IsSound w place given)
    (ended : s.isClosed = true)
    (leads : t.LeadsTo s.workspace.home place) {path : String} (named : t.path = some path)
    (empties : t.empties = true) (opened : (s.bind name (.table t)).connect name = (s', .ok ()))
    {entries : List Entry} (fit : ∀ e ∈ entries, fits e.number = true)
    (storable : ∀ e ∈ entries, e.IsStorable)
    (ascending : entries.Pairwise fun e f => e.number < f.number)
    (apart : ∀ e ∈ entries, ∀ f ∈ entries, e.hash = f.hash → e.hashText = f.hashText)
    {batches : List (List Document)} (cut : batches.flatten = entries.map Entry.document)
    (room : given.length + entries.length < 2 ^ 63) :
    ∃ last closed, s'.writeAll name batches = (last, .ok ())
      ∧ (last.query name {}).2 = .ok (entries.map fun e => e.inOrder.document)
      ∧ (last.query name {}).1.close name = (closed, .ok ())
      ∧ (∀ reader again, closed.reopen reader path (.table t) = (again, .ok ()) →
        (again.query reader {}).2 = .ok (entries.map fun e => e.inOrder.document))
      ∧ (Locator.IsDirect s.workspace.home path → ∀ reader,
        ∃ again, closed.reopen reader path (.table t) = (again, .ok ())) := by
  obtain ⟨d, quiet, within⟩ := sound.isQuiet ended
  have bound := isBound_and_isNumbered fit storable
  rw [← cut] at bound
  obtain ⟨free, last, next, c, found, all, ready, serves, holds⟩ :=
    quiet.exists_writeAll within leads empties opened
      (fun record member => (bound record member).1)
      (fun record member => (bound record member).2.hash)
      (by rw [cut, List.length_map]; exact room)
  rw [cut] at holds
  have shown := recordsOf_rows holds fit storable ascending apart
  obtain ⟨closed, shut, quiet'⟩ := ready.exists_close {}
  have left := sound.through leads opened all shut
  refine ⟨last, closed, all, ready.query_empty.trans shown, shut, fun reader again opened' => ?_,
    fun direct reader => left.connect_again leads named opened quiet' serves free direct reader⟩
  obtain ⟨text, same, reaches⟩ := leads.path
  obtain rfl : path = text := Option.some.inj (named.symm.trans same)
  rw [← left.home] at reaches
  have same := quiet'.query_of_connect
    (t := { path := some path, table := t.table, empties := false }) ready.found
    ⟨⟨path, rfl, reaches⟩, rfl⟩ rfl opened'
  exact same.trans shown

/-! ## Entries that go through the sink of a path -/

/-- Any number of sinks of tables have been opened, written to, queried and closed, whether that
succeeded or not, on a file that was new before, and none is open any more. -/
structure HasRun [Nesting] (s : Session) (w : Workspace) (place : List String) (steps : List Step) :
    Prop where
  new : HoldsDatabase w place {}
  leads : ∀ step ∈ steps, step.LeadsTo w.home place
  taken : s = takeAll { workspace := w } steps
  closed : s.isClosed = true

/-- Whichever sink is made for a path, whatever earlier ones have left there, and however the
entries of lines are cut into batches: if the sink can hold them, it takes them all, and gives them
back in their order.  So does another one for that path, once the first one is closed, and if it is
one of a table it can be opened where the path does not lead through its own file.  If there is an
entry that it cannot hold, a file of lines fails.

A table that is emptied goes on counting its rows, with 64 bits: what earlier sinks were given
counts towards these. -/
theorem sinks_return_entries [Nesting] (index : LogTemplate.Index) (workers : Int)
    {lines : List (List CodePoint)} {batches : List (List Document)}
    (cut : batches.flatten = (Entry.ofLines index workers 1 lines).map Entry.document)
    (few : lines.length < 2 ^ 63)
    (apart : ∀ e ∈ Entry.ofLines index workers 1 lines, ∀ f ∈ Entry.ofLines index workers 1 lines,
      e.hash = f.hash → e.hashText = f.hashText)
    {path : String} {arguments : Document} {sink : Sink} (made : ofPath path arguments = .ok sink)
    {s s' : Session} {name : String} (opened : (s.bind name sink).connect name = (s', .ok ()))
    (earlier : ∀ t, sink = .table t → (arguments.get? "truncate").all isTrue = true
      ∧ ∃ w place steps, s.HasRun w place steps ∧ Locator.place? w.home path = some place
        ∧ (steps.flatMap Step.records).length + lines.length < 2 ^ 63) :
    ((∀ e ∈ Entry.ofLines index workers 1 lines, sink.CanHold e) →
      ∃ last shown closed, s'.writeAll name batches = (last, .ok ())
        ∧ (last.query name {}).2 = .ok shown
        ∧ shown.Forall₂ Document.IsSameEntry batches.flatten
        ∧ (last.query name {}).1.close name = (closed, .ok ())
        ∧ (∀ reader again, closed.reopen reader path sink = (again, .ok ()) →
          (again.query reader {}).2 = .ok shown)
        ∧ ((∀ t, sink = .table t → Locator.IsDirect s.workspace.home path) →
          ∀ reader, ∃ again, closed.reopen reader path sink = (again, .ok ())))
      ∧ ((¬ ∀ e ∈ Entry.ofLines index workers 1 lines, sink.CanHold e) →
        ∀ written, sink = .lines written → ∃ last stray,
          s'.writeAll name batches = (last, .error (.unencodable stray))) := by
  have fit := @Entry.fits_number index workers lines few
  rcases eq_of_ofPath made with rfl | ⟨table, rfl⟩
  · refine ⟨fun whole => ?_, fun broken _ _ => ?_⟩
    · have kept : ∀ d ∈ batches.flatten, Json.IsKept d := by
        rw [cut]
        exact List.forall_mem_map.mpr fun e known => Entry.isKept_document (fit e known)
      have documents : ∀ d ∈ batches.flatten, d.isWhole = true := by
        rw [cut]
        exact Entry.forall_isWhole_document_iff.mpr whole
      obtain ⟨last, closed, all, found, shut, again⟩ :=
        lines_keep_records (s := s.bind name _) (LineSink.holdsNothing_new _) get?_bind_self opened
          kept documents
      refine ⟨last, batches.flatten, closed, all, found, ?_, shut, ?_, fun _ reader => ⟨_, rfl⟩⟩
      · rw [cut, List.forall₂_map_left_iff, List.forall₂_map_right_iff, List.forall₂_same]
        exact fun e _ => Entry.isSameEntry_document e
      · intro reader next unopened
        cases unopened
        exact again reader
    · obtain ⟨_, start⟩ := hasWritten_connect (s := s.bind name _) (LineSink.holdsNothing_new _)
        get?_bind_self opened
      obtain ⟨last, stray, -, -, refused, -⟩ := writeAll_lines_of_not_isWhole start
        (cut ▸ mt Entry.forall_isWhole_document_iff.mp broken)
      exact ⟨last, stray, refused⟩
  · refine ⟨fun storable => ?_, nofun⟩
    obtain ⟨empties, w, place, steps, ran, leads, room⟩ := earlier _ rfl
    have sound : s.IsSound w place ((steps.flatMap Step.records).map cellsOf) := by
      rw [ran.taken, ← List.nil_append (List.map cellsOf _)]
      exact isSound_takeAll (isSound_new ran.new) ran.leads
    rw [← sound.home] at leads
    obtain ⟨last, closed, all, found, shut, again, opens⟩ :=
      sound.table_returns ran.closed ⟨⟨path, rfl, leads⟩, rfl⟩ rfl empties opened fit storable
        Entry.pairwise_number apart cut
        (by rw [List.length_map, Entry.length_ofLines]; exact room)
    refine ⟨last, _, closed, all, found, ?_, shut, again, fun direct => opens (direct _ rfl)⟩
    rw [cut, List.forall₂_map_left_iff, List.forall₂_map_right_iff, List.forall₂_same]
    exact fun e _ => Entry.isSameEntry_inOrder e

/-- What two lines become that are the same, with a quote, a backslash, a line separator and a
character of two units in them, where there are no patterns. -/
def awkwardEntries : List Entry :=
  Entry.ofLines ⟨[], []⟩ 1 1 [Text.toList "\"\\\u2028𝄞", Text.toList "\"\\\u2028𝄞"]

/-- What has been done before with the table of a sink. -/
def earlierSteps : List Step := [.open "b" newSink, .write "b" [unmatched, unmatched], .close "b"]

theorem hasRun_earlierSteps :
    letI := Nesting.usual
    (takeAll {} earlierSteps).HasRun {} ["", "x.db"] earlierSteps := by
  let := Nesting.usual
  refine ⟨holdsDatabase_new, ?_, rfl, by decide +kernel⟩
  simp only [earlierSteps, List.forall_mem_cons]
  exact ⟨leadsTo_newSink, trivial, trivial, by simp⟩

theorem awkwardEntries_eq : awkwardEntries =
    [⟨1, "\"\\\u2028𝄞", none⟩, ⟨2, "\"\\\u2028𝄞", none⟩] := by
  rw [awkwardEntries, Entry.ofLines_cons, Entry.ofLines_cons, Entry.ofLines_nil]
  rfl

theorem isWhole_awkwardEntries : ∀ e ∈ awkwardEntries, e.IsWhole := by
  rw [awkwardEntries_eq]
  simp only [List.forall_mem_cons, Entry.isWhole_unmatched, List.not_mem_nil, false_implies,
    implies_true, and_self]

theorem apart_awkwardEntries :
    ∀ e ∈ awkwardEntries, ∀ f ∈ awkwardEntries, e.hash = f.hash → e.hashText = f.hashText := by
  have other : (⟨1, "\"\\\u2028𝄞", none⟩ : Entry).hash ≠
      (⟨2, "\"\\\u2028𝄞", none⟩ : Entry).hash := by
    rw [Entry.hash_eq, Entry.hash_eq, Entry.hashText_unmatched, Entry.hashText_unmatched]
    decide +kernel
  rw [awkwardEntries_eq]
  intro e first f second same
  simp only [List.mem_cons, List.not_mem_nil, or_false] at first second
  rcases first with rfl | rfl <;> rcases second with rfl | rfl
  · rfl
  · exact absurd same other
  · exact absurd same.symm other
  · rfl

/-- What a line becomes that is matched by a pattern with a tag that is half a character. -/
def halfEntries : List Entry :=
  Entry.ofLines (.ofLibrary (Library.load [.mapping [
    (Record.Member.name.key, .text "A"),
    (Record.Member.uuid.key, .text "9a5e4f2c-6d1b-4c8e-9f3a-2b7d1e0c5a41"),
    (Record.Member.template.key, .text "id"),
    (Record.Member.tags.key, .list [.text ⟨[CodePoint.ofNat 0xD800]⟩])]]).library) 1 1
    [Text.toList "id"]

theorem halfEntries_eq : halfEntries = [⟨1, "id", some {
    uuid := ⟨0x9a5e4f2c6d1b4c8e9f3a2b7d1e0c5a41, by decide⟩
    name := "A"
    values := {}
    tags := ⟨[⟨[CodePoint.ofNat 0xD800]⟩], List.pairwise_singleton _ _⟩ }⟩] := by
  decide +kernel

theorem not_isWhole_halfEntries : ¬ ∀ e ∈ halfEntries, e.IsWhole := by
  rw [halfEntries_eq]
  intro whole
  exact absurd ((whole _ List.mem_cons_self).tags _ List.mem_cons_self) Bool.false_ne_true

theorem isStorable_halfEntries : ∀ e ∈ halfEntries, e.IsStorable := by
  rw [halfEntries_eq, List.forall_mem_singleton]
  refine ⟨⟨⟨rfl, List.forall_mem_nil _⟩, ?_⟩, List.forall_mem_singleton.mpr (.singleton _)⟩
  rintro _ ⟨⟩
  rfl

theorem apart_halfEntries :
    ∀ e ∈ halfEntries, ∀ f ∈ halfEntries, e.hash = f.hash → e.hashText = f.hashText := by
  rw [halfEntries_eq]
  intro e first f second _
  rw [List.mem_singleton.mp first, List.mem_singleton.mp second]

/-- Two lines that are the same, each in a batch of its own, come out of a new file of lines, and of
a table that held another entry before.  The file of lines does not take a tag that is half a
character. -/
theorem sinks_return_entries_awkward :
    letI := Nesting.usual
    (∃ s' last shown closed,
      (Session.bind {} "a" (.lines { path := .ofText "x.jsonl" })).connect "a" = (s', .ok ())
      ∧ s'.writeAll "a" (awkwardEntries.map fun e => [e.document]) = (last, .ok ())
      ∧ (last.query "a" {}).2 = .ok shown
      ∧ shown.Forall₂ Document.IsSameEntry (awkwardEntries.map Entry.document)
      ∧ (last.query "a" {}).1.close "a" = (closed, .ok ())
      ∧ ((closed.bind "b" (.lines { path := .ofText "x.jsonl" })).query "b" {}).2 = .ok shown)
    ∧ (∃ s' last shown closed again,
      ((takeAll {} earlierSteps).bind "a" (.table newSink)).connect "a" = (s', .ok ())
      ∧ s'.writeAll "a" (awkwardEntries.map fun e => [e.document]) = (last, .ok ())
      ∧ (last.query "a" {}).2 = .ok shown
      ∧ shown.Forall₂ Document.IsSameEntry (awkwardEntries.map Entry.document)
      ∧ (last.query "a" {}).1.close "a" = (closed, .ok ())
      ∧ closed.reopen "b" "x.db" (.table newSink) = (again, .ok ())
      ∧ (again.query "b" {}).2 = .ok shown)
    ∧ ∃ s' last stray,
      (Session.bind {} "a" (.lines { path := .ofText "x.jsonl" })).connect "a" = (s', .ok ())
      ∧ s'.writeAll "a" (halfEntries.map fun e => [e.document]) =
        (last, .error (.unencodable stray)) := by
  let := Nesting.usual
  have cut : (awkwardEntries.map fun e => [e.document]).flatten =
      awkwardEntries.map Entry.document := List.map_eq_flatMap.symm
  have made : ofPath "x.jsonl" (.mapping []) = .ok (.lines { path := .ofText "x.jsonl" }) := rfl
  have opened := eq_of_isOk (x := (Session.bind {} "a"
    (.lines { path := .ofText "x.jsonl" })).connect "a") (by decide +kernel)
  refine ⟨?_, ?_, ?_⟩
  · obtain ⟨last, shown, closed, all, found, same, shut, again⟩ :=
      (sinks_return_entries _ _ cut (by decide) apart_awkwardEntries made opened (by simp)).1
        isWhole_awkwardEntries
    exact ⟨_, last, shown, closed, opened, all, found, cut ▸ same, shut, again.1 "b" _ rfl⟩
  · have made : ofPath "x.db" (.mapping [("table", .text "results")]) =
        .ok (.table newSink) := rfl
    have opened := eq_of_isOk (x := ((takeAll {} earlierSteps).bind "a"
      (.table newSink)).connect "a") (by decide +kernel)
    have direct : Locator.IsDirect (takeAll {} earlierSteps).workspace.home "x.db" :=
      Locator.isDirect_of_plain fun l read => by
        obtain rfl : { name := "x.db" } = l := Except.ok.inj read
        decide +kernel
    obtain ⟨last, shown, closed, all, found, same, shut, again, opens⟩ :=
      (sinks_return_entries _ _ cut (by decide) apart_awkwardEntries made opened fun _ _ =>
        ⟨rfl, {}, ["", "x.db"], earlierSteps, hasRun_earlierSteps, by decide +kernel,
          by decide⟩).1 fun e member => (isWhole_awkwardEntries e member).isStorable
    obtain ⟨next, opened'⟩ := opens (fun _ _ => direct) "b"
    exact ⟨_, last, shown, closed, next, opened, all, found, cut ▸ same, shut, opened',
      again "b" next opened'⟩
  · have cut : (halfEntries.map fun e => [e.document]).flatten =
        halfEntries.map Entry.document := List.map_eq_flatMap.symm
    obtain ⟨last, stray, refused⟩ :=
      (sinks_return_entries _ _ cut (by decide) apart_halfEntries made opened (by simp)).2
        not_isWhole_halfEntries _ rfl
    exact ⟨_, last, stray, opened, refused⟩

/-- A new file of lines fails for a tag that is half a character, and a new table gives it back. -/
theorem sinks_differ_half :
    letI := Nesting.usual
    (∃ s' last stray,
      (Session.bind {} "a" (.lines { path := .ofText "x.jsonl" })).connect "a" = (s', .ok ())
      ∧ s'.writeAll "a" (halfEntries.map fun e => [e.document]) =
        (last, .error (.unencodable stray)))
    ∧ ∃ s' last shown,
      (Session.bind {} "a" (.table newSink)).connect "a" = (s', .ok ())
      ∧ s'.writeAll "a" (halfEntries.map fun e => [e.document]) = (last, .ok ())
      ∧ (last.query "a" {}).2 = .ok shown
      ∧ shown.Forall₂ Document.IsSameEntry (halfEntries.map Entry.document) := by
  let := Nesting.usual
  have cut : (halfEntries.map fun e => [e.document]).flatten =
      halfEntries.map Entry.document := List.map_eq_flatMap.symm
  constructor
  · have opened := eq_of_isOk (x := (Session.bind {} "a"
      (.lines { path := .ofText "x.jsonl" })).connect "a") (by decide +kernel)
    obtain ⟨_, start⟩ := hasWritten_connect (LineSink.holdsNothing_new _) get?_bind_self opened
    obtain ⟨last, stray, -, -, refused, -⟩ := writeAll_lines_of_not_isWhole start
      (cut ▸ mt Entry.forall_isWhole_document_iff.mp not_isWhole_halfEntries)
    exact ⟨_, last, stray, opened, refused⟩
  · have opened := eq_of_isOk (x := (Session.bind {} "a" (.table newSink)).connect "a")
      (by decide +kernel)
    have fit : ∀ e ∈ halfEntries, fits e.number = true := Entry.fits_number (by decide)
    obtain ⟨last, -, all, found, -⟩ := (isSound_new holdsDatabase_new).table_returns rfl
      leadsTo_newSink rfl rfl opened fit isStorable_halfEntries Entry.pairwise_number
      apart_halfEntries cut (by decide)
    refine ⟨_, last, _, opened, all, found, ?_⟩
    rw [List.forall₂_map_left_iff, List.forall₂_map_right_iff, List.forall₂_same]
    exact fun e _ => Entry.isSameEntry_inOrder e

end Session

end Sink

end LogTemplate
