import LogTemplate.Proofs.Sink.Occurrence
import LogTemplate.Proofs.Sink.Open

/-!
# Batches that are written beside others at rest

Main statements: a batch that is written puts one row after the other into the table of the sink,
and it is written if all its records can be bound and there are numbers for them.
-/

namespace LogTemplate.Sink

/-- A connection that has looked at a database in which its table is. -/
def Connection.seeing (c : Connection) (d : Database) : Connection :=
  { c.look d with seen := some ⟨true, true⟩ }

/-- A connection that is about to add records to a database. -/
def Connection.adding (c : Connection) (d : Database) : Connection :=
  ((c.seeing d).remember .insert).begin

namespace Session

variable {s s' : Session} {name : String} {place : List String} {d : Database} {t : TableSink}
  {c : Connection} {table : Table}

/-- A sink of a table that is there, and whose name is no word of the language. -/
structure IsReady (s : Session) (name : String) (place : List String) (t : TableSink)
    (c : Connection) (d : Database) (table : Table) : Prop where
  opened : s.HasOpen name place t c d
  isReservedWord : TableName.isReservedWord t.table = false
  found : d.table? t.table = some table

theorem IsReady.find_eq (ready : s.IsReady name place t c d table) (statement : Statement) :
    s.find name t c statement = (c.seeing d, .ok d) := by
  have opened := ready.opened
  have mutable : (c.locking == .immutable) = false := by simpa using opened.rests.knows.locking
  have admits : ∀ statement, Seen.admits ⟨true, true⟩ statement = true := by
    intro statement
    cases statement <;> rfl
  rw [find, ready.isReservedWord, opened.others.view_of_atRest opened.rests]
  simp only [Database.seenIn_entries opened.others.made ready.found, mutable, admits,
    Bool.false_eq_true, if_false, if_true]
  rfl

theorem HasOpen.note (opened : s.HasOpen name place t c d) {α : Type} (outcome : Except Error α) :
    ∃ c', (s.note name outcome).HasOpen name place t c' d ∧ c'.isReadOnly = c.isReadOnly := by
  have rests := opened.rests
  refine ⟨c.note outcome, ?_, ?_⟩
  · have noted : (c.note outcome).AtRest place d := by
      rw [Connection.note.eq_def]
      split
      · exact ⟨rests.here, { rests.knows with }, rests.idle⟩
      · split
        · exact rests
        · exact ⟨rests.here, { rests.knows with }, rests.idle⟩
    rw [Session.note, opened.bound]
    exact ⟨opened.others.bind _, get?_bind_self, noted⟩
  · rw [Connection.note.eq_def]
    split
    · rfl
    · split <;> rfl

/-! ## Nothing to write -/

/-- A batch without records is committed at once. -/
theorem IsReady.writeNoRows_nil (ready : s.IsReady name place t c d table) :
    ∃ s' c', s.writeNoRows name t c [] = (s', .ok ()) ∧ s'.HasOpen name place t c' d
      ∧ c'.isReadOnly = c.isReadOnly := by
  have opened := ready.opened
  have commit : ∀ {c : Connection}, c.AtRest place d → ∃ s' c',
      s.commit name t (c.remember .insert).begin = (s', .ok ()) ∧ s'.HasOpen name place t c' d
        ∧ c'.isReadOnly = c.isReadOnly := by
    intro c rests
    obtain ⟨s', committed, others, bound⟩ := opened.others.commit_nothing (t := t)
      (c := (c.remember .insert).begin) rests.here rests.idle.pending
    exact ⟨s', _, committed, ⟨others, bound, rests.here, { rests.knows with }, Batch.isIdle_new⟩,
      rfl⟩
  have rests : (c.seeing d).AtRest place d :=
    ⟨opened.rests.here, { opened.rests.knows.look opened.others.made with }, opened.rests.idle⟩
  by_cases known : c.isReady .insert
  · simp only [writeNoRows, known, if_true]
    exact commit opened.rests
  · simp only [writeNoRows, known, opened.others.recover_eq opened.rests.here,
      ready.find_eq]
    exact commit rests

/-- A batch is not written whose first record cannot be bound. -/
theorem IsReady.writeNoRows_cons (ready : s.IsReady name place t c d table) {p : Prepared}
    {prepared : List Prepared} (unbound : bindsNone (p :: prepared) = true) :
    (s.writeNoRows name t c (p :: prepared)).2 ≠ .ok () := by
  have opened := ready.opened
  obtain ⟨e, refused⟩ : ∃ e, p.cells = .error e := by
    cases cells : p.cells with
    | error e => exact ⟨e, rfl⟩
    | ok _ => simp [bindsNone, cells, Except.toOption] at unbound
  have all : (p :: prepared).mapM Prepared.cells = .error e := by
    rw [List.mapM_cons, refused]
    rfl
  by_cases known : c.isReady .insert
  · simp [writeNoRows, known, all]
  · simp [writeNoRows, known, all, opened.others.recover_eq opened.rests.here, ready.find_eq,
      Except.map]

/-! ## Rows to write -/

/-- Once a sink has taken hold of its database, what comes of a batch is what comes of adding its
records. -/
theorem IsReady.writePrepared_eq (ready : s.IsReady name place t c d table)
    (writable : c.isReadOnly = false) (fits : FitsJournal place) {prepared : List Prepared}
    {next : Database} {outcome : Except Error Unit}
    (adds : addRows d t.table prepared = (some next, outcome)) :
    ∃ left, s.writePrepared name t c prepared =
      match outcome with
      | .ok () => s.commit name t
          (({ c.adding d with failure := none }.holding t.table d).toBecome next)
      | .error e => (left, .error e) := by
  have opened := ready.opened
  have others := opened.others
  have rests := opened.rests
  have knows : (c.adding d).Knows d := { rests.knows.look others.made with }
  have hold : s.checkHold name (c.adding d) = .ok () := by
    rw [others.checkHold_eq (c := c.adding d) rests.here knows rests.idle.snapshot]
    exact if_neg (Bool.eq_false_iff.mp writable)
  have held := others.holdTable_eq (t := t) (c := c.adding d) rests.here rests.idle.snapshot
    rests.idle.pending
  have sound := (others.made.tables table (Database.mem_of_table? ready.found)).sound
  have undone : s.canUndo ((c.adding d).holding t.table d) d = true :=
    (others.canUndo_iff (c := (c.adding d).holding t.table d) rests.here others.made.isLogged).mpr
      fits
  simp only [writePrepared, writable, Bool.false_and, Bool.false_eq_true, if_false,
    others.recover_eq rests.here, ready.find_eq]
  rw [show ((c.seeing d).remember .insert).begin = c.adding d from rfl]
  simp only [hold, held, ready.found, Option.any_some, sound, undone, Bool.not_true,
    Bool.false_eq_true, if_false, adds]
  cases outcome with
  | ok done =>
    cases done
    exact ⟨s, rfl⟩
  | error e => exact ⟨_, rfl⟩

/-- Nothing is written to a database that is only read, or where no change could be undone. -/
theorem IsReady.writePrepared_hindered (ready : s.IsReady name place t c d table)
    (hindered : c.isReadOnly = true ∨ ¬ FitsJournal place) (prepared : List Prepared) :
    (s.writePrepared name t c prepared).2 ≠ .ok () := by
  have opened := ready.opened
  have others := opened.others
  have rests := opened.rests
  have knows : (c.adding d).Knows d := { rests.knows.look others.made with }
  have hold := others.checkHold_eq (c := c.adding d) rests.here knows rests.idle.snapshot
  have held := others.holdTable_eq (t := t) (c := c.adding d) rests.here rests.idle.snapshot
    rests.idle.pending
  have sound := (others.made.tables table (Database.mem_of_table? ready.found)).sound
  have same : (c.adding d).isReadOnly = c.isReadOnly := rfl
  have undone := others.canUndo_iff (c := (c.adding d).holding t.table d) rests.here
    others.made.isLogged
  simp only [writePrepared, others.recover_eq rests.here, ready.find_eq]
  rw [show ((c.seeing d).remember .insert).begin = c.adding d from rfl, hold, same]
  split
  · simp
  · cases only : c.isReadOnly with
    | true => simp
    | false =>
      have long : s.canUndo ((c.adding d).holding t.table d) d = false :=
        Bool.eq_false_iff.mpr fun can =>
          hindered.elim (fun read => by rw [only] at read; cases read) (· (undone.mp can))
      simp [held, ready.found, sound, long]

/-- The database once the rows of prepared records have been added to a table. -/
def after (d : Database) (table : String) (prepared : List Prepared) : Database :=
  (d.modify table (·.keepAll (prepared.map Prepared.row))).changed

theorem follows_after (made : d.IsMade) {prepared : List Prepared}
    (bound : ∀ p ∈ prepared, p.IsBound) (table : String) : (after d table prepared).Follows d :=
  Database.follows_modify made (fun t => t.name_keepAll _) fun _ entries =>
    isOfEntries_keepAll_row entries bound

/-- Records that have been added are committed. -/
theorem IsReady.writePrepared_done (ready : s.IsReady name place t c d table)
    (writable : c.isReadOnly = false) (fits : FitsJournal place) {prepared : List Prepared}
    (done : (addRows d t.table prepared).2 = .ok ()) :
    (∀ p ∈ prepared, p.IsBound) ∧ ∃ s' c', s.writePrepared name t c prepared = (s', .ok ())
      ∧ s'.HasOpen name place t c' (after d t.table prepared) ∧ c'.isReadOnly = c.isReadOnly := by
  have others := ready.opened.others
  have rests := ready.opened.rests
  obtain ⟨added, adds⟩ := exists_adds_addRows others.made ready.found prepared
  obtain rfl := adds.all done
  have follows := follows_after others.made adds.bound t.table
  obtain ⟨_, written⟩ := ready.writePrepared_eq writable fits (Prod.ext adds.database done)
  have knows : Connection.Knows { c.adding d with failure := none } d :=
    { rests.knows.look others.made with }
  obtain ⟨s', c', committed, opened, same⟩ := others.hasOpen_commit (t := t)
    (c := { c.adding d with failure := none }) rests.here knows t.table follows
  exact ⟨adds.bound, s', c', written.trans committed, opened, same⟩

/-- Records that have been written have been added. -/
theorem IsReady.writePrepared_ok (ready : s.IsReady name place t c d table)
    {prepared : List Prepared} (written : (s.writePrepared name t c prepared).2 = .ok ()) :
    c.isReadOnly = false ∧ FitsJournal place ∧ (addRows d t.table prepared).2 = .ok () := by
  have able : c.isReadOnly = false ∧ FitsJournal place := by
    by_contra hindered
    rw [not_and_or, Bool.not_eq_false] at hindered
    exact ready.writePrepared_hindered hindered prepared written
  refine ⟨able.1, able.2, ?_⟩
  obtain ⟨added, adds⟩ := exists_adds_addRows ready.opened.others.made ready.found prepared
  cases outcome : (addRows d t.table prepared).2 with
  | ok _ => rfl
  | error e =>
    obtain ⟨_, refused⟩ := ready.writePrepared_eq able.1 able.2 (Prod.ext adds.database outcome)
    rw [refused] at written
    cases written

/-! ## Batches -/

/-- The rows of records stand in the table of a sink, one after the other. -/
structure HasAdded (s : Session) (name : String) (place : List String) (t : TableSink)
    (c : Connection) (d : Database) (table : Table) (records : List Document) : Prop where
  bound : ∀ record ∈ records, IsBound record
  opened : ∃ next c', s.HasOpen name place t c' next ∧ c'.isReadOnly = c.isReadOnly
    ∧ next.table? t.table = some (table.keepAll (records.map cellsOf))
    ∧ ∀ other, d.Serves other → next.Serves other

theorem HasAdded.note {records : List Document}
    (added : s.HasAdded name place t c d table records) {α : Type} (outcome : Except Error α) :
    (s.note name outcome).HasAdded name place t c d table records := by
  obtain ⟨next, c', opened, same, stands, serves⟩ := added.opened
  obtain ⟨c'', noted, still⟩ := opened.note outcome
  exact ⟨added.bound, next, c'', noted, still.trans same, stands, serves⟩

/-- What comes of prepared records, before it is noted. -/
def writing (s : Session) (name : String) (t : TableSink) (c : Connection)
    (prepared : List Prepared) : Session × Except Error Unit :=
  if bindsNone prepared then s.writeNoRows name t c prepared
  else s.writePrepared name t c prepared

theorem HasOpen.write_eq (opened : s.HasOpen name place t c d) {records : List Document}
    {prepared : List Prepared} (all : records.mapM prepare = .ok prepared) :
    s.write name records =
      ((s.writing name { t with connection := some c } c prepared).1.note name
          (s.writing name { t with connection := some c } c prepared).2,
        (s.writing name { t with connection := some c } c prepared).2) := by
  rw [write, opened.bound]
  simp only [writeRows, all]
  rfl

/-- Rows that have been written stand in the table. -/
theorem IsReady.writing_ok (ready : s.IsReady name place t c d table) {records : List Document}
    {prepared : List Prepared} (all : records.mapM prepare = .ok prepared)
    (written : (s.writing name t c prepared).2 = .ok ()) :
    (s.writing name t c prepared).1.HasAdded name place t c d table records := by
  rw [writing] at written ⊢
  split
  · rename_i none
    rw [if_pos none] at written
    cases prepared with
    | nil =>
      obtain rfl : records = [] := by simpa using congrArg List.length (map_cellsOf all)
      obtain ⟨s₁, c', done, opened, same⟩ := ready.writeNoRows_nil
      rw [done]
      exact ⟨fun _ member => absurd member (by simp), d, c', opened, same, ready.found,
        fun _ serves => serves⟩
    | cons p rest => exact absurd written (ready.writeNoRows_cons none)
  · rename_i some
    rw [if_neg some] at written
    obtain ⟨writable, fits, done⟩ := ready.writePrepared_ok written
    obtain ⟨bound, s₁, c', done, opened, same⟩ := ready.writePrepared_done writable fits done
    rw [done]
    have stands := Database.table?_modify_self ready.found (f := (·.keepAll (records.map cellsOf)))
      fun t => t.name_keepAll _
    rw [map_cellsOf all] at stands
    exact ⟨forall_isBound_iff.mpr ⟨prepared, all, bound⟩, _, c', opened, same,
      by rw [map_cellsOf all]; exact stands,
      fun other serves => Database.serves_modify serves (fun t => t.name_keepAll _) _⟩

/-- Records that can be bound are written where the database may be changed, as long as there are
numbers for them. -/
theorem IsReady.writing_succeeds (ready : s.IsReady name place t c d table)
    (writable : c.isReadOnly = false) (fits : FitsJournal place) {prepared : List Prepared}
    (bound : ∀ p ∈ prepared, p.IsBound)
    (room : table.lastId + prepared.length ≤ Table.greatestId) :
    (s.writing name t c prepared).2 = .ok () := by
  rw [writing]
  split
  · rename_i none
    cases prepared with
    | nil =>
      obtain ⟨s₁, c', done, -⟩ := ready.writeNoRows_nil
      rw [done]
    | cons p rest =>
      obtain ⟨given, cells⟩ := bound p List.mem_cons_self
      simp [bindsNone, cells, Except.toOption] at none
  · obtain ⟨added, adds⟩ := exists_adds_addRows ready.opened.others.made ready.found prepared
    obtain ⟨-, s₁, c', done, -⟩ := ready.writePrepared_done writable fits (adds.succeeds bound room)
    rw [done]

theorem IsReady.withConnection (ready : s.IsReady name place t c d table)
    (connection : Option Connection) :
    s.IsReady name place { t with connection } c d table :=
  ⟨ready.opened.withConnection connection, ready.isReservedWord, ready.found⟩

/-- The rows of a batch that has been written stand in the table. -/
theorem IsReady.write_ok (ready : s.IsReady name place t c d table) {records : List Document}
    (written : s.write name records = (s', .ok ())) :
    s'.HasAdded name place t c d table records := by
  cases all : records.mapM prepare with
  | error e =>
    rw [write, ready.opened.bound] at written
    simp only [writeRows, all] at written
    cases written
  | ok prepared =>
    rw [ready.opened.write_eq all] at written
    obtain ⟨rfl, done⟩ := Prod.mk.inj written
    have added := ((ready.withConnection (some c)).writing_ok all done).note
      (s.writing name { t with connection := some c } c prepared).2
    obtain ⟨next, c', opened, rest⟩ := added.opened
    exact ⟨added.bound, next, c', opened.withConnection t.connection, rest⟩

/-- A batch is written if its records can be bound, the database may be changed, and there are
numbers for them. -/
theorem IsReady.write_succeeds (ready : s.IsReady name place t c d table)
    (writable : c.isReadOnly = false) (fits : FitsJournal place) {records : List Document}
    (bound : ∀ record ∈ records, IsBound record)
    (room : table.lastId + records.length ≤ Table.greatestId) :
    ∃ s', s.write name records = (s', .ok ()) := by
  obtain ⟨prepared, all, bound'⟩ := forall_isBound_iff.mp bound
  have count : prepared.length = records.length := by
    simpa using (congrArg List.length (map_cellsOf all)).symm
  have done := (ready.withConnection (some c)).writing_succeeds writable fits bound'
    (count ▸ room)
  exact ⟨_, (ready.opened.write_eq all).trans (by rw [done])⟩

/-- Batches are written one after the other, as long as each of them can be. -/
theorem IsReady.writeAll_succeeds (ready : s.IsReady name place t c d table)
    (writable : c.isReadOnly = false) (fits : FitsJournal place) (serves : d.Serves t.table)
    {batches : List (List Document)} (bound : ∀ record ∈ batches.flatten, IsBound record)
    (room : table.lastId + batches.flatten.length ≤ Table.greatestId) :
    ∃ last next c', s.writeAll name batches = (last, .ok ())
      ∧ last.IsReady name place t c' next (table.keepAll (batches.flatten.map cellsOf))
      ∧ next.Serves t.table := by
  induction batches generalizing s c d table with
  | nil => exact ⟨s, d, c, rfl, ready, serves⟩
  | cons batch rest ih =>
    rw [List.flatten_cons, List.length_append] at room
    rw [List.flatten_cons, List.forall_mem_append] at bound
    push_cast at room
    obtain ⟨s₁, written⟩ := ready.write_succeeds writable fits bound.1 (by omega)
    obtain ⟨next, c', opened, same, stands, keeps⟩ := (ready.write_ok written).opened
    have ready' : s₁.IsReady name place t c' next (table.keepAll (batch.map cellsOf)) :=
      ⟨opened, ready.isReservedWord, stands⟩
    have left : (table.keepAll (batch.map cellsOf)).lastId = table.lastId + batch.length := by
      rw [Table.lastId_keepAll, List.length_map]
    obtain ⟨last, final, c'', all, ready'', serves'⟩ :=
      ih ready' (same.trans writable) (keeps t.table serves) bound.2 (by omega)
    refine ⟨last, final, c'', (writeAll_cons_of_ok written).trans all, ?_, serves'⟩
    rwa [List.flatten_cons, List.map_append, Table.keepAll_append]

end Session

end LogTemplate.Sink
