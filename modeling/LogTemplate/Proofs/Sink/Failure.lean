import LogTemplate.Proofs.Sink.Run
import LogTemplate.Proofs.Sink.Sharing

/-!
# Writes that fail

A batch that is not written to the end is not taken back.  Main statement: the rows of the records
before the one that was refused stay with the sink, which finds them when it is asked, and puts them
into the file with the next batch that it writes, whatever others do in the meantime.
-/

namespace LogTemplate.Sink

/-- A database with the rows of some more records in a table. -/
def Database.with (d : Database) (table : String) (records : List Document) : Database :=
  d.modify table (·.keepAll (records.map cellsOf))

namespace Database

variable (d : Database) (table : String)

theorem with_nil : d.with table [] = d := Session.modify_keepAll_nil d table

theorem with_append (front more : List Document) :
    d.with table (front ++ more) = (d.with table front).with table more := by
  rw [Database.with, Database.with, Database.with, modify_modify fun t => t.name_keepAll _,
    List.map_append]
  simp only [Table.keepAll_append]

end Database

/-- A file holds one database. -/
theorem HoldsDatabase.unique {w : Workspace} {place : List String} {d next : Database}
    (holds : HoldsDatabase w place d) (other : HoldsDatabase w place next) : d = next := by
  have first := holds.file
  have second := other.file
  grind

namespace Session

variable {s s' : Session} {w : Workspace} {name table : String} {place : List String}
  {d : Database} {t : TableSink} {c : Connection} {e : Error}

/-- What a query with a filter finds in a table of a database. -/
def answer [Nesting] (d : Database) (table : String) (f : JsonLines.Filter) :
    Except Error (List Document) := do
  let matched ← f.matched.mapM integerOf
  let wanted ← wantedOf f.uuid matched
  recordsIn d table wanted

/-- The rows of some records count with a sink as if they stood in its table: its queries find them
with those in the file, and they are in the file once it has written more. -/
structure Retains [Nesting] (s : Session) (name : String) (place : List String) (table : String)
    (records : List Document) : Prop where
  finds : ∀ d f found, HoldsDatabase s.workspace place d → (s.query name f).2 = .ok found →
    answer (d.with table records) table f = .ok found
  commits : ∀ d more s', HoldsDatabase s.workspace place d →
    s.write name more = (s', .ok ()) → s'.entriesAt place table =
      ((d.with table (records ++ more)).tableOr table).rows.map Row.entryCells

/-- The records of a batch that are added although the batch fails: those at the front, up to one
that cannot be bound or for which no number is left, or all if they cannot be committed.  There are
none unless the whole batch can be prepared, and none before the sink has hold of its database. -/
structure IsLeft (d : Database) (table : String) (records : List Document) (e : Error)
    (left : List Document) : Prop where
  bound : ∀ record ∈ left, IsBound record
  prepared : left ≠ [] → ∀ record ∈ records, ∃ p, prepare record = .ok p
  stops : left = [] ∧ e.isUnbound = false ∨ left = records ∧ e = .locked
    ∨ ∃ record rest, records = left ++ record :: rest ∧ (¬ IsBound record ∨ e = .full
      ∧ ∃ t, d.table? table = some t ∧ Table.greatestId ≤ t.lastId + left.length)

/-! ## What a sink retains -/

theorem exists_of_underWay? {pending : Option Database}
    (underWay : s.underWay? name = some (table, pending)) :
    ∃ t c, s.get? name = some (.table t) ∧ t.connection = some c ∧ t.table = table
      ∧ c.batch.pending = pending := by
  obtain ⟨⟨t, c⟩, found, same⟩ := Option.map_eq_some_iff.mp underWay
  obtain ⟨rfl, rfl⟩ := Prod.mk.inj same
  obtain ⟨bound, connected⟩ := connection?_eq_some_iff.mp found
  exact ⟨t, c, bound, connected, rfl, rfl⟩

theorem underWay?_eq_of_any (free : (s.underWay? name).any (fun (own, pending) =>
    own == table && pending.isNone) = true) : s.underWay? name = some (table, none) := by
  rw [Option.any_eq_true] at free
  obtain ⟨⟨own, pending⟩, underWay, same⟩ := free
  rw [Bool.and_eq_true, beq_iff_eq, Option.isNone_iff_eq_none] at same
  rw [underWay, same.1, same.2]

/-- Whether a sink has taken hold of the database or not, it has what was added. -/
theorem Gains.getD_pending {c' : Connection} {added : List Prepared}
    (gains : Gains c c' place d table added) :
    c'.batch.pending.getD d =
      (c.batch.pending.getD d).modify table (·.keepAll (added.map Prepared.row)) := by
  rcases gains.pending with ⟨same, rfl⟩ | made
  · rw [same, List.map_nil, modify_keepAll_nil]
  · rw [made, Option.getD_some]

theorem entries_congr {next : Database} (same : next.tables = d.tables) :
    (next.tableOr table).rows.map Row.entryCells = (d.tableOr table).rows.map Row.entryCells := by
  rw [Database.tableOr, Database.tableOr, Database.table?, Database.table?, same]

/-- What a batch has come to is in the file once it is committed. -/
theorem IsShared.commit_ok (shared : s.IsShared place d) (own : c.IsShared place d)
    (committed : (s.commit name t c).2 = .ok ()) :
    ∃ next, (s.commit name t c).1.IsShared place next
      ∧ next.tables = (c.batch.pending.getD d).tables := by
  cases pending : c.batch.pending with
  | none =>
    rw [Session.commit, pending]
    exact ⟨d, (shared.setConnection (own.withFree ⟨rfl, rfl⟩)).release own.here own.alone, rfl⟩
  | some next =>
    rcases shared.commit_pending name t own pending with ⟨-, refused⟩ | ⟨stored, -⟩
    · rw [refused] at committed
      cases committed
    · exact ⟨_, stored, rfl⟩

/-- A sink retains the records whose rows its batch has added to its table. -/
theorem IsShared.retains [Nesting] (shared : s.IsShared place d) {pending : Option Database}
    (underWay : s.underWay? name = some (table, pending)) {records : List Document}
    (sees : pending.getD d = d.with table records) : s.Retains name place table records := by
  obtain ⟨t, c, bound, connected, rfl, rfl⟩ := exists_of_underWay? underWay
  have own := shared.of_get? bound connected
  constructor
  · intro file f found holds asked
    obtain rfl := holds.unique shared.holds
    rw [Session.query, bound] at asked
    cases given : f.matched.mapM integerOf with
    | error e =>
      simp only [queryRows, connected, given] at asked
      cases asked
    | ok matched =>
      simp only [queryRows, connected, given] at asked
      obtain ⟨wanted, bindings, seen⟩ :=
        (shared.lookUp name t own f.uuid matched).2 found asked
      rw [answer, given, ok_bind, bindings, ok_bind, ← sees]
      exact seen
  · intro file more s' holds written
    obtain rfl := holds.unique shared.holds
    cases all : more.mapM prepare with
    | error e =>
      rw [Session.write, bound] at written
      simp only [writeRows, all] at written
      cases written
    | ok prepared =>
      rw [write_eq_of_get? bound connected all] at written
      obtain ⟨rfl, done⟩ := Prod.mk.inj written
      obtain ⟨c', added, gains, ⟨e, refused, -⟩ | ⟨rfl, -, committed⟩⟩ :=
        shared.writing_eq name t own prepared
      · rw [refused] at done
        cases done
      · rw [committed] at done ⊢
        obtain ⟨next, stored, same⟩ := shared.commit_ok gains.own done
        rw [entriesAt_eq (stored.note _).holds, entries_congr same, gains.getD_pending,
          Database.with_append, ← sees, Database.with, map_cellsOf all]

/-! ## What a failing batch leaves -/

/-- Prepared records are prepared from records, one by one. -/
theorem exists_of_mapM_append {records : List Document} {added rest : List Prepared}
    (all : records.mapM prepare = .ok (added ++ rest)) :
    ∃ left later, records = left ++ later ∧ left.mapM prepare = .ok added
      ∧ later.mapM prepare = .ok rest := by
  induction added generalizing records with
  | nil => exact ⟨[], records, rfl, rfl, all⟩
  | cons p added ih =>
    cases records with
    | nil => cases all
    | cons record records =>
      obtain ⟨q, others, first, whole, same⟩ := mapM_cons_eq_ok_iff.mp all
      obtain ⟨rfl, rfl⟩ := List.cons.inj same
      obtain ⟨left, later, rfl, before, behind⟩ := ih whole
      exact ⟨record :: left, later, rfl, mapM_cons_eq_ok_iff.mpr ⟨p, added, first, before, rfl⟩,
        behind⟩

theorem exists_prepared {records : List Document} {prepared : List Prepared}
    (all : records.mapM prepare = .ok prepared) :
    ∀ record ∈ records, ∃ p, prepare record = .ok p := by
  induction records generalizing prepared with
  | nil => exact fun _ member => absurd member (by simp)
  | cons record records ih =>
    obtain ⟨p, others, first, whole, -⟩ := mapM_cons_eq_ok_iff.mp all
    exact List.forall_mem_cons.mpr ⟨⟨p, first⟩, ih whole⟩

theorem isLeft_nil (d : Database) (table : String) (records : List Document)
    (other : e.isUnbound = false) : IsLeft d table records e [] :=
  ⟨fun _ member => absurd member (by simp), fun some => absurd rfl some, .inl ⟨rfl, other⟩⟩

/-- The records are left whose prepared cells have been added. -/
theorem exists_isLeft {records : List Document} {prepared added : List Prepared}
    (all : records.mapM prepare = .ok prepared) (bound : ∀ p ∈ added, p.IsBound)
    (stops : Stops d table prepared added e ∨ added = prepared ∧ e = .locked) :
    ∃ left, IsLeft d table records e left ∧ left.map cellsOf = added.map Prepared.row := by
  rcases stops with (⟨rfl, other⟩ | ⟨p, rest, rfl, why⟩) | ⟨rfl, locked⟩
  · exact ⟨[], isLeft_nil d table records other, rfl⟩
  · obtain ⟨left, later, rfl, before, behind⟩ := exists_of_mapM_append all
    have cells := map_cellsOf before
    have count : left.length = added.length := by simpa using congrArg List.length cells
    cases later with
    | nil => cases behind
    | cons record later =>
      obtain ⟨q, others, first, -, same⟩ := mapM_cons_eq_ok_iff.mp behind
      obtain ⟨rfl, rfl⟩ := List.cons.inj same
      refine ⟨left, ⟨forall_isBound_iff.mpr ⟨added, before, bound⟩, fun _ => exists_prepared all,
        .inr (.inr ⟨record, later, rfl, why.imp (fun unbound => ?_) fun full => ?_⟩)⟩, cells⟩
      · rintro ⟨_, prepared, bound⟩
        exact unbound (Except.ok.inj (first.symm.trans prepared) ▸ bound)
      · rwa [count]
  · exact ⟨records, ⟨forall_isBound_iff.mpr ⟨added, all, bound⟩, fun _ => exists_prepared all,
      .inr (.inl ⟨rfl, locked⟩)⟩, map_cellsOf all⟩

theorem underWay?_setConnection_self (s : Session) (name : String) (t : TableSink)
    (c : Connection) :
    (s.setConnection name t c).underWay? name = some (t.table, c.batch.pending) :=
  underWay?_of_get? (t := { t with connection := some c }) get?_bind_self rfl

/-- A batch that cannot be committed is not taken back. -/
theorem IsShared.commit_error (shared : s.IsShared place d) (own : c.IsShared place d)
    (kept : c.batch.pending.isSome → c.batch.hasJournal = true)
    (failed : (s.commit name t c).2 = .error e) :
    (s.commit name t c).1.IsShared place d
      ∧ (s.commit name t c).1.underWay? name = some (t.table, c.batch.pending) ∧ e = .locked := by
  cases pending : c.batch.pending with
  | none =>
    rw [Session.commit, pending] at failed
    cases failed
  | some next =>
    rcases shared.commit_pending name t own pending with ⟨-, refused⟩ | ⟨-, stored⟩
    · rw [refused] at failed ⊢
      refine ⟨shared.setConnection { own with knows := { own.knows with } }, ?_,
        (Except.error.inj failed).symm⟩
      rw [underWay?_setConnection_self, pending]
    · have journal : s.hasJournal name c = true := by
        rw [hasJournal, List.any_cons, pending, kept (by rw [pending]; rfl)]
        rfl
      rw [stored journal] at failed
      cases failed

/-- A batch that fails leaves the file as it is, and adds no more than records at its front. -/
theorem IsShared.write_error (shared : s.IsShared place d)
    (free : s.underWay? name = some (table, none)) {records : List Document}
    (failed : s.write name records = (s', .error e)) :
    s'.IsShared place d ∧ ∃ left, IsLeft d table records e left
      ∧ ∃ pending, s'.underWay? name = some (table, pending)
        ∧ (pending = none ∧ left = [] ∨ pending = some (d.with table left)) := by
  obtain ⟨t, c, bound, connected, rfl, idle⟩ := exists_of_underWay? free
  have own := shared.of_get? bound connected
  cases all : records.mapM prepare with
  | error e =>
    rw [Session.write, bound] at failed
    simp only [writeRows, all] at failed
    obtain ⟨rfl, same⟩ := Prod.mk.inj failed
    obtain rfl := Except.error.inj same
    have kind := (refusesWith_mapM refusesWith_prepare records).of_eq all
    exact ⟨shared, [], isLeft_nil d _ records (isUnbound_of_isOfRecord kind), none, free,
      .inl ⟨rfl, rfl⟩⟩
  | ok prepared =>
    rw [write_eq_of_get? bound connected all] at failed
    obtain ⟨rfl, outcome⟩ := Prod.mk.inj failed
    obtain ⟨c', added, gains, result⟩ :=
      shared.writing_eq name t own prepared
    have writing : (s.writing name t c prepared).1.IsShared place d
        ∧ (s.writing name t c prepared).1.underWay? name = some (t.table, c'.batch.pending)
        ∧ (Stops d t.table prepared added e ∨ added = prepared ∧ e = .locked) := by
      rcases result with ⟨_, refused, stops⟩ | ⟨same, kept, committed⟩
      · rw [refused] at outcome ⊢
        rw [idle, Option.getD_none, Except.error.inj outcome] at stops
        exact ⟨shared.setConnection gains.own, underWay?_setConnection_self .., .inl stops⟩
      · rw [committed] at outcome ⊢
        obtain ⟨still, underWay, locked⟩ := shared.commit_error gains.own (kept idle) outcome
        exact ⟨still, underWay, .inr ⟨same, locked⟩⟩
    obtain ⟨still, underWay, stops⟩ := writing
    obtain ⟨left, isLeft, cells⟩ := exists_isLeft all gains.bound stops
    refine ⟨still.note _, left, isLeft, c'.batch.pending, (underWay?_note ..).trans underWay, ?_⟩
    rcases gains.pending with ⟨same, nothing⟩ | changed
    · rw [nothing] at cells
      exact .inl ⟨same.trans idle, List.map_eq_nil_iff.mp cells⟩
    · refine .inr ?_
      rw [changed, idle, Option.getD_none, Database.with, cells]

/-- What a batch has made of the database in the file stays that while others go on. -/
theorem IsShared.eq_of_pending {next made : Database} (shared : s.IsShared place next)
    (underWay : s.underWay? name = some (table, some made)) (stamp : made.stamp = d.stamp)
    (goes : next = d ∨ next.Follows d) : next = d := by
  obtain ⟨t, c, bound, connected, -, pending⟩ := exists_of_underWay? underWay
  have continues := ((shared.of_get? bound connected).pending made pending).2
  refine goes.resolve_right fun follows => ?_
  have later := follows.changes
  rw [← continues.stamp, stamp] at later
  exact Nat.lt_irrefl _ later

theorem isShared_start (new : HoldsDatabase w place {}) :
    IsShared { workspace := w } place {} where
  made := Database.isMade_empty
  holds := new
  distinct := List.nodup_nil
  sinks := fun _ _ member => absurd member (by simp)

/-- A batch that fails is not taken back.  It leaves the file as it was, but the sink retains the
records before the one that was refused: whatever is done with other sinks of the file, and however
often it is queried, it finds their rows, and puts them into the file with the next batch that it
writes. -/
theorem write_error_retains [Nesting] (new : HoldsDatabase w place {}) {steps : List Step}
    (shares : ∀ step ∈ steps, step.Shares w.home place)
    (reached : s = takeAll { workspace := w } steps)
    (free : s.underWay? name = some (table, none)) {records : List Document}
    (failed : s.write name records = (s', .error e)) :
    ∃ d, HoldsDatabase s.workspace place d ∧ HoldsDatabase s'.workspace place d
      ∧ ∃ left, IsLeft d table records e left
        ∧ ∀ further : List Step, (∀ step ∈ further, step.Shares w.home place) →
          (∀ step ∈ further, step.IsAside name) →
          (s'.takeAll further).Retains name place table left := by
  have sound : s.IsSound w place _ := reached ▸ isSound_takeAll (isSound_new new)
    fun step member => (shares step member).leadsTo
  obtain ⟨d, shared, -⟩ := reached ▸ staysShared_takeAll (isSound_new new) (isShared_start new)
    shares
  obtain ⟨shared', left, isLeft, pending, underWay, made⟩ := shared.write_error free failed
  refine ⟨d, shared.holds, shared'.holds, left, isLeft, fun further shares' aside => ?_⟩
  have sound' := sound.write name records
  rw [failed] at sound'
  obtain ⟨next, later, goes⟩ := staysShared_takeAll sound' shared' shares'
  have still := (underWay?_takeAll aside).trans underWay
  refine later.retains still ?_
  rcases made with ⟨rfl, rfl⟩ | rfl
  · rw [Option.getD_none, Database.with_nil]
  · rw [Option.getD_some, later.eq_of_pending (d := d) still rfl goes]

/-- Whether a sink retains nothing, whatever is done with other sinks of the file. -/
def IsClear [Nesting] (s : Session) (name : String) (home place : List String) (table : String) :
    Prop :=
  ∀ further : List Step, (∀ step ∈ further, step.Shares home place) →
    (∀ step ∈ further, step.IsAside name) → (s.takeAll further).Retains name place table []

/-- The record of a line of which the number has more than 64 bits. -/
def overlong : Document :=
  .mapping [("line_number", .int 9223372036854775808), ("line", .text "id"),
    ("matched", .bool false), ("uuid", .null), ("name", .null), ("values", .mapping []),
    ("tags", .list []), ("content_hash", .text "1f")]

/-- A sink of a table that has been opened. -/
def openSteps : List Step := [.open "a" newSink]

theorem shares_openSteps :
    ∀ step ∈ openSteps, step.Shares (Workspace.home {}) ["", "x.db"] := by
  refine List.forall_mem_singleton.mpr ⟨leadsTo_newSink, fun text l same read => ?_⟩
  obtain rfl := Option.some.inj same
  obtain rfl := Except.ok.inj (read.symm.trans (show Locator.ofText "x.db" = .ok _ by rfl))
  exact ⟨rfl, rfl⟩

theorem underWay?_openSteps :
    letI := Nesting.usual
    (takeAll {} openSteps).underWay? "a" = some ("results", none) := by
  let := Nesting.usual
  exact underWay?_eq_of_any (by decide +kernel)

theorem isBound_unmatched : IsBound unmatched := by
  have bound : ((prepare unmatched).bind Prepared.cells).isOk = true := by decide +kernel
  cases cells : (prepare unmatched).bind Prepared.cells with
  | error e => cases (cells ▸ bound :)
  | ok given =>
    obtain ⟨p, prepared, bound⟩ := bind_eq_ok_iff.mp cells
    exact ⟨p, prepared, given, bound⟩

/-- A sink retains the first record of a batch whose second one cannot be bound. -/
theorem write_error_retains_first :
    letI := Nesting.usual
    ∃ s' e, (takeAll {} openSteps).write "a" [unmatched, overlong] = (s', .error e)
      ∧ s'.Retains "a" ["", "x.db"] "results" [unmatched] := by
  let := Nesting.usual
  obtain ⟨e, failed⟩ := exists_eq_of_isOk
    (x := (takeAll {} openSteps).write "a" [unmatched, overlong]) (by decide +kernel)
  have unbound : (match ((takeAll {} openSteps).write "a" [unmatched, overlong]).2 with
      | .error e => e.isUnbound
      | .ok _ => false) = true := by decide +kernel
  rw [failed] at unbound
  obtain ⟨d, -, -, left, isLeft, retains⟩ :=
    write_error_retains holdsDatabase_new shares_openSteps rfl underWay?_openSteps failed
  have same : left = [unmatched] := by
    rcases isLeft.stops with ⟨-, other⟩ | ⟨-, rfl⟩ | ⟨record, rest, whole, why⟩
    · cases unbound.symm.trans other
    · cases unbound
    · have refused : ¬ IsBound record := by
        refine why.resolve_right ?_
        rintro ⟨rfl, -⟩
        cases unbound
      cases left with
      | nil =>
        obtain ⟨rfl, -⟩ := List.cons.inj whole
        exact absurd isBound_unmatched refused
      | cons first left =>
        obtain ⟨rfl, whole⟩ := List.cons.inj whole
        cases left with
        | nil => rfl
        | cons _ _ => simp at whole
  exact ⟨_, e, failed, same ▸ retains [] (by simp) (by simp)⟩

/-- A batch whose second record is refused is not taken back: the first one is in the file once the
sink has written another batch, although nothing is in that. -/
theorem not_isClear_overlong :
    letI := Nesting.usual
    ∃ s' s'' e, (takeAll {} openSteps).write "a" [unmatched, overlong] = (s', .error e)
      ∧ s'.entriesAt ["", "x.db"] "results" = [] ∧ s'.write "a" [] = (s'', .ok ())
      ∧ s''.entriesAt ["", "x.db"] "results" = [storedCells unmatched]
      ∧ ¬ s'.IsClear "a" (Workspace.home {}) ["", "x.db"] "results" := by
  let := Nesting.usual
  obtain ⟨e, failed⟩ := exists_eq_of_isOk
    (x := (takeAll {} openSteps).write "a" [unmatched, overlong]) (by decide +kernel)
  have written := eq_of_isOk (x := ((takeAll {} openSteps).write "a"
    [unmatched, overlong]).1.write "a" []) (by decide +kernel)
  have before : ((takeAll {} openSteps).write "a" [unmatched, overlong]).1.entriesAt
      ["", "x.db"] "results" = [] := by decide +kernel
  have after : (((takeAll {} openSteps).write "a" [unmatched, overlong]).1.write "a" []).1.entriesAt
      ["", "x.db"] "results" = [storedCells unmatched] := by decide +kernel
  refine ⟨_, _, e, failed, before, written, after, fun clear => ?_⟩
  obtain ⟨d, shared, -⟩ := staysShared_takeAll (isSound_new holdsDatabase_new)
    (isShared_start holdsDatabase_new) shares_openSteps
  have holds := (shared.write_error underWay?_openSteps failed).1.holds
  have kept := (clear [] (by simp) (by simp)).commits d [] _ holds written
  rw [List.nil_append, Database.with_nil, ← entriesAt_eq holds, before, after] at kept
  cases kept

end Session

end LogTemplate.Sink
