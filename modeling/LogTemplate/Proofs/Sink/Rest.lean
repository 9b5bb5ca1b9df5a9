import LogTemplate.Proofs.OrderedMap
import LogTemplate.Proofs.Sink.Beside
import LogTemplate.Proofs.Sink.Session

/-!
# Sinks at rest

As long as no other sink of a database has a batch under way, none is in the way of a sink, and it
sees what the file of the database holds.  Main statements: what a sink sees and may do then, and
that the others stay at rest whatever becomes of its own connection.
-/

namespace LogTemplate.Sink

/-- A batch that has neither begun nor kept anything of one before it. -/
structure Batch.IsIdle (b : Batch) : Prop where
  isOpen : b.isOpen = false
  snapshot : b.snapshot = none
  pending : b.pending = none
  isBlocking : b.isBlocking = false
  isWaiting : b.isWaiting = false
  reads : b.reads = []
  writes : b.writes = []

theorem Batch.isIdle_new : Batch.IsIdle {} := ⟨rfl, rfl, rfl, rfl, rfl, rfl, rfl⟩

/-- What a connection knows of the database in a file is what that is, or can be told from it. -/
structure Connection.Knows (c : Connection) (d : Database) : Prop where
  locking : c.locking ≠ .immutable
  usesLog : c.usesLog = false
  heading : ∀ stamp size, c.heading = some (stamp, size) → size = 4096
  cached : ∀ known, c.cached = some known → known = d ∨ known.stamp.changes < d.stamp.changes

/-- A connection of the sink of a table that is in nobody's way. -/
structure Connection.Rests (c : Connection) (d : Database) (table : String) : Prop where
  knows : c.Knows d
  idle : c.batch.IsIdle
  isReservedWord : TableName.isReservedWord table = false
  isThere : (d.table? table).isSome

/-- A sink is at rest, as far as it has the file at a place open. -/
def Rests (place : List String) (d : Database) : Sink → Prop
  | .lines _ => True
  | .table t => ∀ c, t.connection = some c → c.store = .file place → c.Rests d t.table

/-- A database comes next that has been changed from another one. -/
structure Database.Follows (next d : Database) : Prop where
  made : next.IsMade
  changes : d.stamp.changes < next.stamp.changes
  isThere : ∀ name, (d.table? name).isSome → (next.table? name).isSome

theorem Connection.Knows.follow {c : Connection} {d next : Database} (knows : c.Knows d)
    (follows : next.Follows d) : c.Knows next where
  locking := knows.locking
  usesLog := knows.usesLog
  heading := knows.heading
  cached := by
    intro known kept
    rcases knows.cached known kept with rfl | older
    · exact .inr follows.changes
    · exact .inr (Nat.lt_trans older follows.changes)

theorem Rests.follow {place : List String} {d next : Database} {sink : Sink}
    (rests : Rests place d sink) (follows : next.Follows d) : Rests place next sink := by
  cases sink with
  | lines _ => trivial
  | table t =>
    intro c connected here
    have own := rests c connected here
    exact ⟨own.knows.follow follows, own.idle, own.isReservedWord,
      follows.isThere t.table own.isThere⟩

namespace Session

/-- A file holds a database that sinks have made, and all sinks but one are at rest there. -/
structure OthersRest (s : Session) (name : String) (place : List String) (d : Database) :
    Prop where
  made : d.IsMade
  holds : HoldsDatabase s.workspace place d
  distinct : (s.sinks.map Prod.fst).Nodup
  rest : ∀ other sink, (other, sink) ∈ s.sinks → other ≠ name → Rests place d sink

variable {s : Session} {name : String} {place : List String} {d : Database} {t : TableSink}
  {c : Connection}

/-! ## What a sink sees -/

theorem mem_others {e : Connection} (member : e ∈ s.others name c) :
    ∃ other t, (other, .table t) ∈ s.sinks ∧ other ≠ name ∧ t.connection = some e
      ∧ e.store.isSame c.store = true := by
  obtain ⟨⟨other, sink⟩, known, found⟩ := List.mem_filterMap.mp member
  dsimp only at found
  split at found
  · rename_i path table empties f
    split at found
    · rename_i both
      obtain rfl := Option.some.inj found
      rw [Bool.and_eq_true, bne_iff_ne] at both
      exact ⟨other, _, known, both.1, rfl, both.2⟩
    · cases found
  · cases found

theorem eq_of_isSame_file {store : Store} (same : store.isSame (.file place) = true) :
    store = .file place := by
  cases store with
  | file other => rw [Store.isSame, beq_iff_eq] at same; rw [same]
  | shared _ _ => cases same
  | memory _ => cases same

/-- The other sinks of a database are at rest. -/
theorem OthersRest.of_mem (others : s.OthersRest name place d) (here : c.store = .file place)
    {e : Connection} (member : e ∈ s.others name c) : ∃ table, e.Rests d table := by
  obtain ⟨other, t, known, apart, connected, same⟩ := mem_others member
  rw [here] at same
  exact ⟨t.table, others.rest other _ known apart e connected (eq_of_isSame_file same)⟩

theorem OthersRest.idle_of_mem (others : s.OthersRest name place d) (here : c.store = .file place)
    {e : Connection} (member : e ∈ s.others name c) : e.batch.IsIdle :=
  (others.of_mem here member).elim fun _ rests => rests.idle

theorem OthersRest.any_mates (others : s.OthersRest name place d) (here : c.store = .file place)
    {p : Connection → Bool} (none : ∀ e : Connection, e.batch.IsIdle → p e = false) :
    (s.mates name c).any p = false :=
  List.any_eq_false.mpr fun _ member => Bool.not_eq_true _ ▸
    none _ (others.idle_of_mem here (List.mem_of_mem_filter member))

theorem OthersRest.any_rivals (others : s.OthersRest name place d) (here : c.store = .file place)
    {p : Connection → Bool} (none : ∀ e : Connection, e.batch.IsIdle → p e = false) :
    (s.rivals name c).any p = false :=
  List.any_eq_false.mpr fun _ member => Bool.not_eq_true _ ▸
    none _ (others.idle_of_mem here (List.mem_of_mem_filter member))

theorem OthersRest.isBlocked_eq (others : s.OthersRest name place d)
    (here : c.store = .file place) : s.isBlocked name c = false := by
  have waiting := others.any_mates here (p := (·.batch.isWaiting)) fun _ idle => idle.isWaiting
  have inTheWay := others.any_rivals here (p := (·.isInTheWay)) fun e idle => by
    rw [Connection.isInTheWay]
    split
    · rw [idle.snapshot]; rfl
    · rw [idle.pending]; rfl
    · exact idle.isBlocking
  rw [isBlocked, waiting, inTheWay, Bool.and_false]
  rfl

/-- What lies beside a file does not keep a sink from reading it. -/
theorem hindrance?_eq (holds : HoldsDatabase s.workspace place d) (here : c.store = .file place) :
    s.hindrance? name c = none := by
  have lock : (Beside.lock.node? s.workspace place).isSome = false := by
    rw [holds.alone]
    rfl
  have left : s.leftover name c place = .nothing := by
    simp only [leftover, holds.leftover_eq, ite_self]
  have log := Beside.isIn_eq_false (holds.alone .log)
  simp [hindrance?, here, lock, left, log]

theorem OthersRest.hindrance?_eq (others : s.OthersRest name place d)
    (here : c.store = .file place) : s.hindrance? name c = none :=
  Session.hindrance?_eq others.holds here

/-- A sink finds in the file what that holds. -/
theorem committed_eq (made : d.IsMade) (holds : HoldsDatabase s.workspace place d)
    (here : c.store = .file place) (knows : c.Knows d) : s.committed c = .ok d := by
  rw [committed, here]
  dsimp only
  split
  · rename_i content file
    have log := Beside.isIn_eq_false (holds.alone .log)
    have kept : (d.keepsLog || Beside.log.isIn s.workspace place) = false := by
      rw [made.keepsLog, log]
      rfl
    have known : ∀ size, size = 4096 →
        foundAgain content d.stamp size (c.cached.filter (·.stamp == d.stamp)) = .ok d := by
      rintro size rfl
      rw [foundAgain.eq_def, holds.isShorter_eq_false file, if_neg Bool.false_ne_true]
      cases same : c.cached.filter (·.stamp == d.stamp) with
      | none =>
        simp only [holds.databaseOf file, ok_bind, made.pageSize]
        rfl
      | some found =>
        rw [Option.filter_eq_some_iff, beq_iff_eq] at same
        rcases knows.cached found same.1 with rfl | older
        · rfl
        · rw [same.2] at older
          exact absurd older (Nat.lt_irrefl _)
    have mutable : (c.locking == .immutable) = false := by simpa using knows.locking
    rw [found, mutable, log, holds.loggedContent_eq, holds.databaseOf file]
    simp only [Bool.false_and, Bool.false_eq_true, if_false, ok_bind, made.keepsLog,
      Bool.or_false]
    split
    · rename_i stamp size heading
      split
      · rename_i same
        rw [beq_iff_eq.mp same]
        exact known size (knows.heading _ _ heading)
      · rfl
    · rfl
  · rename_i file
    exact absurd file holds.not_directory
  · rename_i file
    rcases holds.file with held | ⟨-, rfl⟩
    · rw [file] at held
      cases held
    · rfl

theorem OthersRest.committed_eq (others : s.OthersRest name place d)
    (here : c.store = .file place) (knows : c.Knows d) : s.committed c = .ok d :=
  Session.committed_eq others.made others.holds here knows

theorem OthersRest.view_eq (others : s.OthersRest name place d) (here : c.store = .file place)
    (knows : c.Knows d) (snapshot : c.batch.snapshot = none) (pending : c.batch.pending = none) :
    s.view name c = .ok d := by
  have unread : (s.mates name c).findSome? (·.batch.snapshot) = none :=
    List.findSome?_eq_none_iff.mpr fun e member =>
      (others.idle_of_mem here (List.mem_of_mem_filter member)).snapshot
  rw [view, pending, snapshot]
  simp only [others.isBlocked_eq here, unread, others.hindrance?_eq here,
    others.committed_eq here knows]
  rfl

/-- Beside a file there is nothing to do before a sink reads it. -/
theorem recover_eq (made : d.IsMade) (holds : HoldsDatabase s.workspace place d)
    (here : c.store = .file place) : s.recover name c = (s, c) := by
  have left : s.leftover name c place = .nothing := by
    simp only [leftover, holds.leftover_eq, ite_self]
  have log := Beside.isIn_eq_false (holds.alone .log)
  have clear : s.clearJournal name c place = (s.workspace, true) := by
    rw [clearJournal, left]
  rw [recover, here]
  dsimp only
  simp only [clear, log, holds.keepsLog_eq made, Bool.or_false, Bool.and_false,
    Bool.false_and, Bool.false_eq_true, if_false, Bool.not_true]
  split
  · rfl
  · split <;> rfl

theorem OthersRest.recover_eq (others : s.OthersRest name place d) (here : c.store = .file place) :
    s.recover name c = (s, c) :=
  Session.recover_eq others.made others.holds here

theorem OthersRest.checkHold_eq (others : s.OthersRest name place d) (here : c.store = .file place)
    (knows : c.Knows d) (snapshot : c.batch.snapshot = none) :
    s.checkHold name c = if c.isReadOnly then .error .readOnly else .ok () := by
  have held : (s.rivals name c ++ s.mates name c).any (·.batch.pending.isSome) = false := by
    have unheld : ∀ e : Connection, e.batch.IsIdle → e.batch.pending.isSome = false :=
      fun e idle => by rw [idle.pending]; rfl
    rw [List.any_append, others.any_rivals here unheld, others.any_mates here unheld]
    rfl
  have stale : s.isStale c = false := by
    rw [isStale, snapshot]
  have writable : (Except.ok d : Except Error Database).toOption.any (·.isReadOnly) = false :=
    others.made.isReadOnly
  rw [checkHold, others.committed_eq here knows, writable, held, stale]
  simp

theorem OthersRest.isRead_eq (others : s.OthersRest name place d) (here : c.store = .file place)
    (next : Database) : s.isRead name c next = false := by
  have unread := others.any_rivals here (p := (·.batch.snapshot.isSome)) fun _ idle => by
    rw [idle.snapshot]; rfl
  rw [isRead, unread, Bool.and_false]

/-- The name of what undoes a change is short enough for a file beside that at a place. -/
def FitsJournal (place : List String) : Prop :=
  (place.getLastD "" ++ Beside.journal.ending).utf8ByteSize ≤ Workspace.nameLimit

theorem OthersRest.canUndo_iff (others : s.OthersRest name place d) (here : c.store = .file place)
    {next : Database} (plain : next.isLogged = false) :
    s.canUndo c next = true ↔ FitsJournal place := by
  have free := Beside.isDirectory_eq_false (others.holds.alone .journal)
  simp [canUndo, here, plain, Beside.fits, free, FitsJournal]

end Session

end LogTemplate.Sink
