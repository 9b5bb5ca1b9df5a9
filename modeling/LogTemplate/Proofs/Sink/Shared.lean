import LogTemplate.Proofs.Sink.Aside
import LogTemplate.Proofs.Sink.Occurrence
import LogTemplate.Proofs.Sink.Open

/-!
# Sinks that share a file

Sinks of one file that keep off each other may be opened, written to, queried and closed in any
order, side by side, whether that succeeds or not.  Main statement: what a sink has read within its
batch is what the file holds, and what its batch has made so far goes on from there.
-/

namespace LogTemplate.Sink

/-- A database that a batch is making of another one. -/
structure Database.Continues (next d : Database) : Prop where
  made : next.IsMade
  stamp : next.stamp = d.stamp
  isThere : ∀ name, (d.table? name).isSome → (next.table? name).isSome

/-- A connection to the file at a place, which holds a database: it keeps off the others, and what
its batch has read and made is no older than the file. -/
structure Connection.IsShared (c : Connection) (place : List String) (d : Database) : Prop where
  here : c.store = .file place
  locking : c.locking = .ordinary
  alone : c.sharesCache = false
  knows : c.Knows d
  snapshot : ∀ read, c.batch.snapshot = some read → read = d
  pending : ∀ next, c.batch.pending = some next →
    c.batch.snapshot = some d ∧ next.Continues d

/-- A connection whose batch has neither read nor made anything. -/
structure Connection.IsFree (c : Connection) : Prop where
  snapshot : c.batch.snapshot = none
  pending : c.batch.pending = none

/-- A sink of a table that has nothing open but the file at a place. -/
def IsShared (place : List String) (d : Database) : Sink → Prop
  | .lines _ => False
  | .table t => ∀ c, t.connection = some c → c.IsShared place d

namespace Database

variable {d next later : Database} {table : String}

theorem continues_refl (made : d.IsMade) : d.Continues d := ⟨made, rfl, fun _ there => there⟩

theorem Continues.follows (continues : next.Continues d) : next.changed.Follows d :=
  follows_changed continues.made (by rw [continues.stamp]) continues.isThere

/-- To change the rows of a table goes on from the same database. -/
theorem Continues.modify (continues : next.Continues d) {f : Table → Table}
    (keeps : ∀ t, (f t).name = t.name) (entries : ∀ t, t.IsOfEntries → (f t).IsOfEntries)
    (table : String) : (next.modify table f).Continues d where
  made := isMade_modify continues.made keeps fun t member _ =>
    entries t (continues.made.tables t member)
  stamp := continues.stamp
  isThere := fun name there => by
    rw [table?_modify keeps, Option.isSome_map]
    exact continues.isThere name there

theorem Follows.trans (last : later.Follows next) (first : next.Follows d) : later.Follows d where
  made := last.made
  changes := Nat.lt_trans first.changes last.changes
  isThere := fun name there => last.isThere name (first.isThere name there)

end Database

namespace Connection

variable {c : Connection} {place : List String} {d next : Database}

theorem IsShared.continues (own : c.IsShared place d) (made : d.IsMade) :
    (c.batch.pending.getD d).Continues d := by
  cases held : c.batch.pending with
  | none => exact Database.continues_refl made
  | some next => exact (own.pending next held).2

/-- Another batch of a connection, of which nothing has been read or made. -/
theorem IsShared.withFree (own : c.IsShared place d) {batch : Batch}
    (free : IsFree { c with batch }) : IsShared { c with batch } place d :=
  { own with
    knows := { own.knows with }
    snapshot := fun _ read => by cases free.snapshot.symm.trans read
    pending := fun _ made => by cases free.pending.symm.trans made }

/-- A connection that has looked at a database. -/
theorem IsShared.look (own : c.IsShared place d) (made : next.IsMade) :
    (c.look next).IsShared place d :=
  { own with
    knows := {
      own.knows with
      heading := fun _ _ same => (Prod.mk.inj (Option.some.inj same)).2 ▸ made.pageSize } }

theorem IsShared.note (own : c.IsShared place d) {α : Type} (outcome : Except Error α) :
    (c.note outcome).IsShared place d := by
  rw [Connection.note.eq_def]
  split
  · exact { own with knows := { own.knows with } }
  · split
    · exact own
    · exact { own with knows := { own.knows with } }

/-- A connection that is at rest goes along with the file. -/
theorem IsShared.follow (own : c.IsShared place d) (free : c.IsFree) (follows : next.Follows d) :
    c.IsShared place next :=
  { own with
    knows := own.knows.follow follows
    snapshot := fun _ read => by cases free.snapshot.symm.trans read
    pending := fun _ made => by cases free.pending.symm.trans made }

end Connection

namespace Session

variable {s s' : Session} {name : String} {place : List String} {d next : Database}
  {t : TableSink} {c : Connection}

/-- A file holds a database that sinks have made, and no sink has anything else open. -/
structure IsShared (s : Session) (place : List String) (d : Database) : Prop where
  made : d.IsMade
  holds : HoldsDatabase s.workspace place d
  distinct : (s.sinks.map Prod.fst).Nodup
  sinks : ∀ name sink, (name, sink) ∈ s.sinks → Sink.IsShared place d sink

/-- Sinks go on to share a file that holds a database, or one that has been made of that. -/
def StaysShared (s : Session) (place : List String) (d : Database) : Prop :=
  ∃ next, s.IsShared place next ∧ (next = d ∨ next.Follows d)

theorem IsShared.stays (shared : s.IsShared place d) : s.StaysShared place d :=
  ⟨d, shared, .inl rfl⟩

theorem StaysShared.trans (stays : s.StaysShared place next) (first : next = d ∨ next.Follows d) :
    s.StaysShared place d := by
  obtain ⟨later, shared, same | follows⟩ := stays
  · exact ⟨later, shared, same ▸ first⟩
  · rcases first with rfl | before
    · exact ⟨later, shared, .inr follows⟩
    · exact ⟨later, shared, .inr (follows.trans before)⟩

/-! ## What a sink sees -/

theorem IsShared.of_get? (shared : s.IsShared place d) (bound : s.get? name = some (.table t))
    (connected : t.connection = some c) : c.IsShared place d :=
  shared.sinks name _ ((OrderedMap.lookup_eq_some_iff shared.distinct).mp bound) c connected

theorem IsShared.of_connection? (shared : s.IsShared place d)
    (found : s.connection? name = some (t, c)) : c.IsShared place d := by
  obtain ⟨bound, connected⟩ := connection?_eq_some_iff.mp found
  exact shared.of_get? bound connected

theorem IsShared.not_lines (shared : s.IsShared place d) {sink : LineSink}
    (bound : s.get? name = some (.lines sink)) : False :=
  shared.sinks name _ ((OrderedMap.lookup_eq_some_iff shared.distinct).mp bound)

/-- No other sink knows what one knows that shares nothing. -/
theorem mates_eq_nil (s : Session) (name : String) (alone : c.sharesCache = false) :
    s.mates name c = [] := by
  rw [mates, List.filter_eq_nil_iff]
  simp [Connection.isMate, alone]

theorem IsShared.recover_eq (shared : s.IsShared place d) (own : c.IsShared place d) :
    s.recover name c = (s, c) :=
  Session.recover_eq shared.made shared.holds own.here

theorem IsShared.committed_eq (shared : s.IsShared place d) (own : c.IsShared place d) :
    s.committed c = .ok d :=
  Session.committed_eq shared.made shared.holds own.here own.knows

/-- A sink sees what its batch has made, or what the file holds, unless another one is in its way.
-/
theorem IsShared.view_cases (shared : s.IsShared place d) (own : c.IsShared place d)
    (name : String) :
    s.view name c = .ok (c.batch.pending.getD d) ∨ s.view name c = .error .locked := by
  rw [view]
  split
  · rename_i kept
    rw [kept]
    exact .inl rfl
  · rename_i none kept
    rw [none, own.snapshot _ kept]
    exact .inl rfl
  · rename_i none _
    rw [none, mates_eq_nil s name own.alone, Session.hindrance?_eq shared.holds own.here,
      shared.committed_eq own]
    split
    · exact .inr rfl
    · exact .inl rfl

theorem IsShared.view_ok (shared : s.IsShared place d) (own : c.IsShared place d)
    (seen : s.view name c = .ok next) : next = c.batch.pending.getD d := by
  rcases shared.view_cases own name with sees | locked
  · exact Except.ok.inj (seen.symm.trans sees)
  · cases seen.symm.trans locked

/-! ## Sinks that are bound and told -/

theorem IsShared.bind (shared : s.IsShared place d) {sink : Sink}
    (own : Sink.IsShared place d sink) : (s.bind name sink).IsShared place d where
  made := shared.made
  holds := shared.holds
  distinct := OrderedMap.nodup_set shared.distinct
  sinks := fun other found member => by
    rcases mem_set member with known | same
    · exact shared.sinks other found known
    · obtain ⟨-, rfl⟩ := Prod.mk.inj same
      exact own

theorem IsShared.setConnection (shared : s.IsShared place d) (own : c.IsShared place d) :
    (s.setConnection name t c).IsShared place d :=
  shared.bind fun _ connected => Option.some.inj connected ▸ own

theorem IsShared.note (shared : s.IsShared place d) {α : Type} (outcome : Except Error α) :
    (s.note name outcome).IsShared place d := by
  rw [Session.note]
  split
  · rename_i t bound
    refine shared.bind fun c connected => ?_
    obtain ⟨own, held, rfl⟩ := Option.map_eq_some_iff.mp connected
    exact (shared.of_get? bound held).note outcome
  · exact shared

theorem StaysShared.note (stays : s.StaysShared place d) {α : Type} (outcome : Except Error α) :
    (s.note name outcome).StaysShared place d := by
  obtain ⟨next, shared, goes⟩ := stays
  exact ⟨next, shared.note outcome, goes⟩

theorem IsShared.tell (shared : s.IsShared place d) (c : Connection)
    {f : Connection → Connection}
    (keeps : ∀ e : Connection, e.IsShared place d → (f e).IsShared place d) :
    (s.tell name c f).IsShared place d where
  made := shared.made
  holds := shared.holds
  distinct := by
    rw [sinks_tell, List.map_map]
    exact shared.distinct
  sinks := fun other sink member => by
    obtain ⟨known, inside, rfl⟩ := exists_of_mem_tell member
    have own := shared.sinks other known inside
    cases known with
    | lines _ => exact own
    | table t =>
      intro e connected
      obtain ⟨held, bound, rfl⟩ := Option.map_eq_some_iff.mp connected
      split
      · exact keeps held (own held bound)
      · exact own held bound

theorem IsShared.withWorkspace (shared : s.IsShared place d) {w : Workspace}
    (holds : HoldsDatabase w place d) : IsShared { s with workspace := w } place d :=
  ⟨shared.made, holds, shared.distinct, shared.sinks⟩

theorem IsShared.dropJournals (shared : s.IsShared place d) (name : String) (c : Connection) :
    (s.dropJournals name c).IsShared place d := by
  rw [Session.dropJournals]
  split
  · exact shared.tell c fun _ own => { own with knows := { own.knows with } }
  · exact shared

/-- A sink tells those nothing that do not share what they know. -/
theorem tell_eq_self {f : Connection → Connection} (same : ∀ e, f e = e) :
    s.tell name c f = s := by
  have sinks : (s.tell name c f).sinks = s.sinks := by
    rw [sinks_tell]
    refine (List.map_congr_left fun e _ => ?_).trans (List.map_id _)
    rw [told_eq_self fun d _ => same d]
    rfl
  rw [tell] at sinks ⊢
  exact congrArg (fun sinks => { s with sinks }) sinks

theorem reveal_eq_self (alone : c.sharesCache = false) (next : Database) :
    s.reveal name c next = s :=
  tell_eq_self fun e => by simp [Connection.isMate, alone]

theorem wake_eq_self (alone : c.sharesCache = false) : s.wake name c = s := by
  rw [wake, mates_eq_nil s name alone]
  simp

/-! ## Ends of batches -/

theorem IsShared.release (shared : s.IsShared place d) (here : c.store = .file place)
    (alone : c.sharesCache = false) : (s.release name c).IsShared place d := by
  rw [Session.release, wake_eq_self alone, here]
  split
  · rename_i elsewhere next same _
    obtain rfl := Store.file.inj same
    have dropped := shared.dropJournals name c
    dsimp only
    split
    · exact dropped
    · exact dropped.withWorkspace dropped.holds.drop
  · exact shared

theorem IsShared.leave (shared : s.IsShared place d) (name : String) :
    (s.leave name).IsShared place d := by
  rw [Session.leave]
  split
  · rename_i t c found
    have own := shared.of_connection? found
    have left : (s.release name c).IsShared place d := shared.release own.here own.alone
    simp only [dropLog, own.here, own.knows.usesLog, Bool.false_and, Bool.false_eq_true, if_false]
    exact left
  · exact shared

/-- No other sink has read the database within its batch. -/
def IsUnread (s : Session) (name : String) : Prop :=
  ∀ other t e, (other, .table t) ∈ s.sinks → other ≠ name → t.connection = some e → e.IsFree

/-- All other sinks of the file are rivals. -/
theorem IsShared.mem_rivals (shared : s.IsShared place d) (own : c.IsShared place d)
    {other : String} {e : Connection} (member : (other, .table t) ∈ s.sinks)
    (apart : other ≠ name) (connected : t.connection = some e) : e ∈ s.rivals name c := by
  have rival := shared.sinks other _ member e connected
  rw [rivals, List.mem_filter]
  refine ⟨List.mem_filterMap.mpr ⟨_, member, ?_⟩, ?_⟩
  · obtain ⟨path, table, empties, connection⟩ := t
    obtain rfl : connection = some e := connected
    simp [apart, rival.here, own.here, Store.isSame]
  · simp [Connection.isRival, Connection.isMate, own.alone, own.locking, rival.locking]

theorem IsShared.isUnread (shared : s.IsShared place d) (own : c.IsShared place d)
    (plain : next.isLogged = false) (free : s.isRead name c next = false) : s.IsUnread name := by
  intro other t e member apart connected
  rw [isRead, plain, Bool.not_false, Bool.true_and, List.any_eq_false] at free
  have unread := free e (shared.mem_rivals own member apart connected)
  have none : e.batch.snapshot = none := by simpa using unread
  refine ⟨none, Option.eq_none_iff_forall_ne_some.mpr fun next made => ?_⟩
  have read := ((shared.sinks other _ member e connected).pending next made).1
  cases none.symm.trans read

/-- The others go along when a sink of the file is bound anew while that comes to hold another
database. -/
theorem IsShared.rebind (shared : s.IsShared place d) (unread : s.IsUnread name)
    (follows : next.Follows d) (own : c.IsShared place next) {w : Workspace}
    (holds : HoldsDatabase w place next) :
    IsShared { s.setConnection name t c with workspace := w } place next where
  made := follows.made
  holds := holds
  distinct := OrderedMap.nodup_set shared.distinct
  sinks := fun other sink member => by
    by_cases same : other = name
    · have found := (OrderedMap.lookup_eq_some_iff (OrderedMap.nodup_set shared.distinct)).mpr
        member
      rw [same, OrderedMap.lookup_set, if_pos rfl] at found
      obtain rfl := Option.some.inj found
      exact fun e connected => Option.some.inj connected ▸ own
    · rcases mem_set member with known | bound
      · have before := shared.sinks other sink known
        cases sink with
        | lines _ => exact before
        | table t =>
          exact fun e connected =>
            (before e connected).follow (unread other t e known same connected) follows
      · exact absurd (Prod.mk.inj bound).1 same

/-- A sink stores a database that no other sink has read, and knows it. -/
theorem IsShared.store (shared : s.IsShared place d) (own : c.IsShared place d) (free : c.IsFree)
    (unread : s.IsUnread name) (follows : next.changed.Follows d) :
    (s.store name t c next).IsShared place next.changed
      ∧ (s.store name t c next).get? name = some (.table { t with
          connection := some { c.look next.changed with cached := some next.changed } }) := by
  have plain : next.changed.isLogged = false := follows.made.isLogged
  have later := (own.follow free follows).look follows.made
  have own' : Connection.IsShared
      { c.look next.changed with cached := some next.changed } place next.changed :=
    { later with
      knows := { later.knows with cached := fun _ same => .inl (Option.some.inj same).symm } }
  have bound := (shared.rebind (t := t) unread follows own'
    (shared.holds.store next.changed)).dropJournals name c
  rw [Session.store, reveal_eq_self own.alone, own.here]
  simp only [plain, Bool.false_eq_true, if_false]
  refine ⟨?_, (get?_dropJournals _ _ _).trans get?_bind_self⟩
  rw [Session.dropJournals, own.here] at bound ⊢
  exact bound

/-- What a batch comes to is what it has made, as the file has not changed since it began. -/
theorem IsShared.outcome_eq (shared : s.IsShared place d) (own : c.IsShared place d)
    (pending : c.batch.pending = some next) : s.outcome c next = next := by
  have now : s.committed { c with cached := none } = .ok d :=
    Session.committed_eq shared.made shared.holds own.here
      { own.knows with cached := fun _ none => by cases none }
  simp only [outcome, (own.pending next pending).1, now, beq_self_eq_true, if_true]

/-- What a batch has made is in the file once it is committed, unless others read the file. -/
theorem IsShared.commit_pending (shared : s.IsShared place d) (name : String) (t : TableSink)
    (own : c.IsShared place d) (pending : c.batch.pending = some next) :
    (s.isRead name c next = true ∧ s.commit name t c =
        (s.setConnection name t { c with batch := { c.batch with isBlocking := true } },
          .error .locked))
      ∨ (s.commit name t c).1.IsShared place next.changed
        ∧ (s.hasJournal name c = true → (s.commit name t c).2 = .ok ()) := by
  have continues := (own.pending next pending).2
  rw [Session.commit, pending]
  dsimp only
  cases read : s.isRead name c next with
  | true => exact .inl ⟨rfl, rfl⟩
  | false =>
    have idle : Connection.IsFree { c with batch := {} } := ⟨rfl, rfl⟩
    have stored := (shared.store (t := t) (own.withFree idle) idle
      (shared.isUnread own continues.made.isLogged read) continues.follows).1
    refine .inr ⟨?_, fun kept => ?_⟩
    · simp only [shared.outcome_eq own pending, Bool.false_eq_true, if_false]
      exact stored.release own.here own.alone
    · simp [kept]

theorem IsShared.commit (shared : s.IsShared place d) (own : c.IsShared place d) :
    (s.commit name t c).1.StaysShared place d := by
  cases pending : c.batch.pending with
  | none =>
    rw [Session.commit, pending]
    exact ((shared.setConnection (own.withFree ⟨rfl, rfl⟩)).release own.here own.alone).stays
  | some next =>
    rcases shared.commit_pending name t own pending with ⟨-, refused⟩ | ⟨stored, -⟩
    · rw [refused]
      exact (shared.setConnection (t := t)
        (c := { c with batch := { c.batch with isBlocking := true } })
        { own with knows := { own.knows with } }).stays
    · exact ⟨_, stored, .inr (own.pending next pending).2.follows⟩

end Session

end LogTemplate.Sink
