import LogTemplate.Proofs.Sink.Rest

/-!
# Changes that a sink makes for all to see

Main statements: when a sink stores a database or commits a batch, the file holds the database
afterwards, and the other sinks are at rest as they were.
-/

namespace LogTemplate.Sink.Session

variable {s : Session} {name : String} {place : List String} {d next : Database} {t : TableSink}
  {c : Connection}

/-! ## Sinks that are bound and told -/

theorem mem_set {α : Type} {key : String} {value : α} {entries : List (String × α)}
    {e : String × α} (member : e ∈ OrderedMap.set key value entries) :
    e ∈ entries ∨ e = (key, value) := by
  induction entries with
  | nil => exact .inr (List.mem_singleton.mp member)
  | cons first entries ih =>
    rw [OrderedMap.set] at member
    split at member
    · rename_i same
      rcases List.mem_cons.mp member with rfl | later
      · exact .inr (by rw [same])
      · exact .inl (List.mem_cons_of_mem _ later)
    · rcases List.mem_cons.mp member with rfl | later
      · exact .inl List.mem_cons_self
      · exact (ih later).imp_left (List.mem_cons_of_mem first)

theorem OthersRest.bind (others : s.OthersRest name place d) (sink : Sink) :
    (s.bind name sink).OthersRest name place d where
  made := others.made
  holds := others.holds
  distinct := OrderedMap.nodup_set others.distinct
  rest := fun other found member apart => by
    rcases mem_set member with known | own
    · exact others.rest other found known apart
    · exact absurd (Prod.mk.inj own).1 apart

/-- A sink of a name once it is told of a change by the sink of a connection. -/
def told (name : String) (c : Connection) (f : Connection → Connection) (other : String) :
    Sink → Sink
  | .table t => .table { t with connection := t.connection.map fun d =>
      if other != name && d.store.isSame c.store then f d else d }
  | .lines sink => .lines sink

theorem sinks_tell (s : Session) (name : String) (c : Connection) (f : Connection → Connection) :
    (s.tell name c f).sinks = s.sinks.map fun e => (e.1, told name c f e.1 e.2) := by
  rw [tell]
  refine List.map_congr_left fun e _ => ?_
  obtain ⟨other, sink⟩ := e
  cases sink with
  | lines _ => rfl
  | table t =>
    obtain ⟨path, table, empties, connection⟩ := t
    cases connection with
    | none => rfl
    | some d =>
      dsimp only [told, Option.map_some]
      split <;> rfl

theorem lookup_map_entries {α β : Type} (f : String → α → β) (key : String)
    (entries : List (String × α)) :
    OrderedMap.lookup key (entries.map fun e => (e.1, f e.1 e.2)) =
      (OrderedMap.lookup key entries).map (f key) := by
  induction entries with
  | nil => rfl
  | cons e entries ih =>
    rw [List.map_cons, OrderedMap.lookup, OrderedMap.lookup, ih]
    split
    · rename_i same
      rw [same]
      rfl
    · rfl

/-- Sinks that are told something were there before. -/
theorem exists_of_mem_tell {f : Connection → Connection} {other : String} {sink : Sink}
    (member : (other, sink) ∈ (s.tell name c f).sinks) :
    ∃ known, (other, known) ∈ s.sinks ∧ sink = told name c f other known := by
  rw [sinks_tell] at member
  obtain ⟨⟨key, known⟩, inside, same⟩ := List.mem_map.mp member
  obtain ⟨rfl, rfl⟩ := Prod.mk.inj same
  exact ⟨known, inside, rfl⟩

/-- A sink is told nothing new if the change leaves its connection alone. -/
theorem told_eq_self {f : Connection → Connection} {other : String}
    (same : ∀ e, (other != name && e.store.isSame c.store) = true → f e = e) (sink : Sink) :
    told name c f other sink = sink := by
  cases sink with
  | lines _ => rfl
  | table t =>
    obtain ⟨path, table, empties, connection⟩ := t
    cases connection with
    | none => rfl
    | some e =>
      rw [told, Option.map_some]
      split
      · rw [same e (by assumption)]
      · rfl

/-- A sink does not tell itself anything. -/
theorem get?_tell (s : Session) (name : String) (c : Connection) (f : Connection → Connection) :
    (s.tell name c f).get? name = s.get? name := by
  have same : told name c f name = id := funext (told_eq_self (by simp))
  rw [get?, get?, sinks_tell, lookup_map_entries (told name c f), same, Option.map_id, id]

/-- A change of a batch that leaves an idle one idle. -/
def KeepsIdle (f : Connection → Connection) : Prop :=
  ∀ c, ∃ batch, f c = { c with batch } ∧ (c.batch.IsIdle → batch.IsIdle)

theorem OthersRest.tell (others : s.OthersRest name place d) (c : Connection)
    {f : Connection → Connection} (keeps : KeepsIdle f) :
    (s.tell name c f).OthersRest name place d where
  made := others.made
  holds := others.holds
  distinct := by
    rw [sinks_tell, List.map_map]
    exact others.distinct
  rest := by
    intro other sink member apart
    obtain ⟨known, inside, rfl⟩ := exists_of_mem_tell member
    have rests := others.rest other known inside apart
    cases known with
    | lines _ => trivial
    | table t =>
      intro e connected here
      obtain ⟨own, held, rfl⟩ := Option.map_eq_some_iff.mp connected
      split at here
      · obtain ⟨batch, shape, idle⟩ := keeps own
        rw [if_pos (by assumption), shape]
        rw [shape] at here
        have before := rests own held here
        exact ⟨⟨before.knows.locking, before.knows.usesLog, before.knows.heading,
          before.knows.cached⟩, idle before.idle, before.isReservedWord, before.isThere⟩
      · rw [if_neg (by assumption)]
        exact rests own held here

theorem keepsIdle_reveal (c : Connection) (d : Database) : KeepsIdle fun mate =>
    if c.isMate mate then
      { mate with batch := { mate.batch with snapshot := mate.batch.snapshot.map fun _ => d } }
    else mate := by
  intro mate
  by_cases shares : c.isMate mate
  · refine ⟨_, if_pos shares, fun idle => { idle with snapshot := ?_ }⟩
    simp [idle.snapshot]
  · exact ⟨mate.batch, if_neg shares, id⟩

theorem keepsIdle_dropJournals : KeepsIdle fun c =>
    { c with batch := { c.batch with hasJournal := false } } := fun _ =>
  ⟨_, rfl, fun idle => { idle with }⟩

theorem keepsIdle_wake (c : Connection) : KeepsIdle fun d =>
    if c.isMate d then { d with batch := { d.batch with isWaiting := false } } else d := by
  intro mate
  by_cases shares : c.isMate mate
  · exact ⟨_, if_pos shares, fun idle => { idle with isWaiting := rfl }⟩
  · exact ⟨mate.batch, if_neg shares, id⟩

theorem OthersRest.dropJournals (others : s.OthersRest name place d) (c : Connection) :
    (s.dropJournals name c).OthersRest name place d := by
  rw [Session.dropJournals]
  split
  · exact others.tell c keepsIdle_dropJournals
  · exact others

theorem OthersRest.wake (others : s.OthersRest name place d) (c : Connection) :
    (s.wake name c).OthersRest name place d := by
  rw [Session.wake]
  split
  · exact others.tell c (keepsIdle_wake c)
  · exact others

theorem get?_dropJournals (s : Session) (name : String) (c : Connection) :
    (s.dropJournals name c).get? name = s.get? name := by
  rw [dropJournals]
  split
  · exact get?_tell s name c _
  · rfl

theorem workspace_dropJournals (s : Session) (name : String) (c : Connection) :
    (s.dropJournals name c).workspace = s.workspace := by
  rw [dropJournals]
  split <;> rfl

theorem get?_wake (s : Session) (name : String) (c : Connection) :
    (s.wake name c).get? name = s.get? name := by
  rw [wake]
  split
  · exact get?_tell s name c _
  · rfl

theorem OthersRest.withWorkspace (others : s.OthersRest name place d) {w : Workspace}
    (holds : HoldsDatabase w place next) (follows : next.Follows d ∨ next = d) :
    OthersRest { s with workspace := w } name place next := by
  rcases follows with follows | rfl
  · exact ⟨follows.made, holds, others.distinct,
      fun other sink member apart => (others.rest other sink member apart).follow follows⟩
  · exact ⟨others.made, holds, others.distinct, others.rest⟩

/-! ## Ends of batches -/

/-- What is beside the file of a database is taken away when a batch ends. -/
theorem OthersRest.release (others : s.OthersRest name place d) (here : c.store = .file place) :
    (s.release name c).OthersRest name place d := by
  have woken := others.wake c
  rw [Session.release, here]
  split
  · rename_i elsewhere next same _
    obtain rfl := Store.file.inj same
    have dropped := woken.dropJournals c
    split
    · exact dropped
    · exact dropped.withWorkspace dropped.holds.drop (.inr rfl)
  · exact woken

theorem get?_release (s : Session) (name : String) (c : Connection) :
    (s.release name c).get? name = s.get? name := by
  rw [release]
  split
  · split
    · rw [get?_dropJournals, get?_wake]
    · exact (get?_dropJournals _ _ _).trans (get?_wake _ _ _)
  · exact get?_wake _ _ _

/-- What a sink has stored is in the file, and the sink knows it. -/
theorem OthersRest.store (others : s.OthersRest name place d) (here : c.store = .file place)
    (follows : next.changed.Follows d) :
    (s.store name t c next).OthersRest name place next.changed
      ∧ (s.store name t c next).get? name = some (.table { t with
          connection := some { c.look next.changed with cached := some next.changed } }) := by
  have plain : next.changed.isLogged = false := follows.made.isLogged
  have revealed : (s.reveal name c next.changed).OthersRest name place d :=
    others.tell c (keepsIdle_reveal c next.changed)
  have bound := (revealed.bind (.table { t with
    connection := some { c.look next.changed with cached := some next.changed } })).dropJournals c
  rw [Session.store, here]
  simp only [plain, Bool.false_eq_true, if_false]
  refine ⟨bound.withWorkspace (revealed.holds.store next.changed) (.inl follows), ?_⟩
  exact (get?_dropJournals _ _ _).trans get?_bind_self

/-- A batch that has read and changed the last state of a database is committed. -/
theorem OthersRest.commit (others : s.OthersRest name place d) (here : c.store = .file place)
    (knows : c.Knows d) (snapshot : c.batch.snapshot = some d)
    (pending : c.batch.pending = some next) (journal : c.batch.hasJournal = true)
    (follows : next.changed.Follows d) :
    ∃ s', s.commit name t c = (s', .ok ()) ∧ s'.OthersRest name place next.changed
      ∧ s'.get? name = some (.table { t with connection := some {
          Connection.look { c with batch := {} } next.changed with
            cached := some next.changed } }) := by
  have outcome : s.outcome c next = next := by
    have now := others.committed_eq (c := { c with cached := none }) here
      ⟨knows.locking, knows.usesLog, knows.heading, fun _ none => by cases none⟩
    simp only [Session.outcome, snapshot, now, beq_self_eq_true, if_true]
  have kept : s.hasJournal name c = true := by
    rw [hasJournal, List.any_cons, pending, journal]
    rfl
  obtain ⟨rest, bound⟩ := others.store (t := t) (c := { c with batch := {} }) here follows
  rw [Session.commit, pending]
  simp only [others.isRead_eq here, outcome, kept, Bool.true_or, Bool.false_eq_true, if_false,
    if_true]
  exact ⟨_, rfl, rest.release here, (get?_release _ _ _).trans bound⟩

/-- There is nothing to commit in a batch that has changed nothing. -/
theorem OthersRest.commit_nothing (others : s.OthersRest name place d)
    (here : c.store = .file place) (pending : c.batch.pending = none) :
    ∃ s', s.commit name t c = (s', .ok ()) ∧ s'.OthersRest name place d
      ∧ s'.get? name = some (.table { t with connection := some { c with batch := {} } }) := by
  rw [Session.commit, pending]
  exact ⟨_, rfl, (others.bind _).release here, (get?_release _ _ _).trans get?_bind_self⟩

end LogTemplate.Sink.Session
