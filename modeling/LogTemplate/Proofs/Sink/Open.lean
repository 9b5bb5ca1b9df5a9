import LogTemplate.Proofs.Sink.Commit
import LogTemplate.Proofs.Sink.Session

/-!
# Sinks that are opened beside others at rest

Main statement: when a sink of a table has been opened, its table is there, with the rows that it
had unless it was to be emptied.
-/

namespace LogTemplate.Sink

namespace Database

variable {d next : Database} {table : String} {t : Table}

/-- The table of a name, or an empty one if there is none. -/
def tableOr (d : Database) (table : String) : Table := (d.table? table).getD { name := table }

theorem tableOr_of_table? (found : d.table? table = some t) : d.tableOr table = t := by
  rw [tableOr, found, Option.getD_some]

/-- A database has all that a sink needs for a table. -/
structure Serves (d : Database) (table : String) : Prop where
  isThere : (d.table? table).isSome
  isFree : d.hasTable (indexName table) = false
  hasIndex : d.hasIndex (indexName table) = true

theorem follows_changed (made : next.IsMade) (changes : next.stamp.changes = d.stamp.changes)
    (isThere : ∀ name, (d.table? name).isSome → (next.table? name).isSome) :
    next.changed.Follows d where
  made := isMade_changed made
  changes := changes ▸ Nat.lt_succ_self _
  isThere := isThere

theorem follows_modify (made : d.IsMade) {f : Table → Table} (keeps : ∀ t, (f t).name = t.name)
    (entries : ∀ t, t.IsOfEntries → (f t).IsOfEntries) :
    (d.modify table f).changed.Follows d :=
  follows_changed (isMade_modify made keeps fun t member _ => entries t (made.tables t member)) rfl
    fun name there => by rw [table?_modify keeps, Option.isSome_map]; exact there

/-- To change the rows of tables takes nothing away that a sink needs. -/
theorem serves_modify (serves : d.Serves table) {f : Table → Table}
    (keeps : ∀ t, (f t).name = t.name) (other : String) :
    (d.modify other f).changed.Serves table where
  isThere := by
    show ((d.modify other f).table? table).isSome
    rw [table?_modify keeps, Option.isSome_map]
    exact serves.isThere
  isFree := by
    have free := serves.isFree
    rw [hasTable, Bool.or_eq_false_iff] at free ⊢
    refine ⟨?_, free.2⟩
    show ((d.modify other f).table? (indexName table)).isSome = false
    rw [table?_modify keeps, Option.isSome_map]
    exact free.1
  hasIndex := serves.hasIndex

theorem follows_addTable (made : d.IsMade) (absent : d.table? table = none) :
    (d.addTable table).changed.Follows d :=
  follows_changed (isMade_addTable made absent) rfl fun name there => by
    rw [table?_addTable, Option.isSome_or, there, Bool.true_or]

theorem follows_addIndex (made : d.IsMade) (table : String) :
    (d.addIndex table).changed.Follows d :=
  follows_changed (isMade_addIndex made table) rfl fun _ there => there

end Database

/-- A connection has the file at a place open and has no batch under way. -/
structure Connection.AtRest (c : Connection) (place : List String) (d : Database) : Prop where
  here : c.store = .file place
  knows : c.Knows d
  idle : c.batch.IsIdle

theorem Connection.Knows.look {c : Connection} {d : Database} (knows : c.Knows d)
    (made : d.IsMade) : (c.look d).Knows d where
  locking := knows.locking
  usesLog := knows.usesLog
  heading := fun _ _ same => (Prod.mk.inj (Option.some.inj same)).2 ▸ made.pageSize
  cached := knows.cached

/-- A connection once it has taken hold of a database to change a table. -/
def Connection.holding (c : Connection) (table : String) (d : Database) : Connection :=
  { c with batch := { c.batch with
      snapshot := some d
      pending := some d
      hasJournal := true
      isWaiting := false
      writes := table :: c.batch.writes } }

/-- A connection that has just been made to the file at a place. -/
structure Connection.IsNew (c : Connection) (place : List String) : Prop where
  here : c.store = .file place
  locking : c.locking ≠ .immutable
  usesLog : c.usesLog = false
  heading : c.heading = none
  cached : c.cached = none
  batch : c.batch = {}

namespace Session

/-- The sink of a name has the file at a place open, and is at rest as all others are. -/
structure HasOpen (s : Session) (name : String) (place : List String) (t : TableSink)
    (c : Connection) (d : Database) : Prop where
  others : s.OthersRest name place d
  bound : s.get? name = some (.table { t with connection := some c })
  rests : c.AtRest place d

variable {s s' : Session} {name : String} {place : List String} {d next : Database}
  {t : TableSink} {c : Connection}

/-- The connection that a sink had before does not count. -/
theorem HasOpen.withConnection (opened : s.HasOpen name place t c d)
    (connection : Option Connection) : s.HasOpen name place { t with connection } c d :=
  ⟨opened.others, opened.bound, opened.rests⟩

theorem HasOpen.connection?_eq (opened : s.HasOpen name place t c d) :
    s.connection? name = some ({ t with connection := some c }, c) := by
  exact connection?_eq_some_iff.mpr ⟨opened.bound, rfl⟩

theorem OthersRest.view_of_atRest (others : s.OthersRest name place d) (rests : c.AtRest place d) :
    s.view name c = .ok d :=
  others.view_eq rests.here rests.knows rests.idle.snapshot rests.idle.pending

theorem OthersRest.setConnection (others : s.OthersRest name place d) (rests : c.AtRest place d) :
    (s.setConnection name t c).HasOpen name place t c d :=
  ⟨others.bind _, get?_bind_self, rests⟩

/-- What a sink has stored it has open. -/
theorem OthersRest.hasOpen_store (others : s.OthersRest name place d) (rests : c.AtRest place d)
    (follows : next.changed.Follows d) :
    (s.store name t c next).HasOpen name place t
      { c.look next.changed with cached := some next.changed } next.changed where
  others := (others.store rests.here follows).1
  bound := (others.store rests.here follows).2
  rests.here := rests.here
  rests.idle := rests.idle
  rests.knows :=
    { (rests.knows.follow follows).look follows.made with
      cached := fun _ same => .inl (Option.some.inj same).symm }

/-! ## Making a table -/

/-- The table of a sink is made unless it is there. -/
theorem ensureTable_ok (others : s.OthersRest name place d) (rests : c.AtRest place d)
    (made : s.ensureTable name t c = .ok s') :
    TableName.isReserved t.table = false
      ∧ ∃ next c', s'.HasOpen name place t c' next ∧ c'.isReadOnly = c.isReadOnly
        ∧ next.table? t.table = some (d.tableOr t.table) := by
  obtain ⟨free, seen, view, made⟩ := ensureTable_cases made
  obtain rfl : d = seen := Except.ok.inj ((others.view_of_atRest rests).symm.trans view)
  rw [Database.hasTable_eq others.made] at made
  refine ⟨free, ?_⟩
  rcases made with ⟨there, rfl⟩ | ⟨absent, -, -, -, rfl⟩
  · obtain ⟨table, found⟩ := Option.isSome_iff_exists.mp there
    have known := rests.knows.look others.made
    have rests' : Connection.AtRest
        { c.look d with seen := some (seenIn d t.table) } place d :=
      ⟨rests.here, { known with }, rests.idle⟩
    refine ⟨d, _, others.setConnection rests', rfl, ?_⟩
    rw [found, Database.tableOr_of_table? found]
  · rw [Option.isSome_eq_false_iff, Option.isNone_iff_eq_none] at absent
    have rests' : Connection.AtRest { c with seen := some ⟨true, true⟩ } place d :=
      ⟨rests.here, { rests.knows with }, rests.idle⟩
    refine ⟨_, _, others.hasOpen_store rests' (Database.follows_addTable others.made absent),
      rfl, ?_⟩
    show (d.addTable t.table).table? t.table = _
    rw [Database.table?_addTable, absent, Database.tableOr, absent]
    simp [Definition.sameName]

/-- The index to the table of a sink is made unless it is there. -/
theorem ensureIndex_ok (opened : s.HasOpen name place t c d)
    (made : s.ensureIndex name t c = .ok s') :
    ∃ next c', s'.HasOpen name place t c' next ∧ c'.isReadOnly = c.isReadOnly
      ∧ next.table? t.table = d.table? t.table ∧ next.Serves t.table := by
  obtain ⟨seen, table, view, found, free, made⟩ := ensureIndex_cases made
  obtain rfl : d = seen :=
    Except.ok.inj ((opened.others.view_of_atRest opened.rests).symm.trans view)
  have there : (d.table? t.table).isSome := by rw [found]; rfl
  rcases made with ⟨indexed, rfl⟩ | ⟨-, -, -, -, rfl⟩
  · exact ⟨d, c, opened, rfl, rfl, there, free, indexed⟩
  · have follows := Database.follows_addIndex opened.others.made t.table
    refine ⟨_, _, opened.others.hasOpen_store opened.rests follows, rfl, rfl, there, free, ?_⟩
    simp [Database.hasIndex, Database.changed, Database.addIndex, Definition.sameName]

/-- The table of a sink and the index to it are made unless they are there. -/
theorem makeTable_ok (others : s.OthersRest name place d) (rests : c.AtRest place d)
    (made : s.makeTable name t c = (s', .ok ())) :
    TableName.isReserved t.table = false
      ∧ ∃ next c', s'.HasOpen name place t c' next ∧ c'.isReadOnly = c.isReadOnly
        ∧ next.table? t.table = some (d.tableOr t.table) ∧ next.Serves t.table := by
  rw [makeTable] at made
  dsimp only at made
  split at made
  · cases made
  rename_i s₁ ensured
  obtain ⟨free, d₁, c₁, opened, same, table⟩ :=
    ensureTable_ok (others.setConnection (t := t) rests).others rests ensured
  rw [opened.connection?_eq] at made
  dsimp only at made
  split at made
  · cases made
  rename_i s₂ indexed
  obtain ⟨rfl, -⟩ := Prod.mk.inj made
  obtain ⟨d₂, c₂, opened', same', table', serves⟩ :=
    ensureIndex_ok (t := { t with connection := some c₁ })
      ⟨opened.others, opened.bound, opened.rests⟩ indexed
  exact ⟨free, d₂, c₂, ⟨opened'.others, opened'.bound, opened'.rests⟩, same'.trans same,
    table'.trans table, serves⟩

/-! ## Taking hold of a database -/

/-- A sink takes hold of a database of which no one else has read anything. -/
theorem OthersRest.holdTable_eq (others : s.OthersRest name place d) (here : c.store = .file place)
    (snapshot : c.batch.snapshot = none) (pending : c.batch.pending = none) :
    s.holdTable name t c d = (c.holding t.table d, .ok ()) := by
  have unread := others.any_mates here
    (p := fun mate => mate.batch.reads.any (Definition.sameName t.table)) fun _ idle => by
      rw [idle.reads]; rfl
  rw [holdTable, Connection.holding]
  simp [unread, snapshot, pending]

/-- What a sink has committed it has open. -/
theorem OthersRest.hasOpen_commit (others : s.OthersRest name place d)
    (here : c.store = .file place) (knows : c.Knows d) (table : String)
    (follows : next.changed.Follows d) :
    ∃ s' c', s.commit name t ((c.holding table d).toBecome next) = (s', .ok ())
      ∧ s'.HasOpen name place t c' next.changed ∧ c'.isReadOnly = c.isReadOnly := by
  obtain ⟨s', committed, others', bound⟩ := others.commit (t := t)
    (c := (c.holding table d).toBecome next) here { knows with } rfl rfl rfl follows
  refine ⟨s', _, committed, ⟨others', bound, here, ?_, Batch.isIdle_new⟩, rfl⟩
  exact { (knows.follow follows).look follows.made with
    cached := fun _ same => .inl (Option.some.inj same).symm }

/-- The table of a sink is emptied. -/
theorem emptyTable_ok (opened : s.HasOpen name place t c d) {table : Table}
    (found : d.table? t.table = some table)
    (emptied : s.emptyTable name t c = (s', .ok ())) :
    c.isReadOnly = false ∧ FitsJournal place
      ∧ ∃ c', s'.HasOpen name place t c' (d.modify t.table Table.emptied).changed
        ∧ c'.isReadOnly = c.isReadOnly := by
  have others := opened.others
  have made := others.made
  have rests := opened.rests
  have sound := (made.tables table (Database.mem_of_table? found)).sound
  have knows : c.begin.Knows d := { rests.knows with }
  have hold := others.checkHold_eq (c := c.begin) rests.here knows rests.idle.snapshot
  have held := others.holdTable_eq (t := t) (c := c.begin) rests.here rests.idle.snapshot
    rests.idle.pending
  rw [emptyTable, others.view_of_atRest rests] at emptied
  simp only [found, Database.canFollow_made made, Bool.not_true, Bool.false_eq_true, if_false,
    hold, held, sound, Database.clear_entries made found] at emptied
  split at emptied
  · cases emptied
  rename_i mayHold
  split at mayHold
  · cases mayHold
  rename_i writable
  split at emptied
  · cases emptied
  rename_i fits
  have canUndo : s.canUndo (c.begin.holding t.table d) d = true := by simpa using fits
  have follows : (d.modify t.table Table.emptied).changed.Follows d :=
    Database.follows_modify made (fun _ => rfl) fun _ => Table.isOfEntries_emptied
  obtain ⟨s₁, c', committed, opened', same⟩ := others.hasOpen_commit (t := t) (c := c.begin)
    rests.here knows t.table follows
  obtain ⟨rfl, -⟩ := Prod.mk.inj (committed.symm.trans emptied)
  exact ⟨Bool.eq_false_iff.mpr writable, (others.canUndo_iff rests.here made.isLogged).mp canUndo,
    c', opened', same⟩

/-! ## Opening a file -/

theorem trace_eq {w : Workspace} {start found : List String} {names : List String}
    (leads : trace w start names = .ok found) : found = names.foldl Workspace.follow start := by
  induction names generalizing start with
  | nil => exact (Except.ok.inj leads).symm
  | cons name names ih =>
    rw [trace] at leads
    rw [List.foldl_cons, Workspace.follow]
    split at leads
    · rw [if_pos (by assumption)]
      exact ih leads
    · rw [if_neg (by assumption)]
      dsimp only at leads
      split at leads
      · cases leads
      · split at leads
        · exact ih leads
        · exact ih leads
        · cases leads

/-- A file is there, or is made. -/
def makesFile (s : Session) (place : List String) (s' : Session) : Prop :=
  s' = s ∨ s.workspace.node? place = none
    ∧ s' = { s with workspace := s.workspace.write place (.bytes []) }

theorem openFile_ok {l : Locator} (leads : l.place s.workspace.home = place)
    {found : List String} (opened : s.openFile l = .ok (s', found)) :
    found = place ∧ s.makesFile place s' := by
  obtain ⟨same, made⟩ := openFile_cases opened
  refine ⟨(trace_eq same).trans leads, ?_⟩
  obtain rfl : found = place := (trace_eq same).trans leads
  rcases made with ⟨-, rfl⟩ | ⟨absent, -, -, rfl⟩
  · exact .inl rfl
  · exact .inr ⟨absent, rfl⟩

/-- A sink that opens the database in a file is like those that share what they know of it. -/
theorem openStore_ok {text : String} (leads : Locator.place? s.workspace.home text = some place)
    (opened : s.openStore name (some text) = .ok (s', c)) :
    s.makesFile place s' ∧ ∃ new : Connection, new.IsNew place ∧ c = s'.likeMate name new := by
  obtain ⟨l, found, -, -, -, -, mutable, leads, file, rfl⟩ := openStore_of_place? leads opened
  obtain ⟨rfl, made⟩ := openFile_ok leads file
  exact ⟨made, _, ⟨rfl, Locator.locking_ne_immutable mutable, rfl, rfl, rfl, rfl⟩, rfl⟩

theorem OthersRest.makesFile (others : s.OthersRest name place d)
    (made : s.makesFile place s') : s'.OthersRest name place d ∧ s'.sinks = s.sinks := by
  rcases made with rfl | ⟨absent, rfl⟩
  · exact ⟨others, rfl⟩
  · exact ⟨others.withWorkspace (others.holds.create absent) (.inr rfl), rfl⟩

/-- A new connection is at rest. -/
theorem OthersRest.atRest_likeMate (others : s.OthersRest name place d) (new : c.IsNew place) :
    (s.likeMate name c).AtRest place d := by
  have knows : c.Knows d := by
    refine ⟨new.locking, new.usesLog, fun _ _ kept => ?_, fun _ kept => ?_⟩
    · cases new.heading.symm.trans kept
    · cases new.cached.symm.trans kept
  have idle : c.batch.IsIdle := new.batch ▸ Batch.isIdle_new
  rw [likeMate]
  split
  · rename_i mate _ mates
    have member : mate ∈ s.mates name c := mates ▸ List.mem_cons_self
    obtain ⟨_, own⟩ := others.of_mem new.here (List.mem_of_mem_filter member)
    exact ⟨new.here, { knows with locking := own.knows.locking }, idle⟩
  · exact ⟨new.here, knows, idle⟩

theorem atRest_learn (s : Session) (name : String) (t : TableSink) (rests : c.AtRest place d) :
    (s.learn name t c).AtRest place d := by
  rw [learn]
  split
  · exact ⟨rests.here, { rests.knows with }, rests.idle⟩
  · exact rests

/-- A sink that is not open yet leaves nothing. -/
theorem leave_of_closed (bound : s.get? name = some (.table t)) (closed : t.connection = none) :
    s.leave name = s := by
  have unconnected : s.connection? name = none := by
    rw [connection?, bound]
    simp only [closed, Option.map_none]
  rw [leave, unconnected]

theorem isReservedWord_eq_false {table : String} (free : TableName.isReserved table = false) :
    TableName.isReservedWord table = false := by
  rw [TableName.isReserved, Bool.or_eq_false_iff] at free
  exact free.1

/-- A sink that is opened for the first time finds its table with the rows that it had, or empties
it. -/
theorem connect_ok (leads : t.LeadsTo s.workspace.home place)
    (others : s.OthersRest name place d) (bound : s.get? name = some (.table t))
    (opened : s.connect name = (s', .ok ())) :
    TableName.isReserved t.table = false
      ∧ ∃ next c, s'.HasOpen name place t c next ∧ next.Serves t.table
        ∧ (t.empties → c.isReadOnly = false ∧ FitsJournal place)
        ∧ next.table? t.table = some (if t.empties then (d.tableOr t.table).emptied
            else d.tableOr t.table) := by
  obtain ⟨⟨text, path, leads⟩, closed⟩ := leads
  rw [connect, bound] at opened
  simp only [openTable, path] at opened
  split at opened
  · cases opened
  rename_i s₁ _ stored
  obtain ⟨made, new, isNew, rfl⟩ := openStore_ok leads stored
  obtain ⟨others₁, same⟩ := others.makesFile made
  have rests := others₁.atRest_likeMate isNew
  have bound₁ : s₁.get? name = some (.table t) := by
    rw [get?, same]
    exact bound
  have left := leave_of_closed bound₁ closed
  have learned := atRest_learn s₁ name t rests
  rw [left, others₁.recover_eq learned.here] at opened
  dsimp only at opened
  split at opened
  · cases opened
  rename_i s₂ made
  obtain ⟨free, d₂, c₂, opened₂, _, table, serves⟩ := makeTable_ok others₁ learned made
  rw [opened₂.connection?_eq] at opened
  dsimp only at opened
  split at opened
  · rename_i empties
    have has : s₂.HasOpen name place { t with connection := some c₂ } c₂ d₂ :=
      ⟨opened₂.others, opened₂.bound, opened₂.rests⟩
    obtain ⟨writable, fits, c₃, opened₃, still⟩ := emptyTable_ok has table opened
    refine ⟨free, _, c₃, ⟨opened₃.others, opened₃.bound, opened₃.rests⟩,
      Database.serves_modify serves (f := Table.emptied) (fun _ => rfl) _,
      fun _ => ⟨still.trans writable, fits⟩, ?_⟩
    rw [if_pos empties]
    exact Database.table?_modify_self table fun _ => rfl
  · rename_i keeps
    obtain ⟨rfl, -⟩ := Prod.mk.inj opened
    exact ⟨free, d₂, c₂, opened₂, serves, fun empties => absurd empties keeps,
      by rw [if_neg keeps, table]⟩

end Session

end LogTemplate.Sink
