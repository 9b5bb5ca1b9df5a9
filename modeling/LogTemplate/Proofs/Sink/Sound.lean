import LogTemplate.Proofs.Sink.Occurrence
import LogTemplate.Proofs.Sink.Open

/-!
# Whatever is done with sinks

Sinks of a file may be opened, written to, queried and closed in any order, side by side, whether
that succeeds or not.  Main statement: the file holds a database that sinks have made, its tables
hold rows of records that were to be written and have counted no more of them, and no other file is
changed.
-/

namespace LogTemplate.Sink

/-- A database that sinks have made of no more than the cells that they were given. -/
structure Database.IsWithin (d : Database) (given : List (List Cell)) : Prop where
  made : d.IsMade
  counted : ∀ t ∈ d.tables, t.lastId ≤ given.length
  rows : ∀ t ∈ d.tables, ∀ row ∈ t.rows, row.entryCells ∈ given.map Table.stored

/-- All that a connection to the file at a place holds of a database has been made by sinks. -/
structure Connection.IsSound (c : Connection) (place : List String) (given : List (List Cell)) :
    Prop where
  here : c.store = .file place
  locking : c.locking ≠ .immutable
  usesLog : c.usesLog = false
  cached : ∀ d, c.cached = some d → d.IsWithin given
  snapshot : ∀ d, c.batch.snapshot = some d → d.IsWithin given
  pending : ∀ d, c.batch.pending = some d → d.IsWithin given

/-- A sink of a table that has nothing open but the file at a place, and holds nothing but what
sinks have made. -/
def IsSound (place : List String) (given : List (List Cell)) : Sink → Prop
  | .lines _ => False
  | .table t => ∀ c, t.connection = some c → c.IsSound place given

namespace Database

variable {d next : Database} {given : List (List Cell)} {table : String}

theorem isWithin_empty (given : List (List Cell)) : IsWithin {} given :=
  ⟨isMade_empty, fun _ member => absurd member (by simp), fun _ member => absurd member (by simp)⟩

theorem IsWithin.mono (within : d.IsWithin given) {more : List (List Cell)}
    (front : given <+: more) : d.IsWithin more where
  made := within.made
  counted := fun t member =>
    Int.le_trans (within.counted t member) (by exact_mod_cast front.length_le)
  rows := fun t member row inside =>
    (front.map Table.stored).subset (within.rows t member row inside)

theorem IsWithin.changed (within : d.IsWithin given) : d.changed.IsWithin given :=
  ⟨isMade_changed within.made, within.counted, within.rows⟩

theorem IsWithin.addTable (within : d.IsWithin given) (absent : d.table? table = none) :
    (d.addTable table).IsWithin given where
  made := isMade_addTable within.made absent
  counted := fun t member => by
    rcases List.mem_append.mp member with known | alone
    · exact within.counted t known
    · rw [List.mem_singleton.mp alone]
      exact Int.natCast_nonneg given.length
  rows := fun t member row inside => by
    rcases List.mem_append.mp member with known | alone
    · exact within.rows t known row inside
    · rw [List.mem_singleton.mp alone] at inside
      exact absurd inside (by simp)

theorem IsWithin.addIndex (within : d.IsWithin given) : (d.addIndex table).IsWithin given :=
  ⟨isMade_addIndex within.made table, within.counted, within.rows⟩

theorem IsWithin.emptied (within : d.IsWithin given) :
    (d.modify table Table.emptied).IsWithin given where
  made := isMade_modify within.made (fun _ => rfl) fun t member _ =>
    Table.isOfEntries_emptied (within.made.tables t member)
  counted := fun t member => by
    obtain ⟨old, known, rfl⟩ := List.mem_map.mp member
    split
    · exact within.counted old known
    · exact within.counted old known
  rows := fun t member row inside => by
    obtain ⟨old, known, rfl⟩ := List.mem_map.mp member
    split at inside
    · exact absurd inside (by simp [Table.emptied])
    · exact within.rows old known row inside

/-- Every record that is added is counted once. -/
theorem IsWithin.keepAll (within : d.IsWithin given) {added : List Prepared}
    (bound : ∀ p ∈ added, p.IsBound) :
    (d.modify table (·.keepAll (added.map Prepared.row))).IsWithin
      (given ++ added.map Prepared.row) where
  made := isMade_modify within.made (fun t => t.name_keepAll _) fun t member _ =>
    Session.isOfEntries_keepAll_row (within.made.tables t member) bound
  counted := fun t member => by
    obtain ⟨old, known, rfl⟩ := List.mem_map.mp member
    have before := within.counted old known
    rw [List.length_append]
    split
    · rw [Table.lastId_keepAll]
      push_cast
      omega
    · push_cast
      omega
  rows := fun t member row inside => by
    obtain ⟨old, known, rfl⟩ := List.mem_map.mp member
    rw [List.map_append, List.mem_append]
    split at inside
    · exact (Table.mem_or_entryCells_mem_keepAll inside).imp_left (within.rows old known row)
    · exact .inl (within.rows old known row inside)

/-- Tables that were changed apart are put together again. -/
theorem IsWithin.rebased (within : d.IsWithin given) (base : Database) {now : Database}
    (within' : now.IsWithin given) : (d.rebased base now).IsWithin given := by
  have chosen : ∀ t ∈ d.tables, ∀ t', t' = (if (base.table? t.name).any (·.rows == t.rows) then
      (now.table? t.name).getD t else t) →
      (t' ∈ now.tables ∨ t' ∈ d.tables) ∧ caseless t'.name = caseless t.name := by
    rintro t member t' rfl
    split
    · cases found : now.table? t.name with
      | none => exact ⟨.inr member, rfl⟩
      | some other => exact ⟨.inl (mem_of_table? found), isNamed_iff.mp (isNamed_of_table? found)⟩
    · exact ⟨.inr member, rfl⟩
  have made := within.made
  refine ⟨{ made with tables := ?_, distinct := ?_ }, ?_, ?_⟩
  · intro t member
    obtain ⟨old, known, same⟩ := List.mem_map.mp member
    exact (chosen old known t same.symm).1.elim (within'.made.tables t) (made.tables t)
  · have names : (d.rebased base now).tables.map (fun t => caseless t.name) =
        d.tables.map fun t => caseless t.name := by
      rw [Database.rebased, List.map_map]
      exact List.map_congr_left fun t member => (chosen t member _ rfl).2
    rw [names]
    exact made.distinct
  · intro t member
    obtain ⟨old, known, same⟩ := List.mem_map.mp member
    exact (chosen old known t same.symm).1.elim (within'.counted t) (within.counted t)
  · intro t member
    obtain ⟨old, known, same⟩ := List.mem_map.mp member
    exact (chosen old known t same.symm).1.elim (within'.rows t) (within.rows t)

end Database

theorem Connection.IsSound.mono {c : Connection} {place : List String}
    {given more : List (List Cell)} (sound : c.IsSound place given) (front : given <+: more) :
    c.IsSound place more where
  here := sound.here
  locking := sound.locking
  usesLog := sound.usesLog
  cached := fun d kept => (sound.cached d kept).mono front
  snapshot := fun d kept => (sound.snapshot d kept).mono front
  pending := fun d kept => (sound.pending d kept).mono front

namespace Session

/-- A file holds a database that sinks have made, no sink has anything else, and nothing but the
file has changed from a workspace on. -/
structure IsSound (s : Session) (w : Workspace) (place : List String)
    (given : List (List Cell)) : Prop where
  holds : ∃ d, HoldsDatabase s.workspace place d ∧ d.IsWithin given
  elsewhere : ∀ other, other ≠ place → s.workspace.node? other = w.node? other
  home : s.workspace.home = w.home
  distinct : (s.sinks.map Prod.fst).Nodup
  sinks : ∀ name sink, (name, sink) ∈ s.sinks → Sink.IsSound place given sink

variable {s s' : Session} {w : Workspace} {name : String} {place : List String}
  {given : List (List Cell)} {d next : Database} {t : TableSink} {c : Connection}

theorem IsSound.mono (sound : s.IsSound w place given) {more : List (List Cell)}
    (front : given <+: more) : s.IsSound w place more where
  holds := by
    obtain ⟨d, holds, within⟩ := sound.holds
    exact ⟨d, holds, within.mono front⟩
  elsewhere := sound.elsewhere
  home := sound.home
  distinct := sound.distinct
  sinks := fun name sink member => by
    have own := sound.sinks name sink member
    cases sink with
    | lines _ => exact own
    | table t => exact fun c connected => (own c connected).mono front

/-! ## What a sink sees -/

theorem IsSound.of_mem (sound : s.IsSound w place given) {e : Connection}
    (member : e ∈ s.others name c) : e.IsSound place given := by
  obtain ⟨other, t, known, -, connected, -⟩ := mem_others member
  exact sound.sinks other _ known e connected

theorem isWithin_of_foundAgain {content : Content} {stamp : Stamp} {size : Nat}
    {known : Option Database} (held : ∀ d, databaseOf content = .ok d → d.IsWithin given)
    (kept : ∀ d, known = some d → d.IsWithin given)
    (found : foundAgain content stamp size known = .ok d) : d.IsWithin given := by
  rw [foundAgain.eq_def] at found
  split at found
  · cases found
  · split at found
    · obtain rfl := Except.ok.inj found
      exact kept _ rfl
    · obtain ⟨own, same, checked⟩ := bind_eq_ok_iff.mp found
      split at checked
      · obtain rfl := Except.ok.inj checked
        exact held _ same
      · cases checked

theorem IsSound.committed (sound : s.IsSound w place given) (own : c.IsSound place given)
    (found : s.committed c = .ok d) : d.IsWithin given := by
  obtain ⟨file, holds, within⟩ := sound.holds
  rw [Session.committed, own.here] at found
  dsimp only at found
  split at found
  · rename_i content here
    have log := Beside.isIn_eq_false (holds.alone .log)
    have mutable : (c.locking == .immutable) = false := by simpa using own.locking
    have held : ∀ d, databaseOf content = .ok d → d.IsWithin given := by
      intro d same
      obtain rfl := Except.ok.inj ((holds.databaseOf here).symm.trans same)
      exact within
    rw [Session.found, mutable, log, holds.loggedContent_eq, holds.databaseOf here] at found
    simp only [Bool.false_and, Bool.false_eq_true, if_false, ok_bind, within.made.keepsLog,
      Bool.or_false] at found
    split at found
    · split at found
      · exact isWithin_of_foundAgain held
          (fun d kept => own.cached d (Option.eq_some_of_filter_eq_some kept)) found
      · obtain rfl := Except.ok.inj found
        exact within
    · obtain rfl := Except.ok.inj found
      exact within
  · cases found
  · obtain rfl := Except.ok.inj found
    exact Database.isWithin_empty given

theorem IsSound.view (sound : s.IsSound w place given) (own : c.IsSound place given)
    (seen : s.view name c = .ok d) : d.IsWithin given := by
  rw [Session.view] at seen
  split at seen
  · rename_i kept
    obtain rfl := Except.ok.inj seen
    exact own.pending _ kept
  · rename_i kept
    obtain rfl := Except.ok.inj seen
    exact own.snapshot _ kept
  · split at seen
    · cases seen
    · split at seen
      · rename_i kept
        obtain rfl := Except.ok.inj seen
        obtain ⟨mate, member, same⟩ := List.exists_of_findSome?_eq_some kept
        exact (sound.of_mem (List.mem_of_mem_filter member)).snapshot _ same
      · split at seen
        · cases seen
        · exact sound.committed own seen

/-- There is nothing to do before a sink reads the file. -/
theorem IsSound.recover_eq (sound : s.IsSound w place given) (own : c.IsSound place given) :
    s.recover name c = (s, c) := by
  obtain ⟨d, holds, within⟩ := sound.holds
  exact Session.recover_eq within.made holds own.here

/-! ## Sinks that are bound and told -/

theorem IsSound.bind (sound : s.IsSound w place given) {sink : Sink}
    (own : Sink.IsSound place given sink) : (s.bind name sink).IsSound w place given where
  holds := sound.holds
  elsewhere := sound.elsewhere
  home := sound.home
  distinct := OrderedMap.nodup_set sound.distinct
  sinks := fun other found member => by
    rcases mem_set member with known | same
    · exact sound.sinks other found known
    · obtain ⟨-, rfl⟩ := Prod.mk.inj same
      exact own

theorem IsSound.setConnection (sound : s.IsSound w place given) (own : c.IsSound place given) :
    (s.setConnection name t c).IsSound w place given :=
  sound.bind fun _ connected => Option.some.inj connected ▸ own

/-- The connection of a sink that is bound is sound. -/
theorem IsSound.of_get? (sound : s.IsSound w place given) (bound : s.get? name = some (.table t))
    (connected : t.connection = some c) : c.IsSound place given :=
  sound.sinks name _ ((OrderedMap.lookup_eq_some_iff sound.distinct).mp bound) c connected

theorem IsSound.of_connection? (sound : s.IsSound w place given)
    (found : s.connection? name = some (t, c)) : c.IsSound place given := by
  obtain ⟨bound, connected⟩ := connection?_eq_some_iff.mp found
  exact sound.of_get? bound connected

theorem isSound_note (own : c.IsSound place given) {α : Type} (outcome : Except Error α) :
    (c.note outcome).IsSound place given := by
  rw [Connection.note.eq_def]
  split
  · exact { own with }
  · split
    · exact own
    · exact { own with }

theorem IsSound.note (sound : s.IsSound w place given) {α : Type} (outcome : Except Error α) :
    (s.note name outcome).IsSound w place given := by
  rw [Session.note]
  split
  · rename_i t bound
    refine sound.bind fun c connected => ?_
    obtain ⟨own, held, rfl⟩ := Option.map_eq_some_iff.mp connected
    exact isSound_note (sound.of_get? bound held) outcome
  · exact sound

theorem IsSound.tell (sound : s.IsSound w place given) (c : Connection)
    {f : Connection → Connection}
    (keeps : ∀ e : Connection, e.IsSound place given → (f e).IsSound place given) :
    (s.tell name c f).IsSound w place given where
  holds := sound.holds
  elsewhere := sound.elsewhere
  home := sound.home
  distinct := by
    rw [sinks_tell, List.map_map]
    exact sound.distinct
  sinks := fun other sink member => by
    obtain ⟨known, inside, rfl⟩ := exists_of_mem_tell member
    have own := sound.sinks other known inside
    cases known with
    | lines _ => exact own
    | table t =>
      intro e connected
      obtain ⟨held, bound, rfl⟩ := Option.map_eq_some_iff.mp connected
      split
      · exact keeps held (own held bound)
      · exact own held bound

theorem IsSound.withHolds (sound : s.IsSound w place given) {w' : Workspace}
    (holds : HoldsDatabase w' place next) (within : next.IsWithin given)
    (elsewhere : ∀ other, other ≠ place → w'.node? other = s.workspace.node? other)
    (home : w'.home = s.workspace.home) : IsSound { s with workspace := w' } w place given where
  holds := ⟨next, holds, within⟩
  elsewhere := fun other apart => (elsewhere other apart).trans (sound.elsewhere other apart)
  home := home.trans sound.home
  distinct := sound.distinct
  sinks := sound.sinks

theorem IsSound.dropJournals (sound : s.IsSound w place given) (name : String) (c : Connection) :
    (s.dropJournals name c).IsSound w place given := by
  rw [Session.dropJournals]
  split
  · exact sound.tell c fun _ own => { own with }
  · exact sound

theorem IsSound.wake (sound : s.IsSound w place given) (name : String) (c : Connection) :
    (s.wake name c).IsSound w place given := by
  rw [Session.wake]
  dsimp only
  split
  · refine sound.tell c fun e own => ?_
    split
    · exact { own with }
    · exact own
  · exact sound

/-! ## Ends of batches -/

theorem IsSound.drop (sound : s.IsSound w place given) :
    IsSound { s with workspace := Beside.journal.drop s.workspace place } w place given := by
  obtain ⟨d, holds, within⟩ := sound.holds
  exact sound.withHolds holds.drop within
    (fun other _ => Beside.node?_drop (holds.alone .journal) other) (Beside.home_drop _ _ _)

theorem IsSound.release (sound : s.IsSound w place given) (own : c.IsSound place given) :
    (s.release name c).IsSound w place given := by
  have woken := sound.wake name c
  rw [Session.release, own.here]
  split
  · rename_i elsewhere next same _
    obtain rfl := Store.file.inj same
    have dropped := woken.dropJournals name c
    split
    · exact dropped
    · exact dropped.drop
  · exact woken

theorem IsSound.leave (sound : s.IsSound w place given) (name : String) :
    (s.leave name).IsSound w place given := by
  rw [Session.leave]
  split
  · rename_i t c found
    have own := sound.of_connection? found
    have left : (s.release name c).IsSound w place given := sound.release own
    simp only [dropLog, own.here, own.usesLog, Bool.false_and, Bool.false_eq_true, if_false]
    exact left
  · exact sound

/-- A database that is stored is in the file, and in what those know who share that. -/
theorem IsSound.store (sound : s.IsSound w place given) (own : c.IsSound place given)
    (within : next.IsWithin given) : (s.store name t c next).IsSound w place given := by
  have later := within.changed
  have revealed : (s.reveal name c next.changed).IsSound w place given := by
    refine sound.tell c fun e own => ?_
    split
    · refine { own with snapshot := fun d kept => ?_ }
      obtain ⟨_, _, rfl⟩ := Option.map_eq_some_iff.mp kept
      exact later
    · exact own
  have own' : Connection.IsSound { c.look next.changed with cached := some next.changed }
      place given := { own with cached := fun d kept => Option.some.inj kept ▸ later }
  have connected : ((s.reveal name c next.changed).setConnection name t
      { c.look next.changed with cached := some next.changed }).IsSound w place given :=
    revealed.setConnection own'
  have bound := connected.dropJournals name c
  obtain ⟨d, holds, _⟩ := revealed.holds
  have plain : next.changed.isLogged = false := later.made.isLogged
  rw [Session.store, own.here]
  simp only [plain, Bool.false_eq_true, if_false]
  refine bound.withHolds (holds.store next.changed) later (fun other apart => ?_) ?_
  · rw [holds.node?_store _ apart, workspace_dropJournals]
    rfl
  · rw [Beside.home_drop, workspace_dropJournals]
    rfl

theorem isSound_idle (own : c.IsSound place given) :
    Connection.IsSound { c with batch := {} } place given :=
  { own with
    snapshot := fun _ kept => by cases kept
    pending := fun _ kept => by cases kept }

/-- What a batch comes to has been made by sinks, even if others have changed the database. -/
theorem IsSound.outcome (sound : s.IsSound w place given) (own : c.IsSound place given)
    (within : d.IsWithin given) : (s.outcome c d).IsWithin given := by
  rw [Session.outcome]
  split
  · rename_i base now _ found
    split
    · exact within
    · exact within.rebased base (sound.committed (c := { c with cached := none })
        { own with cached := fun _ none => by cases none } found)
  · exact within

theorem IsSound.commit (sound : s.IsSound w place given) (own : c.IsSound place given) :
    (s.commit name t c).1.IsSound w place given := by
  rw [Session.commit]
  dsimp only
  split
  · exact (sound.setConnection (isSound_idle own)).release own
  · rename_i held
    have within := own.pending _ held
    split
    · exact sound.setConnection { own with }
    · exact (sound.store (isSound_idle own) (sound.outcome own within)).release own

/-- What a sink holds, or takes hold of where it holds nothing yet, has been made by sinks. -/
theorem isWithin_of_getD (own : c.IsSound place given) (within : d.IsWithin given) :
    (c.batch.snapshot.getD d).IsWithin given := by
  cases held : c.batch.snapshot with
  | none => exact within
  | some first => exact own.snapshot first held

/-- A sink that takes hold of a database holds that. -/
theorem isSound_holdTable (own : c.IsSound place given) (within : d.IsWithin given) :
    (s.holdTable name t c d).1.IsSound place given := by
  refine { own with snapshot := fun _ kept => ?_, pending := fun _ kept => ?_ }
  · exact Option.some.inj kept ▸ isWithin_of_getD own within
  · exact Option.some.inj kept ▸ within

/-- A sink whose batch comes to a database that sinks have made. -/
theorem isSound_toBecome (own : c.IsSound place given) (within : d.IsWithin given) :
    (c.toBecome d).IsSound place given :=
  { own with pending := fun _ kept => Option.some.inj kept ▸ within }

/-! ## Opening -/

theorem IsSound.ensureTable (sound : s.IsSound w place given) (own : c.IsSound place given)
    (made : s.ensureTable name t c = .ok s') : s'.IsSound w place given := by
  obtain ⟨-, d, seen, ⟨-, rfl⟩ | ⟨absent, -, -, -, rfl⟩⟩ := ensureTable_cases made
  · exact sound.setConnection { own with }
  · have within := sound.view own seen
    rw [Database.hasTable_eq within.made, Option.isSome_eq_false_iff,
      Option.isNone_iff_eq_none] at absent
    exact sound.store { own with } (within.addTable absent)

theorem IsSound.ensureIndex (sound : s.IsSound w place given) (own : c.IsSound place given)
    (made : s.ensureIndex name t c = .ok s') : s'.IsSound w place given := by
  obtain ⟨d, table, seen, -, -, ⟨-, rfl⟩ | ⟨-, -, -, -, rfl⟩⟩ := ensureIndex_cases made
  · exact sound
  · exact sound.store own (sound.view own seen).addIndex

theorem IsSound.makeTable (sound : s.IsSound w place given) (own : c.IsSound place given) :
    (s.makeTable name t c).1.IsSound w place given := by
  have bound : (s.setConnection name t c).IsSound w place given := sound.setConnection own
  rw [Session.makeTable]
  dsimp only
  split
  · exact bound.setConnection { own with }
  · rename_i made
    have made := bound.ensureTable own made
    split
    · exact made
    · rename_i found
      split
      · exact made
      · rename_i indexed
        exact made.ensureIndex (made.of_connection? found) indexed

theorem IsSound.emptyTable (sound : s.IsSound w place given) (own : c.IsSound place given) :
    (s.emptyTable name t c).1.IsSound w place given := by
  have begun : c.begin.IsSound place given := { own with }
  rcases emptyTable_cases s name t c with ⟨e, same⟩ | ⟨d, table, seen, found, done⟩
  · rw [same]
    exact sound
  have within := sound.view own seen
  have held : (s.emptying name t c d).IsSound place given := isSound_holdTable begun within
  rw [Database.clear_entries within.made found] at done
  rcases done with ⟨e, same⟩ | ⟨e, same⟩ | ⟨next, ⟨⟩, same⟩ | ⟨_, _, ⟨⟩, -⟩ | ⟨_, _, ⟨⟩, -⟩
  all_goals rw [same]
  · exact sound.setConnection begun
  · exact sound.setConnection held
  · exact sound.commit (isSound_toBecome held within.emptied)

theorem IsSound.makesFile (sound : s.IsSound w place given) (made : s.makesFile place s') :
    s'.IsSound w place given := by
  rcases made with rfl | ⟨absent, rfl⟩
  · exact sound
  · obtain ⟨d, holds, within⟩ := sound.holds
    exact sound.withHolds (holds.create absent) within
      (fun other apart => Workspace.node?_setNode_of_ne _ apart) rfl

theorem IsSound.likeMate (sound : s.IsSound w place given) (new : c.IsNew place) :
    (s.likeMate name c).IsSound place given := by
  have own : c.IsSound place given := by
    refine ⟨new.here, new.locking, new.usesLog, fun _ kept => ?_, fun _ kept => ?_,
      fun _ kept => ?_⟩
    · cases new.cached.symm.trans kept
    · rw [new.batch] at kept
      cases kept
    · rw [new.batch] at kept
      cases kept
  rw [Session.likeMate]
  split
  · rename_i mate _ mates
    have member : mate ∈ s.mates name c := mates ▸ List.mem_cons_self
    exact { own with locking := (sound.of_mem (List.mem_of_mem_filter member)).locking }
  · exact own

theorem IsSound.openTable (sound : s.IsSound w place given) (leads : t.LeadsTo w.home place) :
    (s.openTable name t).1.IsSound w place given := by
  obtain ⟨text, path, leads⟩ := leads.path
  rw [Session.openTable, path]
  split
  · exact sound
  · rename_i s₁ c₁ stored
    obtain ⟨made, new, isNew, rfl⟩ := openStore_ok (sound.home ▸ leads) stored
    have left := (sound.makesFile made).leave name
    have own : (s₁.likeMate name new).IsSound place given := (sound.makesFile made).likeMate isNew
    have learned : ((s₁.leave name).learn name t (s₁.likeMate name new)).IsSound place given := by
      rw [learn]
      split
      · exact { own with }
      · exact own
    have made : ((s₁.leave name).makeTable name t
        ((s₁.leave name).learn name t (s₁.likeMate name new))).1.IsSound w place given :=
      left.makeTable learned
    simp only [left.recover_eq learned]
    split
    · rename_i refused
      rw [refused] at made
      exact made
    · rename_i s₂ done
      rw [done] at made
      split
      · rename_i t' c' found
        split
        · exact made.emptyTable (made.of_connection? found)
        · exact made
      · exact made

/-! ## Writing -/

theorem IsSound.find (sound : s.IsSound w place given) (own : c.IsSound place given) (name : String)
    (t : TableSink) (statement : Statement) :
    (s.find name t c statement).1.IsSound place given
      ∧ ∀ d, (s.find name t c statement).2 = .ok d →
        d.IsWithin given ∧ (seenIn d t.table).admits statement = true := by
  rw [Session.find]
  split
  · exact ⟨own, fun _ none => by cases none⟩
  · split
    · exact ⟨own, fun _ none => by cases none⟩
    · rename_i d seen
      have within := sound.view own seen
      have mutable : (c.locking == .immutable) = false := by simpa using own.locking
      refine ⟨{ own with }, fun d' found => ?_⟩
      simp only [mutable, Bool.false_eq_true, if_false] at found
      split at found
      · obtain rfl := Except.ok.inj found
        exact ⟨within, by assumption⟩
      · split at found <;> cases found

/-- A sink that is about to write, and knows its statement. -/
theorem isSound_begun (own : c.IsSound place given) :
    (c.remember .insert).begin.IsSound place given := { own with }

theorem isSound_unbound (own : c.IsSound place given) (first : Option Document) (e : Error) :
    (unbound c first e).1.IsSound place given := by
  rw [unbound]
  split
  · exact own
  · exact own
  · exact { own with }

theorem IsSound.writeNoRows (sound : s.IsSound w place given) (own : c.IsSound place given)
    (prepared : List Prepared) : (s.writeNoRows name t c prepared).1.IsSound w place given := by
  by_cases known : c.isReady .insert
  · simp only [Session.writeNoRows, known, if_true]
    split
    · exact sound.setConnection (isSound_unbound (isSound_begun own) _ _)
    · exact sound.commit (isSound_begun own)
  · have seen := (sound.find own name t .insert).1
    simp only [Session.writeNoRows, known, sound.recover_eq own]
    split
    · exact sound.setConnection seen
    · split
      · exact sound.setConnection (isSound_unbound (isSound_begun seen) _ _)
      · exact sound.commit (isSound_begun seen)

theorem IsSound.hold (sound : s.IsSound w place given) (own : c.IsSound place given) :
    (s.hold name t c).IsSound place given := by
  rw [Session.hold]
  split
  · rename_i d _ seen
    exact isSound_holdTable own (sound.view own seen)
  · exact own

/-- Rows that are added to a table of the database are among those that were given. -/
theorem exists_isWithin_addRows (within : d.IsWithin given) {table : String}
    (inserts : (seenIn d table).inserts = true) (prepared : List Prepared) :
    ∃ next, (addRows d table prepared).1 = some next
      ∧ next.IsWithin (given ++ prepared.map Prepared.row) := by
  cases found : d.table? table with
  | none =>
    rw [Database.seenIn_of_none within.made found] at inserts
    cases inserts
  | some t =>
    obtain ⟨added, adds⟩ := exists_adds_addRows within.made found prepared
    exact ⟨_, adds.database, (within.keepAll adds.bound).mono
      ((List.prefix_append_right_inj given).mpr (adds.front.map Prepared.row))⟩

theorem IsSound.writePrepared (sound : s.IsSound w place given) (own : c.IsSound place given)
    (prepared : List Prepared) :
    (s.writePrepared name t c prepared).1.IsSound w place
      (given ++ prepared.map Prepared.row) := by
  have front := List.prefix_append given (prepared.map Prepared.row)
  have later := sound.mono front
  have mono : ∀ {c : Connection}, c.IsSound place given →
      c.IsSound place (given ++ prepared.map Prepared.row) := fun own => own.mono front
  obtain ⟨seen, found⟩ := sound.find own name t .insert
  rw [Session.writePrepared]
  split
  · exact later.setConnection (mono (isSound_begun own))
  simp only [sound.recover_eq own]
  split
  · refine later.setConnection (mono ?_)
    split
    · exact sound.hold (isSound_begun seen)
    · exact seen
  · rename_i d same
    obtain ⟨within, inserts⟩ := found d same
    have held :
        (s.holdTable name t ((s.find name t c .insert).1.remember .insert).begin d).1.IsSound
          place given := isSound_holdTable (isSound_begun seen) within
    split
    · exact later.setConnection (mono (isSound_begun seen))
    · generalize s.holdTable name t ((s.find name t c .insert).1.remember .insert).begin d = hold
        at held ⊢
      obtain ⟨c', _ | _⟩ := hold
      · exact later.setConnection (mono held)
      · dsimp only at held ⊢
        obtain ⟨next, added, within'⟩ := exists_isWithin_addRows within inserts prepared
        have come : ∃ next outcome, (if (d.table? t.table).any Table.isBroken then
            (some d, .error .broken) else if !s.canUndo c' d then (some d, .error .cannotOpen)
            else addRows d t.table prepared) = (some next, (outcome : Except Error Unit))
              ∧ next.IsWithin (given ++ prepared.map Prepared.row) := by
          split
          · exact ⟨d, _, rfl, within.mono front⟩
          · split
            · exact ⟨d, _, rfl, within.mono front⟩
            · exact ⟨next, _, Prod.ext added rfl, within'⟩
        obtain ⟨next, outcome, come, within'⟩ := come
        have own' := isSound_toBecome (mono held) within'
        rw [come]
        cases outcome with
        | error e => exact later.setConnection { own' with }
        | ok _ => exact later.commit { own' with }

theorem IsSound.sink_of_get? (sound : s.IsSound w place given) {sink : Sink}
    (bound : s.get? name = some sink) : Sink.IsSound place given sink :=
  sound.sinks name sink ((OrderedMap.lookup_eq_some_iff sound.distinct).mp bound)

/-- The records of a batch are among those that were given, whatever becomes of them. -/
theorem IsSound.write (sound : s.IsSound w place given) (name : String) (records : List Document) :
    (s.write name records).1.IsSound w place (given ++ records.map cellsOf) := by
  have front := List.prefix_append given (records.map cellsOf)
  have later := sound.mono front
  rw [Session.write]
  split
  · exact later
  · rename_i sink bound
    exact (sound.sink_of_get? bound).elim
  · rename_i t bound
    rw [writeRows]
    split
    · exact later
    rename_i prepared all
    have cells := map_cellsOf all
    split
    · exact later
    · rename_i c connected
      have own := sound.of_get? bound connected
      dsimp only
      split
      · exact (later.writeNoRows (own.mono front) prepared).note _
      · exact (cells ▸ sound.writePrepared own prepared).note _

theorem IsSound.writeAll (sound : s.IsSound w place given) (name : String)
    (batches : List (List Document)) :
    (s.writeAll name batches).1.IsSound w place (given ++ batches.flatten.map cellsOf) := by
  induction batches generalizing s given with
  | nil =>
    rw [List.flatten_nil, List.map_nil, List.append_nil]
    exact sound
  | cons batch rest ih =>
    have written := sound.write name batch
    rw [Session.writeAll, List.flatten_cons, List.map_append, ← List.append_assoc]
    split
    · rename_i next done
      rw [done] at written
      exact ih written
    · rename_i next e refused
      rw [refused] at written
      exact written.mono (List.prefix_append _ _)

/-! ## Reading -/

theorem isSound_noteRead (own : c.IsSound place given) (within : d.IsWithin given)
    (table : String) : (noteRead c table d).IsSound place given := by
  have cached : ∀ known, (if c.batch.pending.isSome then c.cached else some d) = some known →
      known.IsWithin given := by
    intro known kept
    split at kept
    · exact own.cached known kept
    · exact Option.some.inj kept ▸ within
  rw [noteRead]
  dsimp only
  split
  · refine { own with cached := cached, snapshot := fun _ kept => ?_ }
    exact Option.some.inj kept ▸ isWithin_of_getD own within
  · exact { own with cached := cached }

theorem IsSound.lookUp [Nesting] (sound : s.IsSound w place given) (own : c.IsSound place given)
    (uuid : Option Document) (matched : Option Int) :
    (s.lookUp name t c uuid matched).1.IsSound w place given := by
  obtain ⟨seen, found⟩ := sound.find own name t (.select uuid.isSome matched.isSome)
  have remembered : ∀ {c : Connection}, c.IsSound place given → ∀ statement,
      (c.remember statement).IsSound place given := fun own _ => { own with }
  simp only [Session.lookUp, sound.recover_eq own, ite_self]
  split
  · split
    · exact sound.setConnection (isSound_unbound (remembered own _) _ _)
    · exact sound.setConnection (remembered seen _)
    · exact sound.setConnection seen
  · exact sound.setConnection (isSound_unbound (remembered seen _) _ _)
  · rename_i d wanted same _
    split
    · exact sound.setConnection (remembered seen _)
    · exact sound.setConnection (isSound_noteRead (remembered seen _) (found d same).1 _)

theorem IsSound.query [Nesting] (sound : s.IsSound w place given) (name : String)
    (f : JsonLines.Filter) :
    (s.query name f).1.IsSound w place given := by
  rw [Session.query]
  split
  · exact sound
  · exact sound
  · rename_i t bound
    rw [queryRows]
    split
    · exact sound
    · exact sound
    · rename_i c matched connected _
      exact (sound.lookUp (sound.of_get? bound connected) f.uuid matched).note _

/-- What a query gives has been found in a database that sinks have made. -/
theorem IsSound.exists_of_query [Nesting] (sound : s.IsSound w place given) {f : JsonLines.Filter}
    {records : List Document} (found : (s.query name f).2 = .ok records) :
    ∃ d table wanted, d.IsWithin given ∧ recordsIn d table wanted = .ok records := by
  rw [Session.query] at found
  split at found
  · cases found
  · rename_i bound
    exact (sound.sink_of_get? bound).elim
  · rename_i t bound
    rw [queryRows] at found
    split at found
    · cases found
    · cases found
    · rename_i c matched connected _
      have own := sound.of_get? bound connected
      have seen := (sound.find own name t (.select f.uuid.isSome matched.isSome)).2
      simp only [Session.lookUp, sound.recover_eq own, ite_self] at found
      split at found
      · split at found <;> cases found
      · cases found
      · rename_i d wanted same _
        split at found
        · cases found
        · exact ⟨d, t.table, wanted, (seen d same).1, found⟩

/-! ## Closing -/

theorem IsSound.close (sound : s.IsSound w place given) (name : String) :
    (s.close name).1.IsSound w place given := by
  rw [Session.close]
  split
  · exact sound
  · rename_i sink bound
    cases sink with
    | lines _ => exact (sound.sink_of_get? bound).elim
    | table t =>
      have shut : Sink.IsSound place given (shut (.table t)) := fun _ connected => by
        cases connected
      have closed : ((s.leave name).bind name (Session.shut (.table t))).IsSound w place given :=
        (sound.leave name).bind shut
      exact ⟨closed.holds, closed.elsewhere, closed.home, closed.distinct, closed.sinks⟩

/-! ## Steps -/

theorem isSound_take [Nesting] (sound : s.IsSound w place given) {step : Step}
    (leads : step.LeadsTo w.home place) :
    (step.take s).IsSound w place (given ++ step.records.map cellsOf) := by
  cases step with
  | «open» name sink =>
    have bound : (s.bind name (.table sink)).IsSound w place given :=
      sound.bind fun c connected => by cases leads.closed.symm.trans connected
    rw [Step.take, connect, get?_bind_self, Step.records, List.map_nil, List.append_nil]
    exact bound.openTable leads
  | write name records => exact sound.write name records
  | query name filter =>
    rw [Step.records, List.map_nil, List.append_nil]
    exact sound.query name filter
  | close name =>
    rw [Step.records, List.map_nil, List.append_nil]
    exact sound.close name

/-- Whatever is done with sinks of a file, it holds a database that sinks have made of no more than
the records that were to be written, and nothing else has changed. -/
theorem isSound_takeAll [Nesting] (sound : s.IsSound w place given) {steps : List Step}
    (leads : ∀ step ∈ steps, step.LeadsTo w.home place) :
    (s.takeAll steps).IsSound w place (given ++ (steps.flatMap Step.records).map cellsOf) := by
  induction steps generalizing s given with
  | nil =>
    rw [List.flatMap_nil, List.map_nil, List.append_nil]
    exact sound
  | cons step steps ih =>
    have next := isSound_take sound (leads step List.mem_cons_self)
    rw [List.flatMap_cons, List.map_append, ← List.append_assoc]
    exact ih next fun other member => leads other (List.mem_cons_of_mem step member)

/-- What has changed may be counted from any time on. -/
theorem IsSound.since (sound : s.IsSound w place given) : s.IsSound s.workspace place given :=
  ⟨sound.holds, fun _ _ => rfl, rfl, sound.distinct, sound.sinks⟩

theorem isSound_new (new : HoldsDatabase w place {}) : IsSound { workspace := w } w place [] where
  holds := ⟨{}, new, Database.isWithin_empty []⟩
  elsewhere := fun _ _ => rfl
  home := rfl
  distinct := List.nodup_nil
  sinks := fun _ _ member => absurd member (by simp)

end Session

end LogTemplate.Sink
