import LogTemplate.Proofs.Refusing
import LogTemplate.Proofs.Workspace
import LogTemplate.Sink.Open
import LogTemplate.Sink.Transfer

/-!
# Sessions and steps of them

What a name stands for once it is bound, what it is to write batch after batch, the files to which
sinks of tables lead, and what each part of opening such a sink can come to.
-/

namespace LogTemplate.Sink

/-- A sink of lines is not open, or has written all that it was given. -/
def LineSink.HoldsNothing (lines : LineSink) : Prop :=
  ∀ handle, lines.handle = some handle → handle.held = []

/-- A sink of lines that is new holds nothing back. -/
theorem LineSink.holdsNothing_new (path : Path) : LineSink.HoldsNothing { path } :=
  fun _ isOpen => nomatch isOpen

namespace Session

variable {s : Session} {name : String} {sink : Sink}

@[simp] theorem get?_bind_self : (s.bind name sink).get? name = some sink := by
  rw [get?, bind, OrderedMap.lookup_set, if_pos rfl]

@[simp] theorem workspace_bind : (s.bind name sink).workspace = s.workspace := rfl

theorem connection?_eq_some_iff {t : TableSink} {c : Connection} :
    s.connection? name = some (t, c) ↔ s.get? name = some (.table t) ∧ t.connection = some c := by
  unfold connection?
  split
  · rename_i own bound
    rw [bound, Option.map_eq_some_iff]
    constructor
    · rintro ⟨_, connected, same⟩
      obtain ⟨rfl, rfl⟩ := Prod.mk.inj same
      exact ⟨rfl, connected⟩
    · rintro ⟨same, connected⟩
      obtain rfl := Sink.table.inj (Option.some.inj same)
      exact ⟨c, connected, rfl⟩
  · rename_i other
    constructor
    · intro none
      cases none
    · rintro ⟨bound, -⟩
      exact absurd bound (other t)

/-- Writes batches to the sink of a name, up to the first that is refused. -/
def writeAll (s : Session) (name : String) : List (List Document) → Session × Except Error Unit
  | [] => (s, .ok ())
  | batch :: rest =>
    match s.write name batch with
    | (s, .ok ()) => writeAll s name rest
    | (s, .error e) => (s, .error e)

theorem writeAll_cons_of_ok {batch : List Document} {rest : List (List Document)} {next : Session}
    (written : s.write name batch = (next, .ok ())) :
    s.writeAll name (batch :: rest) = next.writeAll name rest := by
  rw [writeAll, written]

/-! ## Sinks of lines -/

theorem sinks_flush (s : Session) (sink : Sink) : (s.flush sink).sinks = s.sinks := by
  unfold flush
  split <;> rfl

theorem flush_lines {lines : LineSink} (free : lines.HoldsNothing) :
    s.flush (.lines lines) = s := by
  obtain ⟨path, _ | handle⟩ := lines
  · rfl
  · simp [flush, Handle.flush, free handle rfl]

/-- A sink of lines that is open stays one.  It fails only for lines that cannot be encoded. -/
theorem exists_writeLines_eq {lines : LineSink} {handle : Handle}
    (isOpen : lines.handle = some handle) (records : List Document) :
    ∃ workspace handle, s.writeLines name lines records =
      (({ s with workspace } : Session).bind name (.lines { lines with handle := some handle }),
        (JsonLines.encode records).2) := by
  rw [writeLines, isOpen]
  dsimp only
  split
  · rename_i failed
    exact ⟨s.workspace, _, Prod.ext rfl failed.symm⟩
  · rename_i done
    exact ⟨_, _, Prod.ext rfl done.symm⟩

/-! ## What a connection remembers -/

/-- Before it reads a database a sink may change what lies beside that, and may find that changes of
it are logged ahead. -/
theorem exists_recover_eq (s : Session) (name : String) (c : Connection) :
    ∃ workspace usesLog, s.recover name c = ({ s with workspace }, { c with usesLog }) := by
  rw [recover]
  split
  · split
    · exact ⟨_, _, rfl⟩
    · dsimp only
      split
      · exact ⟨_, _, rfl⟩
      · split
        · exact ⟨_, _, rfl⟩
        · split <;> exact ⟨_, _, rfl⟩
  · exact ⟨_, _, rfl⟩

/-- A sink that looks for its table notes what it has seen. -/
theorem exists_find_eq (s : Session) (name : String) (t : TableSink) (c : Connection)
    (statement : Statement) :
    ∃ heading seen, (s.find name t c statement).1 = { c with heading, seen } := by
  rw [find]
  split
  · exact ⟨_, _, rfl⟩
  · split <;> exact ⟨_, _, rfl⟩

end Session

/-- The directory from which the name of a file is read. -/
def Locator.start (l : Locator) (home : List String) : List String :=
  if (Path.ofText l.name).root.isEmpty then home else []

/-- The place where a file lies whose name is read from a directory. -/
def Locator.place (l : Locator) (home : List String) : List String :=
  (Path.ofText l.name).names.foldl Workspace.follow (l.start home)

/-- The place of the file that a text stands for, if it stands for a database in a file that may
change. -/
def Locator.place? (home : List String) (text : String) : Option (List String) :=
  match Locator.ofText text with
  | .error _ => none
  | .ok l => if l.isAlone || l.isNamedMemory || l.isImmutable then none else some (l.place home)

theorem Locator.place?_eq_some_iff {home place : List String} {text : String} :
    Locator.place? home text = some place ↔
      ∃ l, Locator.ofText text = .ok l ∧ l.isAlone = false ∧ l.isNamedMemory = false
        ∧ l.isImmutable = false ∧ l.place home = place := by
  rw [place?]
  cases Locator.ofText text with
  | error e => simp
  | ok l => simp [and_assoc]

/-- Only a file that is said never to change is taken for one. -/
theorem Locator.locking_ne_immutable {l : Locator} (mutable : l.isImmutable = false) :
    l.locking ≠ .immutable := by
  rw [Locator.locking, mutable]
  split
  · simp
  · split
    · contradiction
    · split
      · simp
      · split <;> simp

/-- A new connection to a store that a locator leads to. -/
def Locator.connection (l : Locator) (store : Store) : Connection where
  store
  storage := l.storage
  sharesCache := l.isShared
  locking := l.locking
  isReadOnly := l.access == .read

/-- A connection that has taken hold of a database and is to make another one of it. -/
def Connection.toBecome (c : Connection) (next : Database) : Connection :=
  { c with batch := { c.batch with pending := some next } }

/-- A sink of a table whose path leads to the file at a place, and that is not open yet. -/
structure TableSink.LeadsTo (t : TableSink) (home place : List String) :
    Prop where
  path : ∃ text, t.path = some text ∧ Locator.place? home text = some place
  closed : t.connection = none

namespace Session

variable {s s' : Session} {name : String} {place : List String} {t : TableSink} {c : Connection}

/-! ## What opening a sink can come to -/

/-- The table of a sink is there and is looked at, or it is missing and is made. -/
theorem ensureTable_cases (made : s.ensureTable name t c = .ok s') :
    TableName.isReserved t.table = false ∧ ∃ d, s.view name c = .ok d
      ∧ (d.hasTable t.table = true
          ∧ s' = s.setConnection name t { c.look d with seen := some (seenIn d t.table) }
        ∨ d.hasTable t.table = false ∧ d.hasIndex t.table = false
          ∧ TableName.isMisread t.table = false ∧ s.checkChange name c d = .ok ()
          ∧ s' = s.store name t { c with seen := some ⟨true, true⟩ } (d.addTable t.table)) := by
  unfold ensureTable at made
  split at made
  · cases made
  rename_i free
  obtain ⟨d, seen, made⟩ := bind_eq_ok_iff.mp made
  refine ⟨Bool.eq_false_iff.mpr free, d, seen, ?_⟩
  split at made
  · rename_i there
    exact .inl ⟨there, (Except.ok.inj made).symm⟩
  rename_i missing
  split at made
  · cases made
  rename_i apart
  obtain ⟨_, -, made⟩ := bind_eq_ok_iff.mp made
  split at made
  · cases made
  rename_i legible
  obtain ⟨_, checked, made⟩ := bind_eq_ok_iff.mp made
  exact .inr ⟨Bool.eq_false_iff.mpr missing, Bool.eq_false_iff.mpr apart,
    Bool.eq_false_iff.mpr legible, checked, (Except.ok.inj made).symm⟩

/-- The index to the table of a sink is there and nothing is done, or it is missing and is made. -/
theorem ensureIndex_cases (made : s.ensureIndex name t c = .ok s') :
    ∃ d table, s.view name c = .ok d ∧ d.table? t.table = some table
      ∧ d.hasTable (Database.indexName t.table) = false
      ∧ (d.hasIndex (Database.indexName t.table) = true ∧ s' = s
        ∨ d.hasIndex (Database.indexName t.table) = false
          ∧ (table.definition.column? "uuid").isSome = true ∧ s.checkChange name c d = .ok ()
          ∧ table.isBroken = false ∧ s' = s.store name t c (d.addIndex t.table)) := by
  unfold ensureIndex at made
  obtain ⟨d, seen, made⟩ := bind_eq_ok_iff.mp made
  dsimp only at made
  split at made
  · cases made
  rename_i table found
  split at made
  · cases made
  rename_i free
  refine ⟨d, table, seen, found, Bool.eq_false_iff.mpr free, ?_⟩
  split at made
  · rename_i there
    exact .inl ⟨there, (Except.ok.inj made).symm⟩
  rename_i missing
  split at made
  · cases made
  rename_i column
  obtain ⟨_, checked, made⟩ := bind_eq_ok_iff.mp made
  split at made
  · cases made
  rename_i sound
  refine .inr ⟨Bool.eq_false_iff.mpr missing, ?_, checked, Bool.eq_false_iff.mpr sound,
    (Except.ok.inj made).symm⟩
  simpa [Option.isSome_iff_ne_none] using column

/-- A connection that has taken hold of a database to empty a table of it. -/
def emptying (s : Session) (name : String) (t : TableSink) (c : Connection) (d : Database) :
    Connection := (s.holdTable name t c.begin d).1

/-- A sink that is to empty its table finds none, or does not take hold of the database, or leaves
off when it has.  If it goes on, it commits what is left of the database, or keeps that for itself
or drops it because some of that is refused. -/
theorem emptyTable_cases (s : Session) (name : String) (t : TableSink) (c : Connection) :
    (∃ e, s.emptyTable name t c = (s, .error e))
      ∨ ∃ d table, s.view name c = .ok d ∧ d.table? t.table = some table
        ∧ ((∃ e, s.emptyTable name t c = (s.setConnection name t c.begin, .error e))
          ∨ (∃ e, s.emptyTable name t c =
              (s.setConnection name t (s.emptying name t c d), .error e))
          ∨ (∃ next, d.clear t.table = (some next, none)
            ∧ s.emptyTable name t c = s.commit name t ((s.emptying name t c d).toBecome next))
          ∨ (∃ next e, d.clear t.table = (some next, some e)
            ∧ s.emptyTable name t c =
              (s.setConnection name t ((s.emptying name t c d).toBecome next), .error e))
          ∨ ∃ refusal e, d.clear t.table = (none, refusal)
            ∧ s.emptyTable name t c = (s.dropBatch name t (s.emptying name t c d), .error e)) := by
  unfold emptyTable
  split
  · exact .inl ⟨_, rfl⟩
  rename_i d seen
  split
  · exact .inl ⟨_, rfl⟩
  rename_i table found
  split
  · exact .inl ⟨_, rfl⟩
  refine .inr ⟨d, table, seen, found, ?_⟩
  dsimp only
  split
  · exact .inl ⟨_, rfl⟩
  refine .inr ?_
  split
  · rename_i held
    exact .inl ⟨_, by rw [emptying, held]⟩
  rename_i c' held
  obtain rfl : s.emptying name t c d = c' := congrArg Prod.fst held
  split
  · exact .inl ⟨_, rfl⟩
  split
  · exact .inl ⟨_, rfl⟩
  refine .inr ?_
  split
  · rename_i next cleared
    exact .inl ⟨next, cleared, rfl⟩
  · rename_i next e cleared
    exact .inr (.inl ⟨next, e, cleared, rfl⟩)
  · rename_i e cleared
    exact .inr (.inr ⟨e, _, cleared, rfl⟩)

/-- A file is there, or it is made in a directory that is there. -/
theorem openFile_cases {l : Locator} (opened : s.openFile l = .ok (s', place)) :
    trace s.workspace (l.start s.workspace.home) (Path.ofText l.name).names = .ok place
      ∧ ((∃ content, s.workspace.node? place = some (.file content)) ∧ s' = s
        ∨ s.workspace.node? place = none
          ∧ s.workspace.node? place.dropLast = some .directory ∧ l.access = .create
          ∧ s' = { s with workspace := s.workspace.write place (.bytes []) }) := by
  unfold openFile at opened
  obtain ⟨traced, leads, opened⟩ := bind_eq_ok_iff.mp opened
  split at opened
  · rename_i content file
    obtain ⟨rfl, rfl⟩ := Prod.mk.inj (Except.ok.inj opened)
    exact ⟨leads, .inl ⟨⟨content, file⟩, rfl⟩⟩
  · rename_i absent directory
    split at opened
    · rename_i creates
      obtain ⟨rfl, rfl⟩ := Prod.mk.inj (Except.ok.inj opened)
      exact ⟨leads, .inr ⟨absent, directory, by simpa using creates, rfl⟩⟩
    · cases opened
  · cases opened

/-- A database in memory that is for one sink alone is opened, or one in memory that has a name, or
one in a file. -/
theorem openStore_cases {path : Option String} (opened : s.openStore name path = .ok (s', c)) :
    ∃ text l, path = some text ∧ text.toList.contains '\x00' = false
      ∧ Locator.ofText text = .ok l
      ∧ (l.isAlone = true ∧ s' = s ∧ c = { l.connection (.memory {}) with sharesCache := false }
        ∨ l.isAlone = false ∧ l.isNamedMemory = true ∧ s' = s
          ∧ (l.isFound = true ∧ c = s.likeMate name (l.connection (.shared l.storage l.name))
            ∨ l.isFound = false ∧ c = l.connection (.memory {}))
        ∨ l.isAlone = false ∧ l.isNamedMemory = false ∧ ∃ place, s.openFile l = .ok (s', place)
          ∧ c = s'.likeMate name { l.connection (.file place) with
              isReadOnly := l.access == .read || l.isImmutable }) := by
  unfold openStore at opened
  split at opened
  · cases opened
  rename_i text
  split at opened
  · cases opened
  rename_i whole
  obtain ⟨l, read, opened⟩ := bind_eq_ok_iff.mp opened
  refine ⟨text, l, rfl, Bool.eq_false_iff.mpr whole, read, ?_⟩
  dsimp only at opened
  split at opened
  · rename_i alone
    obtain ⟨rfl, rfl⟩ := Prod.mk.inj (Except.ok.inj opened)
    exact .inl ⟨alone, rfl, rfl⟩
  rename_i together
  refine .inr ?_
  split at opened
  · rename_i named
    refine .inl ⟨Bool.eq_false_iff.mpr together, named, ?_⟩
    split at opened
    · rename_i found
      obtain ⟨rfl, rfl⟩ := Prod.mk.inj (Except.ok.inj opened)
      exact ⟨rfl, .inl ⟨found, rfl⟩⟩
    · rename_i lost
      obtain ⟨rfl, rfl⟩ := Prod.mk.inj (Except.ok.inj opened)
      exact ⟨rfl, .inr ⟨Bool.eq_false_iff.mpr lost, rfl⟩⟩
  · rename_i unnamed
    obtain ⟨⟨s₁, place⟩, file, opened⟩ := bind_eq_ok_iff.mp opened
    obtain ⟨rfl, rfl⟩ := Prod.mk.inj (Except.ok.inj opened)
    exact .inr ⟨Bool.eq_false_iff.mpr together, Bool.eq_false_iff.mpr unnamed, place, file, rfl⟩

/-- What stands for a database in a file opens that. -/
theorem openStore_of_place? {home : List String} {text : String}
    (leads : Locator.place? home text = some place)
    (opened : s.openStore name (some text) = .ok (s', c)) :
    ∃ l found, text.toList.contains '\x00' = false ∧ Locator.ofText text = .ok l
      ∧ l.isAlone = false ∧ l.isNamedMemory = false ∧ l.isImmutable = false ∧ l.place home = place
      ∧ s.openFile l = .ok (s', found)
      ∧ c = s'.likeMate name { l.connection (.file found) with
          isReadOnly := l.access == .read || l.isImmutable } := by
  obtain ⟨_, l, ⟨⟩, whole, read, opened⟩ := openStore_cases opened
  obtain ⟨l', read', together, unnamed, mutable, leads⟩ := Locator.place?_eq_some_iff.mp leads
  obtain rfl : l = l' := Except.ok.inj (read.symm.trans read')
  rcases opened with ⟨alone, -⟩ | ⟨-, named, -⟩ | ⟨-, -, found, file, like⟩
  · cases alone.symm.trans together
  · cases named.symm.trans unnamed
  · exact ⟨l, found, whole, read, together, unnamed, mutable, leads, file, like⟩

/-! ## Steps -/

/-- What is done with sinks of tables. -/
inductive Step where
  | open (name : String) (sink : TableSink)
  | write (name : String) (records : List Document)
  | query (name : String) (filter : JsonLines.Filter)
  | close (name : String)

/-- What becomes of a session by a step, whether that succeeds or not.  A sink is bound before it is
opened. -/
def Step.take [Nesting] (s : Session) : Step → Session
  | .open name sink => ((s.bind name (.table sink)).connect name).1
  | .write name records => (s.write name records).1
  | .query name filter => (s.query name filter).1
  | .close name => (s.close name).1

/-- The records that a step writes, or tries to. -/
def Step.records : Step → List Document
  | .write _ records => records
  | .open .. | .query .. | .close _ => []

/-- The sink that a step opens leads to the file at a place. -/
def Step.LeadsTo (home place : List String) : Step → Prop
  | .open _ sink => sink.LeadsTo home place
  | .write .. | .query .. | .close _ => True

/-- Takes one step after the other. -/
def takeAll [Nesting] (s : Session) (steps : List Step) : Session := steps.foldl Step.take s

end Session

end LogTemplate.Sink
