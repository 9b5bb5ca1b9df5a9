import LogTemplate.Proofs.Sink.Shared
import LogTemplate.Proofs.Sink.Sound
import LogTemplate.Proofs.Sink.Write

/-!
# What is done with sinks that share a file

Main statement: sinks of a file that keep off each other go on to share it, whatever is done with
them, and the file goes on from the database that it held.
-/

namespace LogTemplate.Sink

/-- A sink of a table that leads to the file at a place, and keeps off the others there as sinks
mostly do. -/
structure TableSink.Shares (t : TableSink) (home place : List String) : Prop
    extends t.LeadsTo home place where
  plain : ∀ text l, t.path = some text → Locator.ofText text = .ok l →
    l.isShared = false ∧ l.locking = .ordinary

namespace Connection

variable {place : List String} {d next : Database} {c : Connection}

/-- What a sink has read within its batch, or reads first, is what the file holds. -/
theorem IsShared.snapshot_getD (own : c.IsShared place d) :
    c.batch.snapshot.getD (c.batch.pending.getD d) = d := by
  cases read : c.batch.snapshot with
  | some first => exact own.snapshot first read
  | none =>
    cases held : c.batch.pending with
    | none => rfl
    | some next => cases read.symm.trans (own.pending next held).1

/-- A sink that shares nothing takes hold of a database at once. -/
theorem IsShared.holdTable (s : Session) (name : String) (t : TableSink)
    (own : c.IsShared place d) (made : d.IsMade) :
    ∃ c', s.holdTable name t c (c.batch.pending.getD d) = (c', .ok ()) ∧ c'.IsShared place d
      ∧ c'.batch.snapshot = some d ∧ c'.batch.pending = some (c.batch.pending.getD d)
      ∧ c'.batch.hasJournal = (c.batch.hasJournal || c.batch.pending.isNone) := by
  have unread : ((s.mates name c).any fun mate =>
      mate.batch.reads.any (Definition.sameName t.table)) = false := by
    rw [Session.mates_eq_nil s name own.alone, List.any_nil]
  have continues := own.continues made
  simp only [Session.holdTable, unread, own.snapshot_getD, Bool.false_eq_true, if_false]
  exact ⟨_, rfl, { own with
    knows := { own.knows with }
    snapshot := fun _ same => (Option.some.inj same).symm
    pending := fun _ same => ⟨rfl, Option.some.inj same ▸ continues⟩ }, rfl, rfl, rfl⟩

/-- A batch may come to any database that goes on from the one it has read. -/
theorem IsShared.toBecome (own : c.IsShared place d) (read : c.batch.snapshot = some d)
    (continues : next.Continues d) : (c.toBecome next).IsShared place d :=
  { own with
    knows := { own.knows with }
    pending := fun _ same => ⟨read, Option.some.inj same ▸ continues⟩ }

theorem IsShared.forget (own : c.IsShared place d) :
    Connection.IsShared { c with failure := none } place d :=
  { own with knows := { own.knows with } }

theorem IsShared.begin (own : c.IsShared place d) : c.begin.IsShared place d :=
  { own with knows := { own.knows with } }

end Connection

namespace Session

variable {s s' : Session} {w : Workspace} {name : String} {place : List String}
  {d next : Database} {t : TableSink} {c : Connection}

/-! ## Opening -/

/-- A sink is open whose batch has neither read nor made anything. -/
def IsFree (s : Session) (name : String) : Prop :=
  ∀ t c, s.connection? name = some (t, c) → c.IsFree

theorem isFree_of_get? (bound : s.get? name = some (.table { t with connection := some c }))
    (free : c.IsFree) : s.IsFree name := by
  intro t' c' found
  obtain ⟨bound', connected⟩ := connection?_eq_some_iff.mp found
  cases bound.symm.trans bound'
  cases connected
  exact free

theorem isRead_of_checkChange (checked : s.checkChange name c next = .ok ()) :
    s.isRead name c next = false := by
  unfold checkChange at checked
  obtain ⟨-, -, checked⟩ := bind_eq_ok_iff.mp checked
  split at checked
  · cases checked
  split at checked
  · cases checked
  · rename_i unread
    rw [Bool.not_eq_true, Bool.or_eq_false_iff] at unread
    exact unread.1

theorem IsShared.ensureTable (shared : s.IsShared place d) (own : c.IsShared place d)
    (free : c.IsFree) (made : s.ensureTable name t c = .ok s') :
    s'.StaysShared place d ∧ s'.IsFree name := by
  obtain ⟨-, seen, view, made⟩ := ensureTable_cases made
  obtain rfl : seen = d := by
    have same := shared.view_ok own view
    rwa [free.pending] at same
  rcases made with ⟨-, rfl⟩ | ⟨absent, -, -, checked, rfl⟩
  · have looked := own.look shared.made
    exact ⟨(shared.setConnection (t := t)
      (c := { c.look seen with seen := some (seenIn seen t.table) })
      { looked with knows := { looked.knows with } }).stays,
      isFree_of_get? get?_bind_self ⟨free.snapshot, free.pending⟩⟩
  · rw [Database.hasTable_eq shared.made, Option.isSome_eq_false_iff,
      Option.isNone_iff_eq_none] at absent
    have follows := Database.follows_addTable shared.made absent
    have unread := shared.isUnread own shared.made.isLogged (isRead_of_checkChange checked)
    obtain ⟨stored, bound⟩ := shared.store (t := t) (c := { c with seen := some ⟨true, true⟩ })
      { own with knows := { own.knows with } } ⟨free.snapshot, free.pending⟩ unread follows
    exact ⟨⟨_, stored, .inr follows⟩, isFree_of_get? bound ⟨free.snapshot, free.pending⟩⟩

theorem IsShared.ensureIndex (shared : s.IsShared place d) (own : c.IsShared place d)
    (free : c.IsFree) (kept : s.IsFree name) (made : s.ensureIndex name t c = .ok s') :
    s'.StaysShared place d ∧ s'.IsFree name := by
  obtain ⟨seen, table, view, -, -, made⟩ := ensureIndex_cases made
  obtain rfl : seen = d := by
    have same := shared.view_ok own view
    rwa [free.pending] at same
  rcases made with ⟨-, rfl⟩ | ⟨-, -, checked, -, rfl⟩
  · exact ⟨shared.stays, kept⟩
  · have follows := Database.follows_addIndex shared.made t.table
    have unread := shared.isUnread own shared.made.isLogged (isRead_of_checkChange checked)
    obtain ⟨stored, bound⟩ := shared.store (t := t) own free unread follows
    exact ⟨⟨_, stored, .inr follows⟩, isFree_of_get? bound ⟨free.snapshot, free.pending⟩⟩

theorem IsShared.makeTable (shared : s.IsShared place d) (name : String) (t : TableSink)
    (own : c.IsShared place d) (free : c.IsFree) :
    (s.makeTable name t c).1.StaysShared place d
      ∧ ((s.makeTable name t c).2 = .ok () → (s.makeTable name t c).1.IsFree name) := by
  have bound : (s.setConnection name t c).IsShared place d := shared.setConnection own
  rw [Session.makeTable]
  dsimp only
  split
  · refine ⟨(bound.setConnection (t := t) ?_).stays, fun done => by cases done⟩
    exact { own with knows := { own.knows with } }
  · rename_i made
    obtain ⟨⟨next, ensured, goes⟩, kept⟩ := bound.ensureTable own free made
    split
    · exact ⟨⟨next, ensured, goes⟩, fun _ => kept⟩
    · rename_i found
      split
      · exact ⟨⟨next, ensured, goes⟩, fun done => by cases done⟩
      · rename_i indexed
        obtain ⟨stays, free⟩ := ensured.ensureIndex (ensured.of_connection? found)
          (kept _ _ found) kept indexed
        exact ⟨stays.trans goes, fun _ => free⟩

theorem IsShared.emptyTable (shared : s.IsShared place d) (own : c.IsShared place d)
    (free : c.IsFree) : (s.emptyTable name t c).1.StaysShared place d := by
  rcases emptyTable_cases s name t c with ⟨e, same⟩ | ⟨seen, table, view, found, done⟩
  · rw [same]
    exact shared.stays
  obtain rfl : seen = d := by
    have same := shared.view_ok own view
    rwa [free.pending] at same
  have begun := own.begin
  obtain ⟨c', hold, held, read, -⟩ := begun.holdTable s name t shared.made
  rw [show c.begin.batch.pending = none from free.pending, Option.getD_none] at hold
  have same : s.emptying name t c seen = c' := congrArg Prod.fst hold
  rw [Database.clear_entries shared.made found, same] at done
  rcases done with ⟨e, same⟩ | ⟨e, same⟩ | ⟨next, ⟨⟩, same⟩ | ⟨_, _, ⟨⟩, -⟩ | ⟨_, _, ⟨⟩, -⟩
  all_goals rw [same]
  · exact (shared.setConnection begun).stays
  · exact (shared.setConnection held).stays
  · exact shared.commit (held.toBecome read ((Database.continues_refl shared.made).modify
      (f := Table.emptied) (fun _ => rfl) (fun _ => Table.isOfEntries_emptied) t.table))

theorem IsShared.makesFile (shared : s.IsShared place d) (made : s.makesFile place s') :
    s'.IsShared place d := by
  rcases made with rfl | ⟨absent, rfl⟩
  · exact shared
  · exact shared.withWorkspace (shared.holds.create absent)

/-- A sink that shares nothing is like no other. -/
theorem likeMate_eq_self (s : Session) (name : String) (alone : c.sharesCache = false) :
    s.likeMate name c = c := by
  rw [likeMate, mates_eq_nil s name alone]

theorem learn_eq_self (s : Session) (name : String) (t : TableSink)
    (alone : c.sharesCache = false) : s.learn name t c = c := by
  simp [learn, mates_eq_nil s name alone]

/-- A sink that is not to share what it knows does not, and locks its file as it is told. -/
theorem openStore_unshared {text : String} {l : Locator} (read : Locator.ofText text = .ok l)
    (unshared : l.isShared = false) (opened : s.openStore name (some text) = .ok (s', c)) :
    c.sharesCache = false ∧ c.locking = l.locking := by
  obtain ⟨_, l', ⟨⟩, -, read', opened⟩ := openStore_cases opened
  obtain rfl : l = l' := Except.ok.inj (read.symm.trans read')
  rcases opened with ⟨-, -, rfl⟩ | ⟨-, -, -, ⟨-, rfl⟩ | ⟨-, rfl⟩⟩ | ⟨-, -, place, -, rfl⟩
  · exact ⟨rfl, rfl⟩
  · rw [likeMate_eq_self s name unshared]
    exact ⟨unshared, rfl⟩
  · exact ⟨unshared, rfl⟩
  · rw [likeMate_eq_self s' name unshared]
    exact ⟨unshared, rfl⟩

/-- A new connection has nothing to tell. -/
theorem isShared_new (new : c.IsNew place) (alone : c.sharesCache = false)
    (locking : c.locking = .ordinary) (d : Database) : c.IsShared place d where
  here := new.here
  locking := locking
  alone := alone
  knows := {
    locking := new.locking
    usesLog := new.usesLog
    heading := fun _ _ kept => by cases new.heading.symm.trans kept
    cached := fun _ kept => by cases new.cached.symm.trans kept }
  snapshot := fun _ kept => by
    rw [new.batch] at kept
    cases kept
  pending := fun _ kept => by
    rw [new.batch] at kept
    cases kept

theorem IsShared.openTable (shared : s.IsShared place d)
    (shares : t.Shares s.workspace.home place) :
    (s.openTable name t).1.StaysShared place d := by
  obtain ⟨text, path, leads⟩ := shares.path
  rw [Session.openTable, path]
  split
  · exact shared.stays
  rename_i s₁ c stored
  obtain ⟨made, new, isNew, like⟩ := openStore_ok leads stored
  obtain ⟨l, read, -⟩ := Locator.place?_eq_some_iff.mp leads
  obtain ⟨unshared, plain⟩ := shares.plain text l path read
  obtain ⟨alone, locking⟩ := openStore_unshared read unshared stored
  have same : c = new := by
    have alone' : new.sharesCache = false := by
      rw [like, likeMate] at alone
      split at alone <;> exact alone
    rw [like, likeMate_eq_self s₁ name alone']
  rw [← same] at isNew
  have own : c.IsShared place d := isShared_new isNew alone (locking.trans plain) d
  have left := (shared.makesFile made).leave name
  have free : c.IsFree := by
    constructor <;> rw [isNew.batch]
  have made := left.makeTable name t own free
  simp only [learn_eq_self _ name t alone, left.recover_eq own]
  generalize (s₁.leave name).makeTable name t c = making at made ⊢
  obtain ⟨s₂, e | _⟩ := making
  · exact made.1
  · obtain ⟨⟨next, shared₂, goes⟩, kept⟩ := made
    dsimp only
    split
    · rename_i t' c' found
      split
      · exact (shared₂.emptyTable (shared₂.of_connection? found)
          (kept rfl t' c' found)).trans goes
      · exact ⟨next, shared₂, goes⟩
    · exact ⟨next, shared₂, goes⟩

/-! ## Writing -/

theorem IsShared.find (shared : s.IsShared place d) (own : c.IsShared place d) (name : String)
    (t : TableSink) (statement : Statement) :
    (s.find name t c statement).1.IsShared place d
      ∧ (∀ next, (s.find name t c statement).2 = .ok next →
        next = c.batch.pending.getD d ∧ (seenIn next t.table).admits statement = true)
      ∧ ∀ e, (s.find name t c statement).2 = .error e → e.isUnbound = false := by
  rw [Session.find]
  split
  · exact ⟨own, (fun _ none => by cases none), fun e same => Except.error.inj same ▸ rfl⟩
  · rcases shared.view_cases own name with view | view
    · rw [view]
      have looked := own.look (own.continues shared.made).made
      have mutable : (c.locking == .immutable) = false := by rw [own.locking]; rfl
      refine ⟨{ looked with knows := { looked.knows with } }, fun next found => ?_,
        fun e found => ?_⟩
      · simp only [mutable, Bool.false_eq_true, if_false] at found
        split at found
        · obtain rfl := Except.ok.inj found
          exact ⟨rfl, by assumption⟩
        · split at found <;> cases found
      · simp only [mutable, Bool.false_eq_true, if_false] at found
        split at found
        · cases found
        · split at found <;> cases found <;> rfl
    · rw [view]
      refine ⟨own, (fun _ none => by cases none), fun e found => ?_⟩
      dsimp only at found
      split at found <;> cases found <;> rfl

theorem isShared_begun (own : c.IsShared place d) :
    (c.remember .insert).begin.IsShared place d :=
  { own with knows := { own.knows with } }

theorem isShared_unbound (own : c.IsShared place d) (first : Option Document) (e : Error) :
    (unbound c first e).1.IsShared place d := by
  rw [unbound]
  split
  · exact own
  · exact own
  · exact own.forget

theorem IsShared.hold (shared : s.IsShared place d) (name : String) (t : TableSink)
    (own : c.IsShared place d) :
    (s.hold name t c).IsShared place d
      ∧ ((s.hold name t c).batch.pending = c.batch.pending
        ∨ (s.hold name t c).batch.pending = some (c.batch.pending.getD d)) := by
  rw [Session.hold]
  split
  · rename_i next _ view
    obtain rfl := shared.view_ok own view
    obtain ⟨c', hold, held, -, pending, -⟩ := own.holdTable s name t shared.made
    rw [hold]
    exact ⟨held, .inr pending⟩
  · exact ⟨own, .inl rfl⟩

/-- What the batch of a sink has come to once records have been added to its table. -/
structure Gains (c c' : Connection) (place : List String) (d : Database) (table : String)
    (added : List Prepared) : Prop where
  own : c'.IsShared place d
  bound : ∀ p ∈ added, p.IsBound
  pending : c'.batch.pending = c.batch.pending ∧ added = []
    ∨ c'.batch.pending =
      some ((c.batch.pending.getD d).modify table (·.keepAll (added.map Prepared.row)))

/-- Why no more records than those at the front are added to a table: one cannot be bound, or no
number is left for it.  If none are added, that may be for other reasons. -/
def Stops (d : Database) (table : String) (records added : List Prepared) (e : Error) : Prop :=
  added = [] ∧ e.isUnbound = false
    ∨ ∃ p rest, records = added ++ p :: rest ∧ (¬ p.IsBound ∨ e = .full
      ∧ ∃ t, d.table? table = some t ∧ Table.greatestId ≤ t.lastId + added.length)

/-- What is needed to take back a batch that a sink has just begun is beside the file. -/
def IsKept (c c' : Connection) : Prop :=
  c.batch.pending = none → c'.batch.pending.isSome → c'.batch.hasJournal = true

theorem gains_nil {c' : Connection} {table : String} (own : c'.IsShared place d)
    (pending : c'.batch.pending = c.batch.pending
      ∨ c'.batch.pending = some (c.batch.pending.getD d)) :
    Gains c c' place d table [] where
  own := own
  bound := fun _ member => absurd member (by simp)
  pending := by
    rw [List.map_nil, modify_keepAll_nil]
    exact pending.imp_left (⟨·, rfl⟩)

theorem isUnbound_of_checkHold {e : Error} (refused : s.checkHold name c = .error e) :
    e.isUnbound = false := by
  rw [checkHold] at refused
  split at refused
  · cases refused
    rfl
  · split at refused <;> cases refused
    rfl

/-- A sink that has taken hold of its database gains the rows that are added to that. -/
theorem exists_gains_addRows {c' : Connection} {table : String} {t : Table}
    (held : c'.IsShared place d) (read : c'.batch.snapshot = some d)
    (continues : (c.batch.pending.getD d).Continues d)
    (there : (c.batch.pending.getD d).table? table = some t) (prepared : List Prepared) :
    ∃ added next outcome, addRows (c.batch.pending.getD d) table prepared = (some next, outcome)
      ∧ Gains c { c'.toBecome next with failure := none } place d table added
      ∧ (outcome = .ok () → added = prepared)
      ∧ ∀ e, outcome = .error e → Stops (c.batch.pending.getD d) table prepared added e := by
  obtain ⟨added, adds⟩ := exists_adds_addRows continues.made there prepared
  have later := continues.modify (fun t => t.name_keepAll (added.map Prepared.row))
    (fun _ entries => isOfEntries_keepAll_row entries adds.bound) table
  refine ⟨added, _, _, Prod.ext adds.database rfl,
    ⟨(held.toBecome read later).forget, adds.bound, .inr rfl⟩, adds.all, fun e refused => ?_⟩
  obtain ⟨p, rest, front, why⟩ := adds.refused e refused
  exact .inr ⟨p, rest, front, why.imp_right fun full => ⟨full.2, t, there, full.1⟩⟩

/-- To write is to add records up to one that is refused, or all of them and to commit then. -/
theorem IsShared.writePrepared_eq (shared : s.IsShared place d) (name : String) (t : TableSink)
    (own : c.IsShared place d) (prepared : List Prepared) :
    ∃ c' added, Gains c c' place d t.table added
      ∧ ((∃ e, s.writePrepared name t c prepared = (s.setConnection name t c', .error e)
          ∧ Stops (c.batch.pending.getD d) t.table prepared added e)
        ∨ added = prepared ∧ IsKept c c'
          ∧ s.writePrepared name t c prepared = s.commit name t c') := by
  rw [Session.writePrepared]
  split
  · exact ⟨_, [], gains_nil (isShared_begun own) (.inl rfl), .inl ⟨_, rfl, .inl ⟨rfl, rfl⟩⟩⟩
  simp only [shared.recover_eq own]
  obtain ⟨seen, found, refused⟩ := shared.find own name t .insert
  have batch := batch_find s name t c .insert
  generalize s.find name t c .insert = finding at seen found refused batch ⊢
  obtain ⟨c₁, outcome⟩ := finding
  have begun := isShared_begun seen
  have same : (c₁.remember .insert).begin.batch.pending = c.batch.pending := by
    rw [← batch]
    rfl
  obtain e | next := outcome
  · have other := refused e rfl
    dsimp only at seen batch ⊢
    split
    · obtain ⟨held, pending⟩ := shared.hold name t begun
      rw [same] at pending
      exact ⟨_, [], gains_nil held pending, .inl ⟨e, rfl, .inl ⟨rfl, other⟩⟩⟩
    · exact ⟨_, [], gains_nil seen (.inl same), .inl ⟨e, rfl, .inl ⟨rfl, other⟩⟩⟩
  obtain ⟨rfl, inserts⟩ := found next rfl
  dsimp only at begun ⊢
  split
  · rename_i e hindered
    exact ⟨_, [], gains_nil begun (.inl same),
      .inl ⟨e, rfl, .inl ⟨rfl, isUnbound_of_checkHold hindered⟩⟩⟩
  obtain ⟨c', hold, held, read, -, journal⟩ := begun.holdTable s name t shared.made
  rw [same] at hold
  have continues := own.continues shared.made
  cases there : (c.batch.pending.getD d).table? t.table with
  | none =>
    rw [Database.seenIn_of_none continues.made there] at inserts
    cases inserts
  | some table =>
    have sound := (continues.made.tables table (Database.mem_of_table? there)).sound
    simp only [hold, Option.any_some, sound, Bool.false_eq_true, if_false]
    cases s.canUndo c' (c.batch.pending.getD d) with
    | false => exact ⟨_, [], gains_nil (held.toBecome read continues).forget (.inr rfl),
        .inl ⟨_, rfl, .inl ⟨rfl, rfl⟩⟩⟩
    | true =>
      obtain ⟨added, next, outcome, adding, gains, all, stops⟩ :=
        exists_gains_addRows held read continues there prepared
      simp only [adding, Bool.not_true, Bool.false_eq_true, if_false]
      cases outcome with
      | error e => exact ⟨_, added, gains, .inl ⟨e, rfl, stops e rfl⟩⟩
      | ok _ =>
        refine ⟨_, added, gains, .inr ⟨all rfl, fun none _ => ?_, rfl⟩⟩
        rw [same, none, Option.isNone_none, Bool.or_true] at journal
        exact journal

/-- A batch of which nothing can be added is refused, unless it is empty. -/
theorem IsShared.writeNoRows_eq (shared : s.IsShared place d) (name : String) (t : TableSink)
    (own : c.IsShared place d) {prepared : List Prepared} (none : bindsNone prepared = true) :
    ∃ c', c'.IsShared place d ∧ c'.batch.pending = c.batch.pending
      ∧ ((∃ e, s.writeNoRows name t c prepared = (s.setConnection name t c', .error e)
          ∧ Stops (c.batch.pending.getD d) t.table prepared [] e)
        ∨ prepared = [] ∧ s.writeNoRows name t c prepared = s.commit name t c') := by
  obtain ⟨seen, -, refused⟩ := shared.find own name t .insert
  have batch := batch_find s name t c .insert
  rw [Session.writeNoRows]
  simp only [shared.recover_eq own]
  generalize s.find name t c .insert = finding at seen refused batch ⊢
  obtain ⟨known, found⟩ := finding
  -- A sink that knows its statement does not look at the database.
  obtain ⟨c₁, outcome, seen, batch, other, looks⟩ : ∃ c₁ outcome, c₁.IsShared place d
      ∧ c₁.batch = c.batch ∧ (∀ e, outcome = .error e → e.isUnbound = false)
      ∧ (if c.isReady .insert then (s, c, .ok ()) else (s, known, found.map fun _ => ())) =
        (s, c₁, (outcome : Except Error Unit)) := by
    split
    · exact ⟨c, .ok (), own, rfl, (fun _ none => by cases none), rfl⟩
    · refine ⟨known, _, seen, batch, fun e same => ?_, rfl⟩
      cases found with
      | error cause => exact Except.error.inj same ▸ refused cause rfl
      | ok _ => cases same
  have begun := isShared_begun seen
  have same : (c₁.remember .insert).begin.batch.pending = c.batch.pending := by
    rw [← batch]
    rfl
  rw [looks]
  obtain e | _ := outcome
  · exact ⟨c₁, seen, congrArg Batch.pending batch, .inl ⟨e, rfl, .inl ⟨rfl, other e rfl⟩⟩⟩
  · cases prepared with
    | nil => exact ⟨_, begun, same, .inr ⟨rfl, rfl⟩⟩
    | cons p rest =>
      obtain ⟨e, cells⟩ : ∃ e, p.cells = .error e := by
        cases cells : p.cells with
        | ok _ => simp [bindsNone, cells, Except.toOption] at none
        | error e => exact ⟨e, rfl⟩
      have refused : (p :: rest).mapM Prepared.cells = .error e := by
        rw [List.mapM_cons, cells]
        rfl
      have unbound : ¬ p.IsBound := by
        rintro ⟨given, taken⟩
        cases cells.symm.trans taken
      simp only [refused]
      exact ⟨_, isShared_unbound begun _ _, (congrArg Batch.pending (batch_unbound ..)).trans same,
        .inl ⟨_, rfl, .inr ⟨p, rest, rfl, .inl unbound⟩⟩⟩

/-- To write prepared records is to add those up to one that is refused, or all of them and to
commit then. -/
theorem IsShared.writing_eq (shared : s.IsShared place d) (name : String) (t : TableSink)
    (own : c.IsShared place d) (prepared : List Prepared) :
    ∃ c' added, Gains c c' place d t.table added
      ∧ ((∃ e, s.writing name t c prepared = (s.setConnection name t c', .error e)
          ∧ Stops (c.batch.pending.getD d) t.table prepared added e)
        ∨ added = prepared ∧ IsKept c c'
          ∧ s.writing name t c prepared = s.commit name t c') := by
  rw [writing]
  split
  · rename_i none
    obtain ⟨c', own', pending, ⟨e, refused⟩ | ⟨rfl, committed⟩⟩ :=
      shared.writeNoRows_eq name t own none
    · exact ⟨c', [], gains_nil own' (.inl pending), .inl ⟨e, refused⟩⟩
    · refine ⟨c', [], gains_nil own' (.inl pending), .inr ⟨rfl, fun none some => ?_, committed⟩⟩
      rw [pending, none] at some
      cases some
  · exact shared.writePrepared_eq name t own prepared

theorem write_eq_of_get? (bound : s.get? name = some (.table t))
    (connected : t.connection = some c) {records : List Document} {prepared : List Prepared}
    (all : records.mapM prepare = .ok prepared) :
    s.write name records = ((s.writing name t c prepared).1.note name
      (s.writing name t c prepared).2, (s.writing name t c prepared).2) := by
  rw [write, bound]
  simp only [writeRows, all, connected]
  rfl

theorem IsShared.write (shared : s.IsShared place d) (name : String) (records : List Document) :
    (s.write name records).1.StaysShared place d := by
  cases bound : s.get? name with
  | none =>
    rw [Session.write, bound]
    exact shared.stays
  | some sink =>
    cases sink with
    | lines sink => exact (shared.not_lines bound).elim
    | table t =>
      cases all : records.mapM prepare with
      | error e =>
        rw [Session.write, bound]
        simp only [writeRows, all]
        exact shared.stays
      | ok prepared =>
        cases connected : t.connection with
        | none =>
          rw [Session.write, bound]
          simp only [writeRows, all, connected]
          exact shared.stays
        | some c =>
          rw [write_eq_of_get? bound connected all]
          refine StaysShared.note ?_ _
          obtain ⟨c', added, gains, ⟨e, refused, -⟩ | ⟨-, -, committed⟩⟩ :=
            shared.writing_eq name t (shared.of_get? bound connected) prepared
          · rw [refused]
            exact (shared.setConnection gains.own).stays
          · rw [committed]
            exact shared.commit gains.own

/-! ## Reading -/

theorem isShared_noteRead (own : c.IsShared place d) (table : String) :
    (noteRead c table (c.batch.pending.getD d)).IsShared place d := by
  have cached : ∀ known, (if c.batch.pending.isSome then c.cached
      else some (c.batch.pending.getD d)) = some known →
      known = d ∨ known.stamp.changes < d.stamp.changes := by
    intro known kept
    split at kept
    · exact own.knows.cached known kept
    · rename_i none
      rw [Option.not_isSome_iff_eq_none.mp none, Option.getD_none] at kept
      exact .inl (Option.some.inj kept).symm
  rw [noteRead]
  dsimp only
  split
  · refine { own with
      knows := { own.knows with cached := cached }
      snapshot := fun _ read => ?_
      pending := fun next made => ⟨?_, (own.pending next made).2⟩ }
    · exact (Option.some.inj read).symm.trans own.snapshot_getD
    · rw [own.snapshot_getD]
  · exact { own with knows := { own.knows with cached := cached } }

/-- What is looked up is looked up in what a batch has made, or in what the file holds. -/
theorem IsShared.lookUp [Nesting] (shared : s.IsShared place d) (name : String) (t : TableSink)
    (own : c.IsShared place d) (uuid : Option Document) (matched : Option Int) :
    (s.lookUp name t c uuid matched).1.IsShared place d
      ∧ ∀ found, (s.lookUp name t c uuid matched).2 = .ok found →
        ∃ wanted, wantedOf uuid matched = .ok wanted
          ∧ recordsIn (c.batch.pending.getD d) t.table wanted = .ok found := by
  obtain ⟨seen, given, -⟩ := shared.find own name t (.select uuid.isSome matched.isSome)
  have batch := batch_find s name t c (.select uuid.isSome matched.isSome)
  have remembered : ∀ {c : Connection}, c.IsShared place d → ∀ statement,
      (c.remember statement).IsShared place d := fun own _ =>
    { own with knows := { own.knows with } }
  simp only [Session.lookUp, shared.recover_eq own, ite_self]
  generalize s.find name t c (.select uuid.isSome matched.isSome) = finding at seen given batch ⊢
  obtain ⟨c₁, e | next⟩ := finding
  · dsimp only at seen ⊢
    split
    · exact ⟨shared.setConnection (isShared_unbound (remembered own _) _ _),
        fun _ none => by cases none⟩
    · exact ⟨shared.setConnection (remembered seen _), fun _ none => by cases none⟩
    · exact ⟨shared.setConnection seen, fun _ none => by cases none⟩
  · obtain ⟨rfl, -⟩ := given next rfl
    cases bound : wantedOf uuid matched with
    | error e =>
      exact ⟨shared.setConnection (isShared_unbound (remembered seen _) _ _),
        fun _ none => by cases none⟩
    | ok wanted =>
      dsimp only
      split
      · exact ⟨shared.setConnection (remembered seen _), fun _ none => by cases none⟩
      · have noted := isShared_noteRead
          (remembered seen (.select uuid.isSome matched.isSome)) t.table
        rw [show (c₁.remember (.select uuid.isSome matched.isSome)).batch.pending =
          c.batch.pending from congrArg Batch.pending batch] at noted
        exact ⟨shared.setConnection noted, fun found same => ⟨wanted, rfl, same⟩⟩

theorem IsShared.query [Nesting] (shared : s.IsShared place d) (name : String)
    (f : JsonLines.Filter) :
    (s.query name f).1.IsShared place d := by
  rw [Session.query]
  split
  · exact shared
  · exact shared
  · rename_i t bound
    rw [queryRows]
    split
    · exact shared
    · exact shared
    · rename_i c matched connected _
      exact (shared.lookUp name t (shared.of_get? bound connected) f.uuid matched).1.note _

/-! ## Closing -/

theorem IsShared.close (shared : s.IsShared place d) (name : String) :
    (s.close name).1.IsShared place d := by
  rw [Session.close]
  split
  · exact shared
  · rename_i sink bound
    cases sink with
    | lines _ => exact (shared.not_lines bound).elim
    | table t =>
      have shut : Sink.IsShared place d (shut (.table t)) := fun _ connected => by
        cases connected
      have closed : ((s.leave name).bind name (Session.shut (.table t))).IsShared place d :=
        (shared.leave name).bind shut
      exact ⟨closed.made, closed.holds, closed.distinct, closed.sinks⟩

/-! ## Steps -/

/-- The sink that a step opens shares the file at a place. -/
def Step.Shares (home place : List String) : Step → Prop
  | .open _ sink => sink.Shares home place
  | .write .. | .query .. | .close _ => True

theorem staysShared_take [Nesting] (shared : s.IsShared place d) {step : Step}
    (shares : step.Shares s.workspace.home place) : (step.take s).StaysShared place d := by
  cases step with
  | «open» name sink =>
    have bound : (s.bind name (.table sink)).IsShared place d :=
      shared.bind fun c connected => by cases shares.closed.symm.trans connected
    rw [Step.take, connect, get?_bind_self]
    exact bound.openTable shares
  | write name records => exact shared.write name records
  | query name filter => exact (shared.query name filter).stays
  | close name => exact (shared.close name).stays

theorem Step.Shares.leadsTo {home : List String} {step : Step} (shares : step.Shares home place) :
    step.LeadsTo home place := by
  cases step with
  | «open» name sink => exact shares.toLeadsTo
  | _ => trivial

/-- Whatever is done with sinks that share a file, they go on to share it. -/
theorem staysShared_takeAll [Nesting] {given : List (List Cell)} (sound : s.IsSound w place given)
    (shared : s.IsShared place d) {steps : List Step}
    (shares : ∀ step ∈ steps, step.Shares w.home place) :
    (s.takeAll steps).StaysShared place d := by
  induction steps generalizing s d given with
  | nil => exact shared.stays
  | cons step steps ih =>
    rw [List.forall_mem_cons] at shares
    obtain ⟨next, shared', goes⟩ := staysShared_take shared (sound.home ▸ shares.1)
    exact (ih (isSound_take sound shares.1.leadsTo) shared' shares.2).trans goes

end Session

end LogTemplate.Sink
