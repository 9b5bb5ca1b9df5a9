import LogTemplate.Proofs.Sink.Commit
import LogTemplate.Proofs.Sink.Session

/-!
# What a sink leaves to the others

Main statements: no step of one sink touches what the batches of the others have made of their
databases, and a query does not touch that of its own sink either.
-/

namespace LogTemplate.Sink.Session

variable {s s' : Session} {name other : String} {t : TableSink} {c : Connection}

/-- The table of the sink of a name if that is open, and what its batch makes of the database. -/
def underWay? (s : Session) (name : String) : Option (String × Option Database) :=
  (s.connection? name).map fun (t, c) => (t.table, c.batch.pending)

theorem underWay?_of_get? (bound : s.get? name = some (.table t))
    (connected : t.connection = some c) :
    s.underWay? name = some (t.table, c.batch.pending) := by
  rw [underWay?, connection?, bound]
  simp only [connected, Option.map_some]

theorem underWay?_congr (same : s'.sinks = s.sinks) (name : String) :
    s'.underWay? name = s.underWay? name := by
  simp only [underWay?, connection?, get?, same]

theorem underWay?_bind_of_ne (apart : other ≠ name) (sink : Sink) :
    (s.bind name sink).underWay? other = s.underWay? other := by
  have same : (s.bind name sink).get? other = s.get? other := by
    rw [get?, bind, OrderedMap.lookup_set, if_neg apart]
    rfl
  simp only [underWay?, connection?, same]

/-- Sinks that are told something that does not touch what their batches have made. -/
theorem underWay?_tell {f : Connection → Connection}
    (keeps : ∀ e, (f e).batch.pending = e.batch.pending) (other : String) :
    (s.tell name c f).underWay? other = s.underWay? other := by
  rw [underWay?, underWay?, connection?, connection?, get?, get?, sinks_tell,
    lookup_map_entries (told name c f)]
  cases OrderedMap.lookup other s.sinks with
  | none => rfl
  | some sink =>
    cases sink with
    | lines _ => rfl
    | table t =>
      cases connected : t.connection with
      | none => simp [told, connected]
      | some e =>
        simp only [told, connected, Option.map_some]
        split
        · rw [keeps]
        · rfl

/-- What the batches of all sinks but one have made is what it was. -/
structure LeavesOthers (s : Session) (name : String) (s' : Session) : Prop where
  underWay?_eq : ∀ other, other ≠ name → s'.underWay? other = s.underWay? other

theorem LeavesOthers.trans {s'' : Session} (first : s.LeavesOthers name s')
    (next : s'.LeavesOthers name s'') : s.LeavesOthers name s'' :=
  ⟨fun other apart => (next.underWay?_eq other apart).trans (first.underWay?_eq other apart)⟩

theorem leavesOthers_of_sinks (same : s'.sinks = s.sinks) : s.LeavesOthers name s' :=
  ⟨fun other _ => underWay?_congr same other⟩

theorem leavesOthers_refl (s : Session) (name : String) : s.LeavesOthers name s :=
  leavesOthers_of_sinks rfl

theorem leavesOthers_bind (s : Session) (name : String) (sink : Sink) :
    s.LeavesOthers name (s.bind name sink) :=
  ⟨fun _ apart => underWay?_bind_of_ne apart sink⟩

theorem leavesOthers_tell (s : Session) (name : String) (c : Connection)
    {f : Connection → Connection} (keeps : ∀ e, (f e).batch.pending = e.batch.pending) :
    s.LeavesOthers name (s.tell name c f) :=
  ⟨fun other _ => underWay?_tell keeps other⟩

theorem leavesOthers_note (s : Session) (name : String) {α : Type} (outcome : Except Error α) :
    s.LeavesOthers name (s.note name outcome) := by
  unfold note
  split
  · exact leavesOthers_bind ..
  · exact leavesOthers_refl ..

theorem leavesOthers_dropJournals (s : Session) (name : String) (c : Connection) :
    s.LeavesOthers name (s.dropJournals name c) := by
  unfold dropJournals
  split
  · exact leavesOthers_tell s name c fun _ => rfl
  · exact leavesOthers_refl ..

theorem leavesOthers_wake (s : Session) (name : String) (c : Connection) :
    s.LeavesOthers name (s.wake name c) := by
  unfold wake
  dsimp only
  split
  · refine leavesOthers_tell s name c fun e => ?_
    split <;> rfl
  · exact leavesOthers_refl ..

theorem leavesOthers_reveal (s : Session) (name : String) (c : Connection) (d : Database) :
    s.LeavesOthers name (s.reveal name c d) := by
  refine leavesOthers_tell s name c fun e => ?_
  split <;> rfl

theorem leavesOthers_release (s : Session) (name : String) (c : Connection) :
    s.LeavesOthers name (s.release name c) := by
  have woken := leavesOthers_wake s name c
  unfold release
  split
  · have dropped := woken.trans (leavesOthers_dropJournals _ name c)
    split
    · exact dropped
    · exact dropped.trans (leavesOthers_of_sinks rfl)
  · exact woken

theorem leavesOthers_leave (s : Session) (name : String) : s.LeavesOthers name (s.leave name) := by
  unfold leave
  split
  · rename_i c _
    refine (leavesOthers_release s name c).trans (leavesOthers_of_sinks ?_)
    unfold dropLog
    split
    · dsimp only
      split <;> rfl
    · rfl
  · exact leavesOthers_refl ..

theorem leavesOthers_store (s : Session) (name : String) (t : TableSink) (c : Connection)
    (d : Database) : s.LeavesOthers name (s.store name t c d) := by
  have revealed := leavesOthers_reveal s name c d.changed
  unfold store
  dsimp only
  split
  · exact revealed.trans (leavesOthers_bind ..)
  · exact revealed.trans ((leavesOthers_bind ..).trans (leavesOthers_of_sinks rfl))
  · exact revealed.trans ((leavesOthers_bind ..).trans
      ((leavesOthers_dropJournals _ name c).trans (leavesOthers_of_sinks rfl)))

theorem leavesOthers_commit (s : Session) (name : String) (t : TableSink) (c : Connection) :
    s.LeavesOthers name (s.commit name t c).1 := by
  unfold commit
  dsimp only
  split
  · exact (leavesOthers_bind ..).trans (leavesOthers_release ..)
  · split
    · exact leavesOthers_bind ..
    · exact (leavesOthers_store ..).trans (leavesOthers_release ..)

theorem sinks_recover (s : Session) (name : String) (c : Connection) :
    (s.recover name c).1.sinks = s.sinks := by
  obtain ⟨_, _, same⟩ := exists_recover_eq s name c
  rw [same]

/-! ## Opening -/

theorem leavesOthers_ensureTable (made : s.ensureTable name t c = .ok s') :
    s.LeavesOthers name s' := by
  obtain ⟨-, d, -, ⟨-, rfl⟩ | ⟨-, -, -, -, rfl⟩⟩ := ensureTable_cases made
  · exact leavesOthers_bind ..
  · exact leavesOthers_store ..

theorem leavesOthers_ensureIndex (made : s.ensureIndex name t c = .ok s') :
    s.LeavesOthers name s' := by
  obtain ⟨d, table, -, -, -, ⟨-, rfl⟩ | ⟨-, -, -, -, rfl⟩⟩ := ensureIndex_cases made
  · exact leavesOthers_refl ..
  · exact leavesOthers_store ..

theorem leavesOthers_makeTable (s : Session) (name : String) (t : TableSink) (c : Connection) :
    s.LeavesOthers name (s.makeTable name t c).1 := by
  have bound := leavesOthers_bind s name (.table { t with connection := some c })
  unfold makeTable
  dsimp only
  split
  · exact bound.trans (leavesOthers_bind ..)
  · rename_i made
    have ensured := bound.trans (leavesOthers_ensureTable made)
    split
    · exact ensured
    · split
      · exact ensured
      · rename_i indexed
        exact ensured.trans (leavesOthers_ensureIndex indexed)

theorem leavesOthers_emptyTable (s : Session) (name : String) (t : TableSink) (c : Connection) :
    s.LeavesOthers name (s.emptyTable name t c).1 := by
  rcases emptyTable_cases s name t c with ⟨e, same⟩ | ⟨d, table, -, -, ⟨e, same⟩ | ⟨e, same⟩ |
    ⟨next, -, same⟩ | ⟨next, e, -, same⟩ | ⟨refusal, e, -, same⟩⟩
  all_goals rw [same]
  · exact leavesOthers_refl ..
  · exact leavesOthers_bind ..
  · exact leavesOthers_bind ..
  · exact leavesOthers_commit ..
  · exact leavesOthers_bind ..
  · exact (leavesOthers_bind ..).trans (leavesOthers_release ..)

theorem sinks_openFile {l : Locator} {place : List String}
    (opened : s.openFile l = .ok (s', place)) : s'.sinks = s.sinks := by
  obtain ⟨-, ⟨-, rfl⟩ | ⟨-, -, -, rfl⟩⟩ := openFile_cases opened
  · rfl
  · rfl

theorem sinks_openStore {path : Option String} (opened : s.openStore name path = .ok (s', c)) :
    s'.sinks = s.sinks := by
  obtain ⟨text, l, -, -, -, ⟨-, rfl, -⟩ | ⟨-, -, rfl, -⟩ | ⟨-, -, place, file, -⟩⟩ :=
    openStore_cases opened
  · rfl
  · rfl
  · exact sinks_openFile file

theorem leavesOthers_openTable (s : Session) (name : String) (t : TableSink) :
    s.LeavesOthers name (s.openTable name t).1 := by
  unfold openTable
  split
  · exact leavesOthers_refl ..
  rename_i s₁ c opened
  have found : s.LeavesOthers name
      ((s₁.leave name).recover name ((s₁.leave name).learn name t c)).1 :=
    (leavesOthers_of_sinks (sinks_openStore opened)).trans
      ((leavesOthers_leave s₁ name).trans (leavesOthers_of_sinks (sinks_recover ..)))
  have made := found.trans (leavesOthers_makeTable _ name t
    ((s₁.leave name).recover name ((s₁.leave name).learn name t c)).2)
  dsimp only
  split
  · rename_i refused
    rw [refused] at made
    exact made
  · rename_i done
    rw [done] at made
    split
    · split
      · exact made.trans (leavesOthers_emptyTable ..)
      · exact made
    · exact made

theorem leavesOthers_connect (s : Session) (name : String) :
    s.LeavesOthers name (s.connect name).1 := by
  unfold connect
  split
  · exact leavesOthers_refl ..
  · unfold openLines
    split
    · exact leavesOthers_refl ..
    · split
      · exact leavesOthers_of_sinks rfl
      · exact (leavesOthers_bind s name _).trans
          (leavesOthers_of_sinks (congrArg (OrderedMap.set name _) (sinks_flush _ _)))
  · exact leavesOthers_openTable ..

/-! ## Writing, reading and closing -/

theorem leavesOthers_writeNoRows (s : Session) (name : String) (t : TableSink) (c : Connection)
    (records : List Prepared) : s.LeavesOthers name (s.writeNoRows name t c records).1 := by
  unfold writeNoRows
  split
  rename_i s₁ c₁ outcome looked
  have same : s.LeavesOthers name s₁ := by
    split at looked
    · cases looked
      exact leavesOthers_refl ..
    · cases looked
      exact leavesOthers_of_sinks (sinks_recover ..)
  split
  · exact same.trans (leavesOthers_bind ..)
  · dsimp only
    split
    · exact same.trans (leavesOthers_bind ..)
    · exact same.trans (leavesOthers_commit ..)

theorem leavesOthers_writePrepared (s : Session) (name : String) (t : TableSink) (c : Connection)
    (records : List Prepared) : s.LeavesOthers name (s.writePrepared name t c records).1 := by
  have same : s.LeavesOthers name (s.recover name c).1 :=
    leavesOthers_of_sinks (sinks_recover ..)
  unfold writePrepared
  split
  · exact leavesOthers_bind ..
  dsimp only
  split
  · exact same.trans (leavesOthers_bind ..)
  split
  · exact same.trans (leavesOthers_bind ..)
  split
  · exact same.trans (leavesOthers_bind ..)
  split
  · exact same.trans ((leavesOthers_bind ..).trans (leavesOthers_release ..))
  split
  · exact same.trans (leavesOthers_bind ..)
  · exact same.trans (leavesOthers_commit ..)

theorem leavesOthers_write (s : Session) (name : String) (records : List Document) :
    s.LeavesOthers name (s.write name records).1 := by
  unfold write
  split
  · exact leavesOthers_refl ..
  · rename_i lines _
    cases isOpen : lines.handle with
    | none =>
      rw [writeLines, isOpen]
      exact leavesOthers_refl ..
    | some handle =>
      obtain ⟨_, _, same⟩ := @exists_writeLines_eq s name lines handle isOpen records
      rw [same]
      exact (leavesOthers_bind s name _).trans (leavesOthers_of_sinks rfl)
  · unfold writeRows
    split
    · exact leavesOthers_refl ..
    split
    · exact leavesOthers_refl ..
    dsimp only
    refine LeavesOthers.trans ?_ (leavesOthers_note ..)
    split
    · exact leavesOthers_writeNoRows ..
    · exact leavesOthers_writePrepared ..

theorem leavesOthers_close (s : Session) (name : String) :
    s.LeavesOthers name (s.close name).1 := by
  unfold close
  split
  · exact leavesOthers_refl ..
  · exact (leavesOthers_leave s name).trans ((leavesOthers_of_sinks (sinks_flush _ _)).trans
      ((leavesOthers_bind ..).trans (leavesOthers_of_sinks rfl)))

/-! ## Reading -/

theorem underWay?_setConnection (known : s.underWay? name = some (t.table, c.batch.pending))
    (other : String) : (s.setConnection name t c).underWay? other = s.underWay? other := by
  by_cases same : other = name
  · rw [same, known]
    exact underWay?_of_get? (t := { t with connection := some c }) get?_bind_self rfl
  · exact underWay?_bind_of_ne same _

theorem batch_recover (s : Session) (name : String) (c : Connection) :
    (s.recover name c).2.batch = c.batch := by
  obtain ⟨_, _, same⟩ := exists_recover_eq s name c
  rw [same]

theorem batch_find (s : Session) (name : String) (t : TableSink) (c : Connection)
    (statement : Statement) : (s.find name t c statement).1.batch = c.batch := by
  obtain ⟨_, _, same⟩ := exists_find_eq s name t c statement
  rw [same]

theorem batch_unbound (c : Connection) (first : Option Document) (e : Error) :
    (unbound c first e).1.batch = c.batch := by
  unfold unbound
  split <;> rfl

theorem pending_noteRead (c : Connection) (table : String) (d : Database) :
    (noteRead c table d).batch.pending = c.batch.pending := by
  unfold noteRead
  dsimp only
  split <;> rfl

theorem underWay?_lookUp [Nesting] (known : s.underWay? name = some (t.table, c.batch.pending))
    (uuid : Option Document) (matched : Option Int) (other : String) :
    (s.lookUp name t c uuid matched).1.underWay? other = s.underWay? other := by
  have kept (s₁ : Session) (c₁ : Connection) (sinks : s₁.sinks = s.sinks)
      (pending : c₁.batch.pending = c.batch.pending) :
      (s₁.setConnection name t c₁).underWay? other = s.underWay? other := by
    rw [underWay?_setConnection (by rw [underWay?_congr sinks, known, pending]),
      underWay?_congr sinks]
  unfold lookUp
  extract_lets statement first isUnbound
  split
  rename_i s₁ c₁ looked
  have same : s₁.sinks = s.sinks ∧ c₁.batch = c.batch := by
    split at looked
    · cases looked
      exact ⟨rfl, rfl⟩
    · exact ⟨(congrArg (·.1.sinks) looked).symm.trans (sinks_recover ..),
        (congrArg (·.2.batch) looked).symm.trans (batch_recover ..)⟩
  split
  rename_i seen found finding
  have own : seen.batch = c.batch :=
    (congrArg (·.1.batch) finding).symm.trans ((batch_find ..).trans same.2)
  have pending {c₂ : Connection} (batch : c₂.batch = c.batch) :
      c₂.batch.pending = c.batch.pending := congrArg Batch.pending batch
  split
  · split
    · exact kept s₁ _ same.1 (pending ((batch_unbound ..).trans same.2))
    · exact kept s₁ _ same.1 (pending own)
    · exact kept s₁ _ same.1 (pending own)
  · exact kept s₁ _ same.1 (pending ((batch_unbound ..).trans own))
  · dsimp only
    split
    · exact kept s₁ _ same.1 (pending own)
    · exact kept s₁ _ same.1 ((pending_noteRead ..).trans (pending own))

theorem underWay?_note (s : Session) (name : String) {α : Type} (outcome : Except Error α)
    (other : String) : (s.note name outcome).underWay? other = s.underWay? other := by
  by_cases same : other = name
  · subst same
    unfold note
    split
    · rename_i t bound
      cases connected : t.connection with
      | none =>
        have closed : s.underWay? other = none := by
          rw [underWay?, connection?, bound]
          simp only [connected, Option.map_none]
        rw [closed, underWay?, connection?, get?_bind_self]
        simp only [Option.map_none]
      | some c =>
        have pending : (c.note outcome).batch.pending = c.batch.pending := by
          unfold Connection.note
          split
          · rfl
          · split <;> rfl
        rw [underWay?_of_get? bound connected]
        exact (underWay?_of_get? (t := { t with connection := some (c.note outcome) })
          get?_bind_self rfl).trans (by rw [pending])
    · rfl
  · exact (leavesOthers_note s name outcome).underWay?_eq other same

/-- A query does not touch what the batch of its own sink has made either. -/
theorem underWay?_query [Nesting] (s : Session) (name : String) (f : JsonLines.Filter)
    (other : String) :
    (s.query name f).1.underWay? other = s.underWay? other := by
  unfold query
  split
  · rfl
  · rfl
  · rename_i t bound
    unfold queryRows
    split
    · rfl
    · rfl
    · rename_i c matched connected _
      exact (underWay?_note ..).trans (underWay?_lookUp (underWay?_of_get? bound connected) ..)

/-! ## Steps -/

/-- A step that a sink does not take itself, unless it is a query. -/
def Step.IsAside (name : String) : Step → Prop
  | .open other _ | .write other _ | .close other => other ≠ name
  | .query .. => True

theorem underWay?_take [Nesting] {step : Step} (aside : step.IsAside name) :
    (step.take s).underWay? name = s.underWay? name := by
  cases step with
  | «open» other sink =>
    exact ((leavesOthers_bind s other (.table sink)).trans
      (leavesOthers_connect _ other)).underWay?_eq name (Ne.symm aside)
  | write other records => exact (leavesOthers_write s other records).underWay?_eq name aside.symm
  | query other filter => exact underWay?_query s other filter name
  | close other => exact (leavesOthers_close s other).underWay?_eq name aside.symm

/-- What a batch has made is there until its own sink goes on. -/
theorem underWay?_takeAll [Nesting] {steps : List Step}
    (aside : ∀ step ∈ steps, step.IsAside name) :
    (s.takeAll steps).underWay? name = s.underWay? name := by
  induction steps generalizing s with
  | nil => rfl
  | cons step steps ih =>
    rw [List.forall_mem_cons] at aside
    exact (ih aside.2).trans (underWay?_take aside.1)

end LogTemplate.Sink.Session
