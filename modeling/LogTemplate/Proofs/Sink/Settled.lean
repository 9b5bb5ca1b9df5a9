import LogTemplate.Proofs.Sink.Commit
import LogTemplate.Proofs.Sink.Session

/-!
# Sinks whose databases have done what they were told

Main statements: a sink that has been opened, or has written a batch, has no failure left of which
it would tell instead of a later one.
-/

namespace LogTemplate.Sink.Session

variable {s : Session} {name : String} {t : TableSink} {c : Connection}

/-! ## What a connection remembers -/

theorem failure_recover (s : Session) (name : String) (c : Connection) :
    (s.recover name c).2.failure = c.failure := by
  obtain ⟨_, _, same⟩ := exists_recover_eq s name c
  rw [same]

theorem failure_find (s : Session) (name : String) (t : TableSink) (c : Connection)
    (statement : Statement) : (s.find name t c statement).1.failure = c.failure := by
  obtain ⟨_, _, same⟩ := exists_find_eq s name t c statement
  rw [same]

/-! ## Sinks -/

/-- The sink of a name has not been told by its database that this did not do something. -/
def IsSettled (s : Session) (name : String) : Prop :=
  ∀ t c, s.connection? name = some (t, c) → c.failure = none

theorem connection?_congr {s' : Session} (same : s'.get? name = s.get? name) :
    s'.connection? name = s.connection? name := by
  rw [connection?, connection?, same]

theorem IsSettled.congr {s' : Session} (settled : s.IsSettled name)
    (same : s'.get? name = s.get? name) : s'.IsSettled name :=
  fun t c found => settled t c ((connection?_congr same).symm.trans found)

theorem isSettled_setConnection (s : Session) (name : String) (t : TableSink)
    (known : c.failure = none) :
    (s.setConnection name t c).IsSettled name := by
  intro t' c' found
  obtain ⟨bound, connected⟩ := connection?_eq_some_iff.mp found
  rw [setConnection, get?_bind_self] at bound
  cases bound
  cases connected
  exact known

theorem isSettled_store (s : Session) (t : TableSink) (known : c.failure = none) (d : Database) :
    (s.store name t c d).IsSettled name := by
  unfold store
  dsimp only
  split
  · exact isSettled_setConnection _ name t known
  · exact isSettled_setConnection _ name t known
  · have settled := isSettled_setConnection (s.reveal name c d.changed) name t
      (c := { c.look d.changed with cached := some d.changed }) known
    exact settled.congr (get?_dropJournals _ name c)

theorem isSettled_commit (s : Session) (t : TableSink) (known : c.failure = none)
    (done : (s.commit name t c).2 = .ok ()) : (s.commit name t c).1.IsSettled name := by
  unfold commit at done ⊢
  dsimp only at done ⊢
  split at done
  · exact (isSettled_setConnection s name t (c := { c with batch := {} }) known).congr
      (get?_release _ name c)
  · split at done
    · cases done
    · rename_i free
      rw [if_neg free]
      exact (isSettled_store s t (c := { c with batch := {} }) known _).congr
        (get?_release _ name c)

theorem isSettled_ensureTable {s' : Session} (known : c.failure = none)
    (done : s.ensureTable name t c = .ok s') : s'.IsSettled name := by
  obtain ⟨-, d, -, ⟨-, rfl⟩ | ⟨-, -, -, -, rfl⟩⟩ := ensureTable_cases done
  · exact isSettled_setConnection s name t known
  · exact isSettled_store s t (c := { c with seen := some ⟨true, true⟩ }) known _

theorem isSettled_ensureIndex {s' : Session} (settled : s.IsSettled name)
    (known : c.failure = none) (done : s.ensureIndex name t c = .ok s') : s'.IsSettled name := by
  obtain ⟨d, table, -, -, -, ⟨-, rfl⟩ | ⟨-, -, -, -, rfl⟩⟩ := ensureIndex_cases done
  · exact settled
  · exact isSettled_store s t known _

theorem isSettled_makeTable (s : Session) (name : String) (t : TableSink)
    (known : c.failure = none) (done : (s.makeTable name t c).2 = .ok ()) :
    (s.makeTable name t c).1.IsSettled name := by
  unfold makeTable at done ⊢
  dsimp only at done ⊢
  split at done
  · cases done
  rename_i made
  have settled := isSettled_ensureTable known made
  split at done
  · exact settled
  rename_i found
  split at done
  · cases done
  · rename_i indexed
    exact isSettled_ensureIndex settled (settled _ _ found) indexed

theorem failure_begin (known : c.failure = none) : c.begin.failure = none := by
  simp [Connection.begin, known]

theorem isSettled_emptyTable (s : Session) (t : TableSink) (known : c.failure = none)
    (done : (s.emptyTable name t c).2 = .ok ()) : (s.emptyTable name t c).1.IsSettled name := by
  rcases emptyTable_cases s name t c with ⟨e, same⟩ | ⟨d, table, -, -, ⟨e, same⟩ | ⟨e, same⟩ |
    ⟨next, -, same⟩ | ⟨next, e, -, same⟩ | ⟨refusal, e, -, same⟩⟩
  all_goals rw [same] at done ⊢
  case inr.inr.inr.inl => exact isSettled_commit s t (failure_begin known) done
  all_goals cases done

theorem failure_openStore {s s' : Session} {path : Option String}
    (opened : s.openStore name path = .ok (s', c)) : c.failure = none := by
  have alike (s : Session) (c : Connection) : (s.likeMate name c).failure = c.failure := by
    unfold likeMate
    split <;> rfl
  obtain ⟨text, l, -, -, -, ⟨-, -, rfl⟩ | ⟨-, -, -, ⟨-, rfl⟩ | ⟨-, rfl⟩⟩ | ⟨-, -, place, -, rfl⟩⟩ :=
    openStore_cases opened
  · rfl
  · exact alike ..
  · rfl
  · exact alike ..

theorem isSettled_openTable (s : Session) (name : String) (t : TableSink)
    (done : (s.openTable name t).2 = .ok ()) : (s.openTable name t).1.IsSettled name := by
  unfold openTable at done ⊢
  split at done
  · cases done
  rename_i s' c opened
  have new := failure_openStore opened
  have known :
      ((s'.leave name).recover name ((s'.leave name).learn name t c)).2.failure = none := by
    rw [failure_recover]
    unfold learn
    split
    · exact new
    · exact new
  dsimp only at done ⊢
  have made := isSettled_makeTable
    ((s'.leave name).recover name ((s'.leave name).learn name t c)).1 name t known
  split at done
  · cases done
  rename_i same
  rw [same] at made
  have settled := made rfl
  split at done
  · rename_i found
    split at done
    · rename_i empties
      rw [if_pos empties]
      exact isSettled_emptyTable _ _ (settled _ _ found) done
    · rename_i keeps
      rw [if_neg keeps]
      exact settled
  · exact settled

theorem isSettled_note (s : Session) (name : String) {α : Type} (a : α) :
    (s.note name (.ok a : Except Error α)).IsSettled name := by
  intro t c found
  obtain ⟨bound, connected⟩ := connection?_eq_some_iff.mp found
  unfold note at bound
  split at bound
  · rw [get?_bind_self] at bound
    cases bound
    obtain ⟨c', -, rfl⟩ := Option.map_eq_some_iff.mp connected
    rfl
  · rename_i other
    exact absurd bound (other t)

theorem isSettled_of_lines {sink : LineSink} (bound : s.get? name = some (.lines sink)) :
    s.IsSettled name := by
  intro t c found
  cases bound.symm.trans (connection?_eq_some_iff.mp found).1

theorem isSettled_connect (s : Session) (name : String) (done : (s.connect name).2 = .ok ()) :
    (s.connect name).1.IsSettled name := by
  unfold connect at done ⊢
  split at done
  · cases done
  · unfold openLines at done ⊢
    split at done
    · cases done
    · split at done
      · cases done
      · exact isSettled_of_lines get?_bind_self
  · exact isSettled_openTable s name _ done

theorem isSettled_write (s : Session) (name : String) (records : List Document)
    (done : (s.write name records).2 = .ok ()) : (s.write name records).1.IsSettled name := by
  unfold write at done ⊢
  split at done
  · cases done
  · rename_i lines _
    cases isOpen : lines.handle with
    | none =>
      rw [writeLines, isOpen] at done
      cases done
    | some handle =>
      obtain ⟨_, _, same⟩ := @exists_writeLines_eq s name lines handle isOpen records
      rw [same]
      exact isSettled_of_lines get?_bind_self
  · unfold writeRows at done ⊢
    split at done
    · cases done
    split at done
    · cases done
    dsimp only at done ⊢
    rw [done]
    exact isSettled_note _ name ()

end LogTemplate.Sink.Session
