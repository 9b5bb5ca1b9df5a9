import LogTemplate.Proofs.Sink.Query
import LogTemplate.Proofs.Sink.Write

/-!
# Queries that are made beside others at rest

Main statement: a query looks at the table of the sink as the file holds it, and all sinks are at
rest afterwards.
-/

namespace LogTemplate.Sink

namespace Connection.AtRest

variable {place : List String} {d : Database} {c : Connection}

theorem seeing (rests : c.AtRest place d) (made : d.IsMade) : (c.seeing d).AtRest place d :=
  ⟨rests.here, { rests.knows.look made with }, rests.idle⟩

theorem unbound (rests : c.AtRest place d) (first : Option Document) (e : Error) :
    (Session.unbound c first e).1.AtRest place d
      ∧ (Session.unbound c first e).1.isReadOnly = c.isReadOnly := by
  rw [Session.unbound]
  split
  · exact ⟨rests, rfl⟩
  · exact ⟨rests, rfl⟩
  · exact ⟨⟨rests.here, { rests.knows with }, rests.idle⟩, rfl⟩

theorem noteRead (rests : c.AtRest place d) (table : String) :
    (Session.noteRead c table d).AtRest place d
      ∧ (Session.noteRead c table d).isReadOnly = c.isReadOnly := by
  rw [Session.noteRead, rests.idle.pending, rests.idle.isOpen]
  exact ⟨⟨rests.here,
    { rests.knows with cached := fun _ same => .inl (Option.some.inj same).symm }, rests.idle⟩, rfl⟩

end Connection.AtRest

namespace Session

variable {s : Session} {name : String} {place : List String} {d : Database} {t : TableSink}
  {c : Connection} {table : Table}

/-- A sink looks up what is asked for, if that can be bound. -/
theorem IsReady.lookUp_eq [Nesting] (ready : s.IsReady name place t c d table)
    (uuid : Option Document)
    (matched : Option Int) :
    (∃ c', (s.lookUp name t c uuid matched).1.HasOpen name place t c' d
        ∧ c'.isReadOnly = c.isReadOnly)
      ∧ match wantedOf uuid matched with
        | .ok w => (s.lookUp name t c uuid matched).2 = recordsIn d t.table w
        | .error _ => ∃ e, (s.lookUp name t c uuid matched).2 = .error e := by
  have others := ready.opened.others
  have rests := ready.opened.rests.seeing others.made
  have remembered : ∀ statement, ((c.seeing d).remember statement).AtRest place d := fun _ =>
    ⟨rests.here, { rests.knows with }, rests.idle⟩
  have unwritten : ∀ statement, (s.mates name ((c.seeing d).remember statement)).any
      (fun mate => mate.batch.writes.any (Definition.sameName t.table)) = false := fun statement =>
    others.any_mates (c := (c.seeing d).remember statement) rests.here fun _ idle => by
      rw [idle.writes]; rfl
  simp only [lookUp, others.recover_eq ready.opened.rests.here, ite_self, ready.find_eq]
  cases wantedOf uuid matched with
  | error e =>
    have left := (remembered (.select uuid.isSome matched.isSome)).unbound
      (uuid <|> matched.map Document.int) e
    exact ⟨⟨_, others.setConnection left.1, left.2⟩, _, rfl⟩
  | ok w =>
    have left := (remembered (.select uuid.isSome matched.isSome)).noteRead t.table
    simp only [unwritten, Bool.false_eq_true, if_false]
    exact ⟨⟨_, others.setConnection left.1, left.2⟩, trivial⟩

/-- A query leaves all sinks at rest. -/
theorem IsReady.hasOpen_query [Nesting] (ready : s.IsReady name place t c d table)
    (f : JsonLines.Filter) :
    ∃ c', (s.query name f).1.HasOpen name place t c' d ∧ c'.isReadOnly = c.isReadOnly := by
  rw [query, ready.opened.bound]
  simp only [queryRows]
  cases f.matched.mapM integerOf with
  | error e => exact ⟨c, ready.opened, rfl⟩
  | ok matched =>
    obtain ⟨⟨c', opened, same⟩, -⟩ := (ready.withConnection (some c)).lookUp_eq f.uuid matched
    obtain ⟨c'', noted, still⟩ := opened.note
      (s.lookUp name { t with connection := some c } c f.uuid matched).2
    exact ⟨c'', noted.withConnection t.connection, still.trans same⟩

/-- Without a filter all rows are found, ordered by their line numbers. -/
theorem IsReady.query_empty [Nesting] (ready : s.IsReady name place t c d table) :
    (s.query name {}).2 =
      recordsOf ((table.rows.map Row.entryCells).mergeSort
        (Wanted.isUpToLine .utf8 .binary)) := by
  have made := ready.opened.others.made
  have sound := (made.tables table (Database.mem_of_table? ready.found)).sound
  obtain ⟨-, outcome⟩ := (ready.withConnection (some c)).lookUp_eq none none
  have all : recordsIn d t.table {} = recordsOf ((table.rows.map Row.entryCells).mergeSort
      (Wanted.isUpToLine .utf8 .binary)) := by
    rw [recordsIn, ready.found, Wanted.select_empty made ready.found]
    simp only [Option.any_some, sound, Bool.false_eq_true, if_false]
  rw [query, ready.opened.bound]
  exact outcome.trans all

end Session

end LogTemplate.Sink
