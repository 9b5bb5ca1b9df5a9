import LogTemplate.Proofs.Sink.Open

/-!
# Sinks that are opened again

Main statement: where a sink has been opened once, another one with its path and table can be opened
as long as nothing but the file of the database has changed, if its path does not lead through that.
-/

namespace LogTemplate.Sink

open Workspace (follow)

/-- What stands for a database does not lead through the file of that, as if it were a directory. -/
def Locator.IsDirect (home : List String) (text : String) : Prop :=
  ∀ l, Locator.ofText text = .ok l → ∀ front, front <+: (Path.ofText l.name).names →
    ∀ way, way <+: front.foldl follow (l.start home) → way.foldl follow [] = l.place home →
      way = front.foldl follow (l.start home)

theorem foldl_follow {start names : List String} (plain : ".." ∉ names) :
    names.foldl follow start = start ++ names := by
  induction names generalizing start with
  | nil => rw [List.foldl_nil, List.append_nil]
  | cons name names ih =>
    rw [List.mem_cons, not_or] at plain
    have other : (name == "..") = false := by simpa using Ne.symm plain.1
    rw [List.foldl_cons, follow, other, if_neg Bool.false_ne_true, ih plain.2, List.append_assoc,
      List.singleton_append]

theorem length_foldl_follow_le (start names : List String) :
    (names.foldl follow start).length ≤ start.length + names.length := by
  induction names generalizing start with
  | nil => exact Nat.le_refl _
  | cons name names ih =>
    have step : (follow start name).length ≤ start.length + 1 := by
      rw [follow]
      split
      · rw [List.length_dropLast]
        omega
      · rw [List.length_append, List.length_singleton]
    have rest := ih (follow start name)
    rw [List.foldl_cons, List.length_cons]
    omega

/-- What has no double dot leads straight to its file. -/
theorem Locator.isDirect_of_plain {home : List String} {text : String}
    (plain : ∀ l, Locator.ofText text = .ok l → ".." ∉ (Path.ofText l.name).names) :
    Locator.IsDirect home text := by
  intro l read front inside way below reaches
  have plain := plain l read
  have short := length_foldl_follow_le [] way
  rw [foldl_follow fun dots => plain (inside.subset dots)] at below ⊢
  rw [reaches, Locator.place, foldl_follow plain, List.length_append, List.length_nil] at short
  refine below.eq_of_length_le ?_
  have within := inside.length_le
  rw [List.length_append]
  omega

namespace Session

variable {s s' : Session} {name : String} {place : List String} {d : Database} {t : TableSink}
  {c : Connection}

/-- Names lead to the same place as long as nothing on the way there is changed. -/
theorem trace_congr {w w' : Workspace} {start names found : List String}
    (direct : ∀ front, front <+: names → ∀ way, way <+: front.foldl follow start →
      way.foldl follow [] = place → way = front.foldl follow start)
    (elsewhere : ∀ other, other ≠ place → w'.node? other = w.node? other)
    (leads : trace w start names = .ok found) : trace w' start names = .ok found := by
  induction names generalizing start with
  | nil => exact leads
  | cons name names ih =>
    have further : ∀ front, front <+: names →
        ∀ way, way <+: front.foldl follow (follow start name) →
          way.foldl follow [] = place → way = front.foldl follow (follow start name) :=
      fun front inside => direct (name :: front) (List.cons_prefix_cons.mpr ⟨rfl, inside⟩)
    rw [trace] at leads ⊢
    split at leads
    · rename_i up
      rw [follow, if_pos up] at further
      rw [if_pos up]
      exact ih further leads
    · rename_i down
      rw [follow, if_neg down] at further
      have first := direct [name] (List.cons_prefix_cons.mpr ⟨rfl, List.nil_prefix⟩)
      rw [List.foldl_cons, List.foldl_nil, follow, if_neg down] at first
      have same : w'.walk [] (start ++ [name]) = w.walk [] (start ++ [name]) := by
        refine Workspace.walk_congr fun front rest whole left => elsewhere _ fun here => left ?_
        have all := first front ⟨rest, whole.symm⟩ here
        rw [all] at whole
        exact List.self_eq_append_right.mp whole
      rw [if_neg down]
      simp only [same] at leads ⊢
      split at leads
      · cases leads
      · rename_i short
        rw [if_neg short]
        split at leads
        · exact ih further leads
        · exact ih further leads
        · cases leads

/-- A file is opened again where it has been opened once. -/
theorem openFile_again {first : Session} {l : Locator} {x : Session × List String}
    (direct : ∀ front, front <+: (Path.ofText l.name).names →
      ∀ way, way <+: front.foldl follow (l.start first.workspace.home) →
        way.foldl follow [] = place → way = front.foldl follow (l.start first.workspace.home))
    (leads : l.place first.workspace.home = place) (opened : first.openFile l = .ok x)
    (elsewhere : ∀ other, other ≠ place → s.workspace.node? other = first.workspace.node? other)
    (home : s.workspace.home = first.workspace.home) {content : Content}
    (file : s.workspace.node? place = some (.file content)) : s.openFile l = .ok (s, place) := by
  obtain ⟨same, -⟩ := openFile_cases opened
  obtain rfl : x.2 = place := (trace_eq same).trans leads
  have again := trace_congr direct elsewhere same
  rw [Locator.start] at again
  rw [openFile, home, again, ok_bind, file]
  rfl

/-- A database is opened again where it has been opened once. -/
theorem openStore_again {first : Session} {own : String} {text : String} {x : Session × Connection}
    (direct : Locator.IsDirect first.workspace.home text)
    (leads : Locator.place? first.workspace.home text = some place)
    (opened : first.openStore own (some text) = .ok x)
    (elsewhere : ∀ other, other ≠ place → s.workspace.node? other = first.workspace.node? other)
    (home : s.workspace.home = first.workspace.home) {content : Content}
    (file : s.workspace.node? place = some (.file content)) (name : String) :
    ∃ c, s.openStore name (some text) = .ok (s, c) := by
  obtain ⟨l, _, whole, read, together, unnamed, -, leads, file', -⟩ :=
    openStore_of_place? leads opened
  have again := openFile_again (leads ▸ direct l read) leads file' elsewhere home file
  rw [openStore]
  simp only [whole, read, ok_bind, together, unnamed, Bool.false_eq_true, if_false, again]
  exact ⟨_, rfl⟩

/-- Nothing is to be made for a table that a database serves. -/
theorem makeTable_of_serves (others : s.OthersRest name place d) (rests : c.AtRest place d)
    (free : TableName.isReserved t.table = false) (serves : d.Serves t.table) :
    ∃ s' c', s.makeTable name t c = (s', .ok ())
      ∧ s'.connection? name = some ({ t with connection := some c' }, c') := by
  obtain ⟨table, found⟩ := Option.isSome_iff_exists.mp serves.isThere
  have bound := others.setConnection (t := t) rests
  have known := rests.knows.look others.made
  have rests' : Connection.AtRest { c.look d with seen := some (seenIn d t.table) } place d :=
    ⟨rests.here, { known with }, rests.idle⟩
  have ensured : (s.setConnection name t c).ensureTable name t c =
      .ok ((s.setConnection name t c).setConnection name t
        { c.look d with seen := some (seenIn d t.table) }) := by
    rw [ensureTable, free, if_neg Bool.false_ne_true, bound.others.view_of_atRest rests, ok_bind,
      Database.hasTable_eq others.made, found]
    rfl
  have opened := bound.others.setConnection (t := t) rests'
  have indexed : ((s.setConnection name t c).setConnection name t
      { c.look d with seen := some (seenIn d t.table) }).ensureIndex name
        { t with connection := some { c.look d with seen := some (seenIn d t.table) } }
        { c.look d with seen := some (seenIn d t.table) } =
      .ok ((s.setConnection name t c).setConnection name t
        { c.look d with seen := some (seenIn d t.table) }) := by
    rw [ensureIndex, opened.others.view_of_atRest rests', ok_bind]
    simp only [found, serves.isFree, serves.hasIndex, Bool.false_eq_true, if_false, if_true]
    rfl
  refine ⟨_, _, ?_, opened.connection?_eq⟩
  rw [makeTable]
  simp only [ensured, opened.connection?_eq, indexed]

theorem openStore_of_connect {text : String} (path : t.path = some text)
    (bound : s.get? name = some (.table t)) (opened : s.connect name = (s', .ok ())) :
    ∃ x, s.openStore name (some text) = .ok x := by
  rw [connect, bound] at opened
  simp only [openTable, path] at opened
  split at opened
  · cases opened
  · exact ⟨_, by assumption⟩

/-- A sink that keeps what its table holds is opened again where one has been opened. -/
theorem connect_again {first : Session} {own text : String} {x : Session × Connection}
    (direct : Locator.IsDirect first.workspace.home text)
    (opened : first.openStore own (some text) = .ok x)
    (elsewhere : ∀ other, other ≠ place → s.workspace.node? other = first.workspace.node? other)
    (home : s.workspace.home = first.workspace.home) {content : Content}
    (file : s.workspace.node? place = some (.file content))
    (others : s.OthersRest name place d) (serves : d.Serves t.table)
    (free : TableName.isReserved t.table = false) (keeps : t.empties = false)
    (path : t.path = some text) (leads : t.LeadsTo first.workspace.home place)
    (bound : s.get? name = some (.table t)) :
    ∃ s', s.connect name = (s', .ok ()) := by
  obtain ⟨⟨text', path', leads⟩, closed⟩ := leads
  obtain rfl : text = text' := Option.some.inj (path.symm.trans path')
  obtain ⟨c, stored⟩ := openStore_again direct leads opened elsewhere home file name
  obtain ⟨-, new, isNew, rfl⟩ := openStore_ok (home ▸ leads) stored
  have learned := atRest_learn s name t (others.atRest_likeMate isNew)
  obtain ⟨s', c', made, connected⟩ := makeTable_of_serves others learned free serves
  refine ⟨s', ?_⟩
  rw [connect, bound]
  simp only [openTable, path, stored, leave_of_closed bound closed, others.recover_eq learned.here,
    made, connected, keeps, Bool.false_eq_true, if_false]

end Session

end LogTemplate.Sink
