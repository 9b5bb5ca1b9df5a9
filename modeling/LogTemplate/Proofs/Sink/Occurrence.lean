import LogTemplate.Proofs.Sink.Database
import LogTemplate.Proofs.Sink.Row
import LogTemplate.Sink.Transfer

/-!
# First occurrences

Of the records that are written to a table each hash is kept once.  Main statement: what is left of
records in a table are the first of those that have the same hash.
-/

namespace LogTemplate.Sink

/-- Of records that have the same hash the first one. -/
def firstOccurrences : List Document → List Document
  | [] => []
  | record :: rest => record :: (firstOccurrences rest).filter (hash? · != hash? record)

theorem mem_of_mem_firstOccurrences {records : List Document} {record : Document}
    (member : record ∈ firstOccurrences records) : record ∈ records := by
  induction records with
  | nil => exact member
  | cons first rest ih =>
    rw [firstOccurrences, List.mem_cons] at member
    rcases member with rfl | later
    · exact List.mem_cons_self
    · exact List.mem_cons_of_mem first (ih (List.mem_of_mem_filter later))

/-- Every hash occurs among the first occurrences. -/
theorem hash?_mem_firstOccurrences {records : List Document} {hash : Option Text} :
    hash ∈ (firstOccurrences records).map hash? ↔ hash ∈ records.map hash? := by
  induction records with
  | nil => rfl
  | cons first rest ih =>
    rw [firstOccurrences, List.map_cons, List.map_cons, List.mem_cons, List.mem_cons, ← ih]
    by_cases same : hash = hash? first
    · simp [same]
    · simp only [same, false_or, List.mem_map, List.mem_filter, bne_iff_ne]
      constructor
      · rintro ⟨record, ⟨member, _⟩, rfl⟩
        exact ⟨record, member, rfl⟩
      · rintro ⟨record, member, rfl⟩
        exact ⟨record, ⟨member, same⟩, rfl⟩

/-- A record more is a first occurrence more exactly if its hash is new. -/
theorem firstOccurrences_concat (records : List Document) (record : Document) :
    firstOccurrences (records ++ [record]) =
      if hash? record ∈ records.map hash? then firstOccurrences records
      else firstOccurrences records ++ [record] := by
  induction records with
  | nil => rfl
  | cons first rest ih =>
    rw [List.cons_append, firstOccurrences, ih, firstOccurrences, List.map_cons]
    by_cases known : hash? record ∈ rest.map hash?
    · rw [if_pos known, if_pos (List.mem_cons_of_mem _ known)]
    · rw [if_neg known, List.filter_append]
      by_cases same : hash? record = hash? first
      · simp [same]
      · have new : hash? record ∉ hash? first :: rest.map hash? := by
          simp only [List.mem_cons, same, known, or_self, not_false_iff]
        rw [if_neg new]
        simp [same]

/-- Records that have hashes of others change nothing. -/
theorem firstOccurrences_append_of_known {records more : List Document}
    (known : ∀ record ∈ more, hash? record ∈ records.map hash?) :
    firstOccurrences (records ++ more) = firstOccurrences records := by
  induction more generalizing records with
  | nil => rw [List.append_nil]
  | cons record more ih =>
    have first := known record List.mem_cons_self
    have rest : ∀ other ∈ more, hash? other ∈ (records ++ [record]).map hash? := by
      intro other member
      rw [List.map_append]
      exact List.mem_append_left _ (known other (List.mem_cons_of_mem record member))
    have assoc : records ++ record :: more = records ++ [record] ++ more := by simp
    rw [assoc, ih rest, firstOccurrences_concat, if_pos first]

namespace Table

variable {t : Table} {records : List Document}

/-- A table holds the first occurrences of some records, all of which have hashes. -/
structure Holds (t : Table) (records : List Document) : Prop where
  rows : t.rows.map Row.entryCells = (firstOccurrences records).map storedCells
  bound : ∀ record ∈ records, IsBound record
  hashed : ∀ record ∈ records, (hash? record).isSome

theorem holds_emptied (t : Table) : t.emptied.Holds [] where
  rows := rfl
  bound := fun _ member => absurd member (by simp)
  hashed := fun _ member => absurd member (by simp)

theorem same_text {s u : String} :
    (Cell.text s).same .utf8 .binary (.text u) = true ↔ s = u := by
  rw [Cell.same, beq_iff_eq]
  exact Std.LawfulEqOrd.compare_eq_iff_eq (a := s) (b := u)

theorem hashCell_of_stored {record : Document} (bound : IsBound record) {hash : String}
    (has : hash? record = some hash) (id : Int) :
    hashCell (entryRow id (cellsOf record)) = .text hash := by
  obtain ⟨found, same, cell⟩ := getElem?_storedCells_hash bound has
  obtain rfl := Text.ofString_inj.mp same
  rw [hashCell, entryRow]
  simpa [storedCells] using congrArg (Option.getD · .null) cell

/-- A table has the hashes of the records whose first occurrences it holds. -/
theorem hasHash_iff (holds : t.Holds records) {hash : String} :
    hasHash t.rows (.text hash) = true ↔ some (hash : Text) ∈ records.map hash? := by
  have cells : hasHash t.rows (.text hash) =
      (t.rows.map Row.entryCells).any fun cells =>
        (Cell.text hash).same .utf8 .binary (cells[7]?.getD .null) := by
    rw [hasHash, List.any_map]
    simp [hashCell, Row.entryCells, Cell.isNull, Function.comp_def]
  rw [← hash?_mem_firstOccurrences, cells, holds.rows, List.any_map, List.any_eq_true,
    List.mem_map]
  refine exists_congr fun record => and_congr_right fun member => ?_
  have known := mem_of_mem_firstOccurrences member
  obtain ⟨other, has⟩ := Option.isSome_iff_exists.mp (holds.hashed record known)
  obtain ⟨found, rfl, cell⟩ := getElem?_storedCells_hash (holds.bound record known) has
  rw [Function.comp_apply, cell, Option.getD_some, same_text, has, Option.some.injEq,
    Text.ofString_inj, eq_comm]

/-- A table takes the next record: it still holds the first occurrences. -/
theorem holds_keep (holds : t.Holds records) {record : Document} (bound : IsBound record)
    (hashed : (hash? record).isSome) :
    (t.keep (cellsOf record)).Holds (records ++ [record]) where
  rows := by
    obtain ⟨_, has⟩ := Option.isSome_iff_exists.mp hashed
    obtain ⟨hash, rfl, -⟩ := getElem?_storedCells_hash bound has
    rw [firstOccurrences_concat, has, keep, hashCell_of_stored bound has]
    by_cases known : some (hash : Text) ∈ records.map hash?
    · rw [if_pos known, if_pos ((hasHash_iff holds).mpr known), holds.rows]
    · rw [if_neg known, if_neg fun there => known ((hasHash_iff holds).mp there),
        List.map_append, holds.rows, List.map_append]
      rfl
  bound := by
    intro other member
    rcases List.mem_append.mp member with before | alone
    · exact holds.bound other before
    · exact List.mem_singleton.mp alone ▸ bound
  hashed := by
    intro other member
    rcases List.mem_append.mp member with before | alone
    · exact holds.hashed other before
    · exact List.mem_singleton.mp alone ▸ hashed

/-- A table takes records one after the other. -/
theorem holds_keepAll (holds : t.Holds records) {more : List Document}
    (bound : ∀ record ∈ more, IsBound record) (hashed : ∀ record ∈ more, (hash? record).isSome) :
    (t.keepAll (more.map cellsOf)).Holds (records ++ more) := by
  induction more generalizing t records with
  | nil => simpa using holds
  | cons record more ih =>
    have next := ih (holds_keep holds (bound record List.mem_cons_self)
        (hashed record List.mem_cons_self))
      (fun other member => bound other (List.mem_cons_of_mem record member))
      fun other member => hashed other (List.mem_cons_of_mem record member)
    rwa [List.append_assoc] at next

end Table

/-! ## Adding records -/

namespace Session

/-- What comes of adding records to the table `t` of a database: those at the front are added, up to
the first of which a cell cannot be bound or for which no number is left. -/
structure Adds (d : Database) (table : String) (t : Table) (records added : List Prepared)
    (result : Option Database × Except Error Unit) : Prop where
  bound : ∀ p ∈ added, p.IsBound
  database : result.1 = some (d.modify table (·.keepAll (added.map Prepared.row)))
  front : added <+: records
  all : result.2 = .ok () → added = records
  refused : ∀ e, result.2 = .error e → ∃ p rest, records = added ++ p :: rest
    ∧ (¬ p.IsBound ∨ Table.greatestId ≤ t.lastId + added.length ∧ e = .full)

variable {d : Database} {table : String} {t : Table}

theorem modify_keepAll_nil (d : Database) (table : String) :
    d.modify table (·.keepAll []) = d := by
  simp [Database.modify]

/-- A table of entries stays one when the rows of records that can be bound are added. -/
theorem isOfEntries_keepAll_row (made : t.IsOfEntries) {added : List Prepared}
    (bound : ∀ p ∈ added, p.IsBound) : (t.keepAll (added.map Prepared.row)).IsOfEntries :=
  Table.isOfEntries_keepAll made fun cells inside => by
    obtain ⟨p, known, rfl⟩ := List.mem_map.mp inside
    exact (Prepared.cells_eq_zip (bound p known)).2

/-- All records are added if they can be bound and there are numbers for them. -/
theorem Adds.succeeds {records added : List Prepared}
    {result : Option Database × Except Error Unit} (adds : Adds d table t records added result)
    (bound : ∀ p ∈ records, p.IsBound) (room : t.lastId + records.length ≤ Table.greatestId) :
    result.2 = .ok () := by
  cases outcome : result.2 with
  | ok _ => rfl
  | error e =>
    obtain ⟨p, rest, rfl, unbound | ⟨full, -⟩⟩ := adds.refused e outcome
    · exact absurd (bound p (List.mem_append_right added List.mem_cons_self)) unbound
    · rw [List.length_append, List.length_cons] at room
      omega

/-- A record that is refused leaves the database as it is. -/
theorem adds_none {p : Prepared} {records : List Prepared} {e : Error}
    (hindered : ¬ p.IsBound ∨ Table.greatestId ≤ t.lastId ∧ e = .full) :
    Adds d table t (p :: records) [] (some d, .error e) where
  bound := fun _ member => absurd member (by simp)
  database := by rw [List.map_nil, modify_keepAll_nil]
  front := List.nil_prefix
  all := fun done => by cases done
  refused := fun _ same => ⟨p, records, rfl, by simpa [← Except.error.inj same] using hindered⟩

/-- Records are added to a table of entries one by one. -/
theorem exists_adds_addRows (made : d.IsMade) (found : d.table? table = some t)
    (records : List Prepared) :
    ∃ added, Adds d table t records added (addRows d table records) := by
  induction records generalizing d t with
  | nil =>
    refine ⟨[], fun _ member => absurd member (by simp), ?_, List.nil_prefix, fun _ => rfl,
      fun _ refused => by cases refused⟩
    rw [addRows, List.map_nil, modify_keepAll_nil]
  | cons p records ih =>
    cases cells : p.cells with
    | error e =>
      refine ⟨[], ?_⟩
      simp only [addRows, cells]
      refine adds_none (.inl ?_)
      rintro ⟨given, taken⟩
      simp [cells] at taken
    | ok given =>
      have first : p.IsBound := ⟨given, cells⟩
      obtain ⟨zip, whole⟩ := Prepared.cells_eq_zip first
      have add := Database.add_entry made found whole
      by_cases room : t.lastId < Table.greatestId
      · have keeps : ∀ t : Table, (t.keep p.row).name = t.name := fun _ => rfl
        have made' : (d.modify table (·.keep p.row)).IsMade :=
          Database.isMade_modify made keeps fun t member _ =>
            Table.isOfEntries_keep (made.tables t member) whole
        have result : addRows d table (p :: records) =
            addRows (d.modify table (·.keep p.row)) table records := by
          simp only [addRows, zip, add, room, if_true]
        obtain ⟨added, rest⟩ := ih made' (Database.table?_modify_self found keeps)
        rw [result]
        refine ⟨p :: added, List.forall_mem_cons.mpr ⟨first, rest.bound⟩, ?_,
          List.cons_prefix_cons.mpr ⟨rfl, rest.front⟩,
          fun done => congrArg (p :: ·) (rest.all done), fun e outcome => ?_⟩
        · rw [rest.database, Database.modify_modify keeps]
          rfl
        · obtain ⟨q, later, rfl, why⟩ := rest.refused e outcome
          refine ⟨q, later, rfl, why.imp_right fun ⟨full, same⟩ => ⟨?_, same⟩⟩
          rw [List.length_cons]
          simp only [Table.keep] at full
          omega
      · refine ⟨[], ?_⟩
        simp only [addRows, zip, add, room, if_false]
        exact adds_none (.inr ⟨Int.not_lt.mp room, rfl⟩)

end Session

end LogTemplate.Sink
