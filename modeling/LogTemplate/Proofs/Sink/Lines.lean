import LogTemplate.Proofs.Sink.JsonLines
import LogTemplate.Proofs.Sink.Session
import LogTemplate.Proofs.Workspace

/-!
# Sinks of JSON lines

Main statement: a sink of JSON lines that has been opened takes every batch in which no half stands
alone, and no other one.  A query then gives the records that were written, in their order, even
once the sink is closed.
-/

namespace LogTemplate.Sink

theorem overwrite_end (written bytes : List UInt8) :
    overwrite bytes.length written bytes = bytes ++ written := by
  simp [overwrite]

namespace Session

/-- A sink of JSON lines is open and holds nothing back, and its file holds the given records and
nothing else. -/
structure HasWritten (s : Session) (name : String) (sink : LineSink) (place : List String)
    (records : List Document) : Prop where
  bound : s.get? name = some (.lines { sink with
    handle := some { place, offset := (JsonLines.bytesOf records).length } })
  leads : s.workspace.locate sink.path = .ok place
  holds : s.workspace.node? place = some (.file (.bytes (JsonLines.bytesOf records)))

/-- A sink of JSON lines is open and holds back the lines of some records, and its file holds those
of others. -/
structure HoldsBack (s : Session) (name : String) (sink : LineSink) (place : List String)
    (records back : List Document) : Prop where
  bound : s.get? name = some (.lines { sink with
    handle := some {
      place
      offset := (JsonLines.bytesOf records).length
      held := JsonLines.bytesOf back } })
  leads : s.workspace.locate sink.path = .ok place
  holds : s.workspace.node? place = some (.file (.bytes (JsonLines.bytesOf records)))

variable {s s' : Session} {name : String} {sink : LineSink} {place : List String}
  {records : List Document}

theorem HasWritten.holdsBack (written : s.HasWritten name sink place records) :
    s.HoldsBack name sink place records [] :=
  ⟨written.bound, written.leads, written.holds⟩

/-- A sink of JSON lines that is not open is opened where a file can be written, and starts with an
empty one. -/
theorem hasWritten_openLines {w : Workspace} (free : sink.HoldsNothing)
    (parent : s.workspace.ensureParent sink.path = .ok w)
    (writable : w.writable sink.path = .ok place) :
    ∃ s', s.openLines name sink = (s', .ok ())
      ∧ s'.HasWritten name sink place [] ∧ s'.workspace = w.write place (.bytes []) := by
  obtain ⟨leads, file⟩ := Workspace.leads_of_writable writable
  have outside := Workspace.not_isPrefixOf_home file
  simp only [openLines, parent, writable, flush_lines free]
  refine ⟨_, rfl, ⟨get?_bind_self, ?_, ?_⟩, rfl⟩
  · exact Workspace.locate_setNode file leads
  · exact Workspace.node?_setNode_self _ outside

theorem hasWritten_connect (free : sink.HoldsNothing) (made : s.get? name = some (.lines sink))
    (opened : s.connect name = (s', .ok ())) : ∃ place, s'.HasWritten name sink place [] := by
  rw [connect, made] at opened
  cases parent : s.workspace.ensureParent sink.path with
  | error e =>
    simp only [openLines, parent] at opened
    cases opened
  | ok w =>
    cases writable : w.writable sink.path with
    | error fault =>
      simp only [openLines, parent, writable] at opened
      cases opened
    | ok place =>
      obtain ⟨next, done, holds, -⟩ :=
        @hasWritten_openLines s name sink place w free parent writable
      obtain ⟨rfl, -⟩ := Prod.mk.inj (done.symm.trans opened)
      exact ⟨place, holds⟩

/-- A batch in which no half stands alone is taken and comes behind what was written before. -/
theorem hasWritten_write (before : s.HasWritten name sink place records)
    {batch : List Document} (whole : ∀ d ∈ batch, d.isWhole = true) :
    ∃ s', s.write name batch = (s', .ok ()) ∧ s'.HasWritten name sink place (records ++ batch) := by
  have file : s.workspace.node? place ≠ some .directory := by simp [before.holds]
  have outside := Workspace.not_isPrefixOf_home file
  have bytes := JsonLines.bytesOf_append records batch
  rw [write, before.bound]
  simp only [writeLines, JsonLines.encode_of_isWhole whole, Handle.hold, List.nil_append,
    Handle.flush, before.holds, Content.toBytes, overwrite_end, ← bytes]
  refine ⟨_, rfl, ?_, ?_, ?_⟩
  · rw [get?_bind_self, bytes, List.length_append]
    rfl
  · rw [workspace_bind]
    split
    · exact before.leads
    · exact Workspace.locate_setNode file before.leads
  · rw [workspace_bind]
    split
    · rename_i empty
      rw [before.holds, bytes, List.isEmpty_iff.mp empty, List.append_nil]
    · exact Workspace.node?_setNode_self _ outside

/-- A batch in which a half stands alone is refused, and the lines before are held back. -/
theorem write_lines_of_not_isWhole (before : s.HasWritten name sink place records)
    {batch : List Document} (broken : ¬ ∀ d ∈ batch, d.isWhole = true) :
    ∃ s' stray, s.write name batch = (s', .error (.unencodable stray))
      ∧ s'.HoldsBack name sink place records (JsonLines.encodable batch) := by
  obtain ⟨bytes, outcome⟩ := JsonLines.encode_eq batch
  rw [if_neg broken] at outcome
  obtain ⟨stray, failed⟩ := outcome
  rw [write, before.bound]
  simp only [writeLines, failed, bytes]
  exact ⟨_, stray, rfl, get?_bind_self, before.leads, before.holds⟩

theorem hasWritten_writeAll (before : s.HasWritten name sink place records)
    {batches : List (List Document)} (whole : ∀ d ∈ batches.flatten, d.isWhole = true) :
    ∃ s', s.writeAll name batches = (s', .ok ())
      ∧ s'.HasWritten name sink place (records ++ batches.flatten) := by
  induction batches generalizing s records with
  | nil => exact ⟨s, rfl, by simpa using before⟩
  | cons batch rest ih =>
    rw [List.flatten_cons, List.forall_mem_append] at whole
    obtain ⟨next, written, holds⟩ := hasWritten_write before whole.1
    obtain ⟨last, all, holds'⟩ := ih holds whole.2
    refine ⟨last, (writeAll_cons_of_ok written).trans all, ?_⟩
    rwa [List.flatten_cons, ← List.append_assoc]

/-- Batches are not taken if a half stands alone in one of them.  The file and the sink then hold
nothing but some of the records, in which no half does. -/
theorem writeAll_lines_of_not_isWhole (before : s.HasWritten name sink place records)
    {batches : List (List Document)} (broken : ¬ ∀ d ∈ batches.flatten, d.isWhole = true) :
    ∃ s' stray done back, s.writeAll name batches = (s', .error (.unencodable stray))
      ∧ s'.HoldsBack name sink place (records ++ done) back
      ∧ ∀ d ∈ done ++ back, d ∈ batches.flatten ∧ d.isWhole = true := by
  induction batches generalizing s records with
  | nil => exact absurd (List.forall_mem_nil _) broken
  | cons batch rest ih =>
    rw [List.flatten_cons] at broken ⊢
    by_cases whole : ∀ d ∈ batch, d.isWhole = true
    · obtain ⟨next, written, holds⟩ := hasWritten_write before whole
      obtain ⟨s', stray, done, back, refused, left, known⟩ := ih holds fun others =>
        broken (List.forall_mem_append.mpr ⟨whole, others⟩)
      refine ⟨s', stray, batch ++ done, back, (writeAll_cons_of_ok written).trans refused, ?_, ?_⟩
      · rwa [← List.append_assoc]
      · rw [List.append_assoc, List.forall_mem_append]
        exact ⟨fun d member => ⟨List.mem_append_left _ member, whole d member⟩, fun d member =>
          ⟨List.mem_append_right _ (known d member).1, (known d member).2⟩⟩
    · obtain ⟨s', stray, refused, left⟩ := write_lines_of_not_isWhole before whole
      refine ⟨s', stray, [], JsonLines.encodable batch, by rw [writeAll, refused], ?_,
        fun d member => ⟨List.mem_append_left _ ?_, ?_⟩⟩
      · rwa [List.append_nil]
      · exact (List.takeWhile_sublist _).subset member
      · exact List.mem_takeWhile_imp member

/-- A query looks at the lines that a file holds, whatever sink is asked that has its path. -/
theorem query_lines [Nesting] {bytes : List UInt8} (bound : s.get? name = some (.lines sink))
    (leads : s.workspace.locate sink.path = .ok place)
    (holds : s.workspace.node? place = some (.file (.bytes bytes))) (f : JsonLines.Filter) :
    s.query name f = (s, JsonLines.query f bytes) := by
  have read : s.workspace.read sink.path = .ok (.bytes bytes) := by
    rw [Workspace.read, leads]
    refine bind_eq_ok_iff.mpr ⟨place, rfl, ?_⟩
    rw [holds]
  rw [query, bound]
  simp only [queryLines, read]
  rfl

/-- A sink that is closed writes what it holds back. -/
theorem HoldsBack.exists_close {back : List Document}
    (left : s.HoldsBack name sink place records back) :
    ∃ closed, s.close name = (closed, .ok ())
      ∧ closed.workspace.locate sink.path = .ok place
      ∧ closed.workspace.node? place =
        some (.file (.bytes (JsonLines.bytesOf (records ++ back)))) := by
  have file : s.workspace.node? place ≠ some .directory := by simp [left.holds]
  have unconnected : s.connection? name = none := by
    rw [connection?, left.bound]
  rw [close, left.bound]
  simp only [leave, unconnected, flush, Handle.flush, left.holds, Content.toBytes, overwrite_end]
  refine ⟨_, rfl, ?_, ?_⟩
  all_goals
    split
  · exact left.leads
  · exact Workspace.locate_setNode file left.leads
  · rename_i empty
    refine left.holds.trans ?_
    rw [JsonLines.bytesOf_append, List.isEmpty_iff.mp empty, List.append_nil]
  · rw [JsonLines.bytesOf_append]
    exact Workspace.node?_setNode_self _ (Workspace.not_isPrefixOf_home file)

/-- A sink that holds nothing back is closed and leaves the files as they are. -/
theorem HasWritten.exists_close (written : s.HasWritten name sink place records) :
    ∃ closed, s.close name = (closed, .ok ()) ∧ closed.workspace = s.workspace := by
  have unconnected : s.connection? name = none := by
    rw [connection?, written.bound]
  rw [close, written.bound]
  simp only [leave, unconnected]
  exact ⟨_, rfl, rfl⟩

/-- A sink that is asked finds the records that its file holds, and a sink with its path finds those
that it has held back too, once it is closed. -/
theorem HoldsBack.exists_queries [Nesting] {back : List Document}
    (left : s.HoldsBack name sink place records back) :
    (∀ f, s.query name f = (s, JsonLines.query f (JsonLines.bytesOf records)))
      ∧ ∃ closed, s.close name = (closed, .ok ())
        ∧ ∀ reader f, ((closed.bind reader (.lines { path := sink.path })).query reader f).2 =
          JsonLines.query f (JsonLines.bytesOf (records ++ back)) := by
  obtain ⟨closed, shut, leads, holds⟩ := left.exists_close
  refine ⟨query_lines left.bound left.leads left.holds, closed, shut, fun reader f => ?_⟩
  have bound : (closed.bind reader (.lines { path := sink.path })).get? reader =
      some (.lines { path := sink.path }) := get?_bind_self
  rw [query_lines bound leads holds]

/-- A sink of JSON lines that has been opened takes all batches in which no half stands alone.  A
query then looks at the lines of the records in them, and so does one to any sink with its path once
it is closed. -/
theorem lines_keep_text [Nesting] (free : sink.HoldsNothing)
    (made : s.get? name = some (.lines sink)) (opened : s.connect name = (s', .ok ()))
    {batches : List (List Document)} (whole : ∀ d ∈ batches.flatten, d.isWhole = true) :
    ∃ last closed, s'.writeAll name batches = (last, .ok ())
      ∧ (∀ f, last.query name f =
          (last, JsonLines.query f (JsonLines.bytesOf batches.flatten)))
      ∧ last.close name = (closed, .ok ())
      ∧ ∀ reader f, ((closed.bind reader (.lines { path := sink.path })).query reader f).2 =
          JsonLines.query f (JsonLines.bytesOf batches.flatten) := by
  obtain ⟨place, start⟩ := hasWritten_connect free made opened
  obtain ⟨last, all, holds⟩ := hasWritten_writeAll start whole
  obtain ⟨found, closed, shut, again⟩ := holds.holdsBack.exists_queries
  rw [List.append_nil] at again
  exact ⟨last, closed, all, found, shut, again⟩

/-- Whatever batches a sink of JSON lines is given that has been opened, a query looks at the lines
of records in them. -/
theorem lines_keep_some [Nesting] (free : sink.HoldsNothing)
    (made : s.get? name = some (.lines sink)) (opened : s.connect name = (s', .ok ()))
    (batches : List (List Document)) :
    ∃ last outcome closed, s'.writeAll name batches = (last, outcome)
      ∧ last.close name = (closed, .ok ())
      ∧ ∀ reader f found, (last.query name f).2 = .ok found
          ∨ ((closed.bind reader (.lines { path := sink.path })).query reader f).2 = .ok found →
        ∃ held, (∀ d ∈ held, d ∈ batches.flatten ∧ d.isWhole = true)
          ∧ JsonLines.query f (JsonLines.bytesOf held) = .ok found := by
  by_cases whole : ∀ d ∈ batches.flatten, d.isWhole = true
  · obtain ⟨last, closed, all, look, shut, again⟩ := lines_keep_text free made opened whole
    refine ⟨last, _, closed, all, shut, fun reader f found read =>
      ⟨batches.flatten, fun d member => ⟨member, whole d member⟩, ?_⟩⟩
    rwa [look, again, or_self] at read
  · obtain ⟨place, start⟩ := hasWritten_connect free made opened
    obtain ⟨last, stray, done, back, refused, left, known⟩ :=
      writeAll_lines_of_not_isWhole start whole
    obtain ⟨look, closed, shut, again⟩ := left.exists_queries
    refine ⟨last, _, closed, refused, shut, fun reader f found read => ?_⟩
    rw [look, again] at read
    rcases read with read | read
    · exact ⟨done, fun d member => known d (List.mem_append_left back member), read⟩
    · exact ⟨done ++ back, known, read⟩

/-- What a query gives are the records that were written. -/
theorem lines_keep_records [Nesting] (free : sink.HoldsNothing)
    (made : s.get? name = some (.lines sink)) (opened : s.connect name = (s', .ok ()))
    {batches : List (List Document)} (kept : ∀ d ∈ batches.flatten, Json.IsKept d)
    (whole : ∀ d ∈ batches.flatten, d.isWhole = true) :
    ∃ last closed, s'.writeAll name batches = (last, .ok ())
      ∧ (last.query name {}).2 = .ok batches.flatten
      ∧ (last.query name {}).1.close name = (closed, .ok ())
      ∧ ∀ reader, ((closed.bind reader (.lines { path := sink.path })).query reader {}).2 =
          .ok batches.flatten := by
  obtain ⟨last, closed, all, found, shut, again⟩ := lines_keep_text free made opened whole
  have same := JsonLines.query_bytesOf kept whole
  refine ⟨last, closed, all, ?_, ?_, fun reader => (again reader {}).trans same⟩
  · rw [found, same]
  · rw [found, shut]

end Session

end LogTemplate.Sink
