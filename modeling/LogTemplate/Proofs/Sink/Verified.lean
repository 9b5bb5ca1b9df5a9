import LogTemplate.Proofs.Sink.EntryRow
import LogTemplate.Proofs.Sink.Lines
import LogTemplate.Proofs.Sink.Run
import LogTemplate.Proofs.Sink.Sound

/-!
# Hashes of records that are read back

Main statement: the text that is hashed for an entry tells its number, its line, its UUID and its
values from those of others and covers nothing else, and the hash of a record that is read back from
a sink is the one that is computed from the record.
-/

namespace LogTemplate

/-- The hash of a record is the one that is computed from the other members. -/
def Document.IsVerified (record : Document) : Prop :=
  record.get? "content_hash" = some (.text (Entry.hashOf record))

/-- A record that is written for an entry with a number of 64 bits, in whose line and values no half
stands alone. -/
def Document.IsOfEntry (record : Document) : Prop :=
  ∃ e : Entry, Sink.fits e.number = true ∧ e.IsHashable ∧ record = e.document

theorem Entry.isVerified_document (e : Entry) : e.document.IsVerified := rfl

/-- The tags have no part in the hash. -/
theorem Entry.isVerified_documentWith (e : Entry) (tags : Document) :
    (e.documentWith tags).IsVerified := by
  have same : hashOf (e.documentWith tags) = hashOf e.document := by
    rw [document_eq_documentWith]
    rfl
  rw [Document.IsVerified, same, ← Option.some.inj e.isVerified_document]
  rfl

theorem Document.IsOfEntry.isVerified {record : Document} (built : record.IsOfEntry) :
    record.IsVerified := by
  obtain ⟨e, -, -, rfl⟩ := built
  exact e.isVerified_document

theorem Document.IsOfEntry.isKept [Nesting] {record : Document} (built : record.IsOfEntry) :
    Json.IsKept record := by
  obtain ⟨e, fits, -, rfl⟩ := built
  exact Entry.isKept_document fits

namespace Sink

/-- What is read from the lines of entries can be verified, whatever is asked for. -/
theorem JsonLines.isVerified_of_query [Nesting] {records found : List Document} {f : Filter}
    (built : ∀ record ∈ records, record.IsOfEntry) (whole : ∀ d ∈ records, d.isWhole = true)
    (read : query f (bytesOf records) = .ok found) :
    ∀ record ∈ found, record.IsVerified := by
  have all := query_bytesOf (fun record member => (built record member).isKept) whole
  exact fun record member => (built record ((sublist_of_query all read).subset member)).isVerified

/-- What is made of the row of an entry can be verified. -/
theorem isVerified_of_recordOf [Nesting] {d record : Document} (built : d.IsOfEntry)
    (read : recordOf (storedCells d) = .ok (some record)) : record.IsVerified := by
  obtain ⟨e, fits, whole, rfl⟩ := built
  by_cases bound : IsBound e.document
  · have bindable := isBindable_of_isBound whole bound
    rw [storedCells_document fits bindable, recordOf_entryCells_eq bindable] at read
    obtain ⟨tags, -, same⟩ := map_eq_ok_iff.mp read
    obtain rfl := Option.some.inj same
    exact e.inOrder.isVerified_documentWith tags
  · rw [storedCells_eq_nil bound] at read
    cases read

/-- What is read from a table that sinks have made of entries can be verified. -/
theorem Database.IsWithin.isVerified_of_recordsIn [Nesting] {d : Database}
    {records found : List Document} {table : String} {wanted : Wanted}
    (within : d.IsWithin (records.map cellsOf)) (built : ∀ record ∈ records, record.IsOfEntry)
    (read : Session.recordsIn d table wanted = .ok found) :
    ∀ record ∈ found, record.IsVerified := by
  intro record member
  obtain ⟨t, known, row, stands, same⟩ := exists_row_of_recordsIn within.made read record member
  have cells := within.rows t known row stands
  rw [List.map_map] at cells
  obtain ⟨own, inside, cells⟩ := List.mem_map.mp cells
  rw [← cells] at same
  exact isVerified_of_recordOf (built own inside) same

namespace Session

/-- The text that is hashed for an entry is that of another one exactly if their numbers, lines,
UUIDs and values are the same, whatever their names and tags and the order of the values, if no half
stands alone in lines and values.  So, as long as no two texts have the same hash, entries with
different numbers have different hashes.  And the hash of a record is found again when it is
computed from what is read back, from a file of lines by whatever sink has its path, also where a
sink has not taken all records, and from a table whatever was done with sinks there. -/
theorem hash_identifies_entry [Nesting] :
    (∀ e : Entry, e.document.get? "content_hash" =
      some (.text (Sha256.hex (Text.Utf8.encodeText e.hashText))))
    ∧ (∀ e f : Entry, fits e.number = true → e.IsHashable → fits f.number = true → f.IsHashable →
      (e.hashText = f.hashText ↔ e.number = f.number ∧ e.line = f.line ∧ e.uuid? = f.uuid?
        ∧ e.values.agrees f.values = true)
      ∧ ((e.hash = f.hash → e.hashText = f.hashText) → e.number ≠ f.number → e.hash ≠ f.hash))
    ∧ (∀ (s s' : Session) name sink (batches : List (List Document)), sink.HoldsNothing →
      s.get? name = some (.lines sink) → s.connect name = (s', .ok ()) →
      (∀ record ∈ batches.flatten, record.IsOfEntry) →
      ∃ last outcome closed, s'.writeAll name batches = (last, outcome)
        ∧ ((∀ record ∈ batches.flatten, record.isWhole = true) →
          outcome = .ok () ∧ (last.query name {}).2 = .ok batches.flatten)
        ∧ last.close name = (closed, .ok ())
        ∧ ∀ reader f found, (last.query name f).2 = .ok found
            ∨ ((closed.bind reader (.lines { path := sink.path })).query reader f).2 = .ok found →
          ∀ record ∈ found, record.IsVerified)
    ∧ ∀ (w : Workspace) place (steps : List Step), HoldsDatabase w place {} →
      (∀ step ∈ steps, step.LeadsTo w.home place) →
      (∀ record ∈ steps.flatMap Step.records, record.IsOfEntry) →
      ∀ name f found, ((takeAll { workspace := w } steps).query name f).2 = .ok found →
        ∀ record ∈ found, record.IsVerified := by
  refine ⟨fun _ => rfl, fun e f fits whole fits' whole' =>
    ⟨Entry.hashText_eq_iff fits whole fits' whole', Entry.hash_ne fits whole fits' whole'⟩, ?_, ?_⟩
  · intro s s' name sink batches free made opened built
    obtain ⟨last, outcome, closed, all, shut, held⟩ := lines_keep_some free made opened batches
    refine ⟨last, outcome, closed, all, fun whole => ?_, shut, fun reader f found read => ?_⟩
    · obtain ⟨last, _, all', found, -⟩ := lines_keep_records free made opened
        (fun record member => (built record member).isKept) whole
      cases all.symm.trans all'
      exact ⟨rfl, found⟩
    · obtain ⟨records, known, read⟩ := held reader f found read
      exact JsonLines.isVerified_of_query
        (fun record member => built record (known record member).1)
        (fun record member => (known record member).2) read
  · intro w place steps new leads built name f found read
    have sound := isSound_takeAll (isSound_new new) leads
    rw [List.nil_append] at sound
    obtain ⟨d, table, wanted, within, read⟩ := sound.exists_of_query read
    exact within.isVerified_of_recordsIn built read

/-- What a line becomes that two patterns may match, which differ in their names and tags. -/
def pairEntry (name : String) (tags : TagSet) (values : OrderedMap Text) : Entry :=
  ⟨1, "a b", some ⟨⟨7, by decide⟩, name, values, tags⟩⟩

/-- Neither the name nor the tags nor the order of values counts for the hash of an entry, which is
found in the record that is read back. -/
theorem hash_identifies_entry_pair :
    letI := Nesting.usual
    (pairEntry "pair" {} (.ofList [("x", "a"), ("y", "b")])).hashText =
        (pairEntry "two" (.ofList ["z"]) (.ofList [("y", "b"), ("x", "a")])).hashText
      ∧ (∃ s' last, (Session.bind {} "a" (.lines { path := .ofText "x.jsonl" })).connect "a" =
          (s', .ok ())
        ∧ s'.writeAll "a" [[(pairEntry "pair" {} {}).document]] = (last, .ok ())
        ∧ (last.query "a" {}).2 = .ok [(pairEntry "pair" {} {}).document]
        ∧ (pairEntry "pair" {} {}).document.IsVerified)
      ∧ ∀ found, ((takeAll {} [.open "a" newSink,
          .write "a" [(pairEntry "pair" {} {}).document]]).query "a" {}).2 = .ok found →
        ∀ record ∈ found, record.IsVerified := by
  let := Nesting.usual
  obtain ⟨-, texts, lines, tables⟩ := hash_identifies_entry
  have line : Text.isWhole (Text.toList "a b") = true := rfl
  have whole : (pairEntry "pair" {} {}).IsWhole :=
    ⟨⟨⟨line, List.forall_mem_nil _⟩, fun _ has => Option.some.inj has ▸ rfl⟩, List.forall_mem_nil _⟩
  have built : (pairEntry "pair" {} {}).document.IsOfEntry := ⟨_, rfl, whole.toIsHashable, rfl⟩
  have opened := eq_of_isOk (x := (Session.bind {} "a"
    (.lines { path := .ofText "x.jsonl" })).connect "a") (by decide +kernel)
  obtain ⟨last, outcome, closed, all, taken, -, verified⟩ := lines _ _ "a" _
    [[(pairEntry "pair" {} {}).document]] (LineSink.holdsNothing_new _) get?_bind_self opened
    (by simpa using built)
  obtain ⟨rfl, found⟩ := taken (by simpa using Entry.isWhole_document_iff.mpr whole)
  refine ⟨(texts _ _ rfl ⟨line, by decide⟩ rfl ⟨line, by decide⟩).1.mpr ⟨rfl, rfl, rfl, by decide⟩,
    ⟨_, last, opened, all, found, verified "b" {} _ (.inl found) _ (by simp)⟩, ?_⟩
  refine tables {} ["", "x.db"] _ holdsDatabase_new ?_ (by simpa [Step.records] using built) "a" {}
  simp only [List.forall_mem_cons]
  exact ⟨leadsTo_newSink, trivial, by simp⟩

end Session

end Sink

end LogTemplate
