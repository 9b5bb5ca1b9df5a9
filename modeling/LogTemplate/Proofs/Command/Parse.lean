import LogTemplate.Command.Parse
import LogTemplate.Proofs.InputFile
import LogTemplate.Proofs.Path
import LogTemplate.Proofs.Sink.EntryRow
import LogTemplate.Proofs.Sink.Lines

/-!
# Parsing a file into lines of JSON

Main statement: the command ends well, and the records that it leaves behind are those of the lines
of the file, numbered from one, however the lines are cut into batches and whoever matches them,
unless a half stands alone in one of the records: then it does not come to its end.
-/

namespace LogTemplate

namespace PatternFile

/-- What a pattern file gives depends on nothing but what the file holds. -/
theorem load_congr [Nesting] {v w : Workspace} {p : Path} (same : v.read p = w.read p) :
    load v p = load w p := by
  have bytes : readBytes v p = readBytes w p := by rw [readBytes, readBytes, same]
  have text : readText v p = readText w p := by rw [readText, readText, bytes]
  have format : formatOf v p = formatOf w p := by
    funext count
    rw [formatOf, formatOf, bytes]
  have read : PatternFile.read v p = PatternFile.read w p := by
    simp only [PatternFile.read, format, readAs, text]
  rw [load, load, read]

end PatternFile

/-- The sink for a path that is not taken for a database's. -/
theorem Sink.ofPath_eq_lines {text : String} (isLines : isDatabasePath (.ofText text) = false) :
    ofPath text (.mapping []) = .ok (.lines { path := .ofText text }) := by
  unfold ofPath
  split
  · rename_i given
    cases given
  · rw [if_neg (by rw [isLines]; exact Bool.false_ne_true)]
    exact rfl

namespace Sink.Session

variable {s s' : Session} {name : String} {sink : LineSink} {place : List String}
  {records : List Document}

/-- What a handle writes leaves all files but its own as they are. -/
theorem keepsFilesBut_flush {w : Workspace} {handle : Handle}
    (file : w.node? handle.place ≠ some .directory) :
    w.KeepsFilesBut handle.place (handle.flush w) := by
  unfold Handle.flush
  split
  · exact .refl w _
  · exact Workspace.keepsFilesBut_write file _

/-- What a sink of lines writes leaves all files but its own as they are. -/
theorem keepsFilesBut_write {batch : List Document}
    (before : s.HasWritten name sink place records) (whole : ∀ d ∈ batch, d.isWhole = true)
    (written : s.write name batch = (s', .ok ())) :
    s.workspace.KeepsFilesBut place s'.workspace := by
  have file : s.workspace.node? place ≠ some .directory := by simp [before.holds]
  rw [write, before.bound] at written
  simp only [writeLines, JsonLines.encode_of_isWhole whole] at written
  obtain ⟨rfl, -⟩ := Prod.mk.inj written
  exact @keepsFilesBut_flush s.workspace (Handle.hold { place, offset := _ } _) file

end Sink.Session

namespace Command

open Sink (LineSink Session)

theorem Tally.add_nil (tally : Tally) : tally.add [] = tally := rfl

/-- Entries that are counted in two parts are counted once each. -/
theorem Tally.add_append (tally : Tally) (entries others : List Entry) :
    tally.add (entries ++ others) = (tally.add entries).add others := by
  rw [Tally.add, Tally.add, Tally.add, List.length_append, List.countP_append, Nat.add_assoc,
    Nat.add_assoc]

variable {s : Session} {sink : LineSink} {place : List String} {index : Index} {workers : Int}

/-- The lines that are counted are those that come before the ones of the next batch. -/
theorem ofLines_tally_add (tally : Tally) (batch rest : List (List CodePoint)) :
    Entry.ofLines index workers
        (((tally.add (Entry.ofLines index workers (tally.total + 1) batch)).total : Int) + 1) rest =
      Entry.ofLines index workers (tally.total + 1 + batch.length) rest := by
  have further : ((tally.add (Entry.ofLines index workers (tally.total + 1) batch)).total : Int) + 1
      = tally.total + 1 + batch.length := by
    rw [Tally.add, Entry.length_ofLines]
    push_cast
    omega
  rw [further]

/-- The batches of a list of lines are written one behind the other, and their lines are counted and
numbered on from batch to batch. -/
theorem writeBatches_of_hasWritten {records : List Document} {tally : Tally}
    (before : s.HasWritten sinkName sink place records) (all : List (List (List CodePoint)))
    (whole : ∀ e ∈ Entry.ofLines index workers (tally.total + 1) all.flatten, e.IsWhole) :
    ∃ s', writeBatches index workers s tally all =
        (s', .ok (tally.add (Entry.ofLines index workers (tally.total + 1) all.flatten)))
      ∧ s'.HasWritten sinkName sink place
        (records ++ (Entry.ofLines index workers (tally.total + 1) all.flatten).map Entry.document)
      ∧ s.workspace.KeepsFilesBut place s'.workspace := by
  induction all generalizing s records tally with
  | nil =>
    rw [List.flatten_nil, Entry.ofLines_nil, List.map_nil, List.append_nil, Tally.add_nil]
    exact ⟨s, rfl, before, .refl s.workspace place⟩
  | cons batch rest ih =>
    let entries := Entry.ofLines index workers (tally.total + 1) batch
    rw [List.flatten_cons, Entry.ofLines_append, List.forall_mem_append] at whole
    have documents := Entry.forall_isWhole_document_iff.mpr whole.1
    obtain ⟨next, written, holds⟩ := Session.hasWritten_write before documents
    obtain ⟨s', others, holds', kept⟩ := @ih next _ (tally.add entries) holds
      (by rw [ofLines_tally_add]; exact whole.2)
    rw [ofLines_tally_add, ← Tally.add_append, ← Entry.ofLines_append] at others
    rw [ofLines_tally_add, List.append_assoc, ← List.map_append, ← Entry.ofLines_append] at holds'
    refine ⟨s', ?_, holds', (Session.keepsFilesBut_write before documents written).trans kept⟩
    rw [writeBatches, written]
    exact others

/-- Writing batches stops at the first one in which a half stands alone. -/
theorem writeBatches_of_not_isWhole {records : List Document} {tally : Tally}
    (before : s.HasWritten sinkName sink place records) (all : List (List (List CodePoint)))
    (broken : ¬ ∀ e ∈ Entry.ofLines index workers (tally.total + 1) all.flatten, e.IsWhole) :
    ∃ s' stray, writeBatches index workers s tally all = (s', .error (.unencodable stray)) := by
  induction all generalizing s records tally with
  | nil => exact absurd (by simp [Entry.ofLines_nil]) broken
  | cons batch rest ih =>
    let entries := Entry.ofLines index workers (tally.total + 1) batch
    rw [List.flatten_cons, Entry.ofLines_append, List.forall_mem_append] at broken
    by_cases whole : ∀ e ∈ entries, e.IsWhole
    · obtain ⟨next, written, holds⟩ :=
        Session.hasWritten_write before (Entry.forall_isWhole_document_iff.mpr whole)
      obtain ⟨s', stray, stopped⟩ := @ih next _ (tally.add entries) holds
        (by rw [ofLines_tally_add]; exact fun others => broken ⟨whole, others⟩)
      exact ⟨s', stray, by rw [writeBatches, written]; exact stopped⟩
    · obtain ⟨s', stray, refused, -⟩ :=
        Session.write_lines_of_not_isWhole before (mt Entry.forall_isWhole_document_iff.mp whole)
      exact ⟨s', stray, by rw [writeBatches, refused]⟩

/-- What is counted when some lines have been parsed. -/
def tallyOf (index : Index) (workers : Int) (lines : List (List CodePoint)) : Tally :=
  ({} : Tally).add (Entry.ofLines index workers 1 lines)

/-- The lines of a file are parsed into a sink that is open, and nothing is logged. -/
theorem parseInto_of_hasWritten {input : Path} {lines : List (List CodePoint)} {size : Nat}
    (start : s.HasWritten sinkName sink place [])
    (given : InputFile.lines s.workspace input = .ok lines)
    (whole : ∀ e ∈ Entry.ofLines index workers 1 lines, e.IsWhole) :
    ∃ s', parseInto s index (some workers) input size =
        pure (s', .ok (tallyOf index workers lines))
      ∧ s'.HasWritten sinkName sink place
        ((Entry.ofLines index workers 1 lines).map Entry.document)
      ∧ s.workspace.KeepsFilesBut place s'.workspace := by
  rw [parseInto, InputFile.linesLogged_of_ok given, tallyOf]
  cases lines with
  | nil =>
    rw [Entry.ofLines_nil, Tally.add_nil, List.map_nil]
    exact ⟨s, rfl, start, .refl s.workspace place⟩
  | cons line lines =>
    obtain ⟨s', all, holds, kept⟩ := @writeBatches_of_hasWritten s sink place index workers
      [] {} start (batches size (line :: lines)) (by rw [flatten_batches]; exact whole)
    rw [flatten_batches] at all holds
    refine ⟨s', ?_, holds, kept⟩
    show pure _ = _
    rw [all]
    rfl

/-- Parsing into a sink that is open fails if a half stands alone in an entry. -/
theorem parseInto_of_not_isWhole {input : Path} {lines : List (List CodePoint)} {size : Nat}
    (start : s.HasWritten sinkName sink place [])
    (given : InputFile.lines s.workspace input = .ok lines)
    (broken : ¬ ∀ e ∈ Entry.ofLines index workers 1 lines, e.IsWhole) :
    ∃ s' stray, parseInto s index (some workers) input size =
      pure (s', .error (.sink (.unencodable stray))) := by
  rw [parseInto, InputFile.linesLogged_of_ok given]
  cases lines with
  | nil => exact absurd (by simp [Entry.ofLines_nil]) broken
  | cons line lines =>
    obtain ⟨s', stray, stopped⟩ := @writeBatches_of_not_isWhole s sink place index workers
      [] {} start (batches size (line :: lines)) (by rw [flatten_batches]; exact broken)
    refine ⟨s', stray, ?_⟩
    show pure _ = _
    rw [stopped]
    rfl

section

variable {w made : Workspace} {patternFile input : Path} {output : String} {arguments : Document}
  {found : List String} {content : Content} {lines : List (List CodePoint)}
  (parent : w.ensureParent (.ofText output) = .ok made)
  (writable : made.writable (.ofText output) = .ok place)
  (given : w.HasFile input found content) (apart : found ≠ place)
  (read : InputFile.linesOf content.toBytes = lines)

include parent writable given apart read

/-- The output is made or emptied before the lines are read. -/
theorem exists_connect_of_writable :
    ∃ s, (Session.bind { workspace := w } sinkName (.lines { path := .ofText output })).connect
        sinkName = (s, .ok ())
      ∧ s.HasWritten sinkName { path := .ofText output } place []
      ∧ w.KeepsFilesBut place s.workspace ∧ InputFile.lines s.workspace input = .ok lines := by
  obtain ⟨s, opened, holds, files⟩ := @Session.hasWritten_openLines
    (Session.bind { workspace := w } sinkName (.lines { path := .ofText output })) sinkName
    { path := .ofText output } place made (Sink.LineSink.holdsNothing_new _) parent writable
  have file := (Workspace.leads_of_writable writable).2
  have kept : w.KeepsFilesBut place s.workspace := by
    rw [files]
    exact (Workspace.keepsFilesBut_ensureParent parent place).trans
      (Workspace.keepsFilesBut_write file _)
  refine ⟨s, ?_, holds, kept, ?_⟩
  · rw [Session.connect, Session.get?_bind_self]
    exact opened
  · rw [InputFile.lines,
      Workspace.read_eq_ok_iff.mpr ⟨found, kept input found content apart given⟩, ← read]

variable (taken : Sink.ofPath (Path.ofText output).text arguments =
  .ok (.lines { path := .ofText output }))

include taken

/-- The lines of a file are parsed into another file of lines. -/
theorem parseThrough_of_writable (whole : ∀ e ∈ Entry.ofLines index workers 1 lines, e.IsWhole)
    (size : Nat) :
    ∃ after,
      parseThrough w index (some workers) input (.ofText output) size arguments =
        pure (after, .ok (tallyOf index workers lines))
        ∧ after.HasFile (.ofText output) place (.bytes
          (Sink.JsonLines.bytesOf ((Entry.ofLines index workers 1 lines).map Entry.document)))
        ∧ w.KeepsFilesBut place after := by
  obtain ⟨s, connected, holds, kept, still⟩ :=
    exists_connect_of_writable parent writable given apart read
  obtain ⟨s', done, holds', kept'⟩ := @parseInto_of_hasWritten s _ place index workers
    input lines size holds still whole
  obtain ⟨closed, shut, same⟩ := holds'.exists_close
  refine ⟨closed.workspace, ?_, ?_, ?_⟩
  · -- Not by its equation, which takes Lean too long to make.
    unfold parseThrough
    simp only [taken, connected, done]
    show pure ((s'.close sinkName).1.workspace, _) = _
    rw [shut]
  · rw [same]
    exact ⟨holds'.leads, holds'.holds⟩
  · rw [same]
    exact kept.trans kept'

/-- Parsing into a file of lines fails if a half stands alone in an entry. -/
theorem parseThrough_of_not_isWhole
    (broken : ¬ ∀ e ∈ Entry.ofLines index workers 1 lines, e.IsWhole) (size : Nat) :
    ∃ after stray, parseThrough w index (some workers) input (.ofText output) size arguments =
      pure (after, .error (.sink (.unencodable stray))) := by
  obtain ⟨s, connected, holds, -, still⟩ :=
    exists_connect_of_writable parent writable given apart read
  obtain ⟨s', stray, stopped⟩ := @parseInto_of_not_isWhole s _ place index workers
    input lines size holds still broken
  refine ⟨(s'.close sinkName).1.workspace, stray, ?_⟩
  unfold parseThrough
  simp only [taken, connected, stopped]
  rfl

/-- The command parses a file into another file of lines and ends well.  Of the parsing itself
nothing but the tally is logged. -/
theorem parseFile_of_writable [Nesting] {loaded : Library.Loaded}
    (loads : (PatternFile.load w patternFile).value = .ok loaded)
    (whole : ∀ e ∈ Entry.ofLines (.ofLibrary loaded.library) workers 1 lines, e.IsWhole)
    (size : Nat) :
    ∃ after,
      (parseFile w patternFile input (.ofText output) (some workers) size arguments).value =
          (after, .ok .ok)
        ∧ (parseFile w patternFile input (.ofText output) (some workers) size arguments).lines =
          (PatternFile.load w patternFile).lines ++ ((warnOfRecords loaded.diagnostics).lines
            ++ [⟨.info, .program,
              (tallyOf (.ofLibrary loaded.library) workers lines).text input⟩])
        ∧ after.HasFile (.ofText output) place (.bytes (Sink.JsonLines.bytesOf
          ((Entry.ofLines (.ofLibrary loaded.library) workers 1 lines).map Entry.document)))
        ∧ w.KeepsFilesBut place after := by
  obtain ⟨after, done, file, kept⟩ := @parseThrough_of_writable place
    (.ofLibrary loaded.library) workers w made input output arguments found content lines parent
    writable given apart read taken whole size
  refine ⟨after, ?_, ?_, file, kept⟩
  · rw [parseFile, Logged.value_bind, loads]
    dsimp only
    rw [Logged.value_bind, done]
    rfl
  · rw [parseFile, Logged.lines_bind, loads]
    dsimp only
    rw [Logged.lines_bind, done]
    rfl

/-- The command does not come to its end if a half stands alone in an entry. -/
theorem parseFile_of_not_isWhole [Nesting] {loaded : Library.Loaded}
    (loads : (PatternFile.load w patternFile).value = .ok loaded)
    (broken : ¬ ∀ e ∈ Entry.ofLines (.ofLibrary loaded.library) workers 1 lines, e.IsWhole)
    (size : Nat) :
    ∃ after stray,
      (parseFile w patternFile input (.ofText output) (some workers) size arguments).value =
        (after, .error (.parsing (.sink (.unencodable stray)))) := by
  obtain ⟨after, stray, stopped⟩ := @parseThrough_of_not_isWhole place
    (.ofLibrary loaded.library) workers w made input output arguments found content lines parent
    writable given apart read taken broken size
  refine ⟨after, stray, ?_⟩
  rw [parseFile, Logged.value_bind, loads]
  dsimp only
  rw [Logged.value_bind, stopped]
  rfl

end

/-- The sink is made from the written form of the path of the output, which is read once more. -/
theorem ofPath_written {output : String} (isLines : Sink.isDatabasePath (.ofText output) = false) :
    Sink.ofPath (Path.ofText output).text (.mapping []) =
      .ok (.lines { path := .ofText output }) := by
  rw [← Path.ofText_text] at isLines
  rw [Sink.ofPath_eq_lines isLines, Path.ofText_text]

end Command

end LogTemplate
