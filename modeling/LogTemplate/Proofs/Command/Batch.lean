import LogTemplate.Proofs.Command.Ending

/-!
# Parsing batch by batch

Main statement: the command that parses a file into lines of JSON writes the records of all lines
and tells how many matched, whatever the size of the batches and the number of workers.
-/

namespace LogTemplate

/-! ## Taking batches -/

section

variable {α : Type} {size : Nat}

/-- As long as items are left, a batch is taken from them. -/
theorem batches_of_ne_nil (positive : 0 < size) {items : List α} (left : items ≠ []) :
    batches size items = items.take size :: batches size (items.drop size) := by
  obtain ⟨size, rfl⟩ := Nat.exists_eq_add_one.mpr positive
  cases items with
  | nil => exact absurd rfl left
  | cons item rest =>
    rw [batches, List.take_succ_cons, List.drop_succ_cons, Nat.add_sub_cancel]

/-- Batches are taken one behind the other, and as long as items are left. -/
theorem getElem?_batches (positive : 0 < size) (items : List α) (i : Nat) :
    (batches size items)[i]? =
      if i * size < items.length then some ((items.drop (i * size)).take size) else none := by
  induction i generalizing items with
  | zero =>
    cases items with
    | nil => simp
    | cons item rest =>
      rw [batches_of_ne_nil positive (List.cons_ne_nil item rest), List.getElem?_cons_zero,
        Nat.zero_mul, if_pos (List.length_pos_of_ne_nil (List.cons_ne_nil item rest)),
        List.drop_zero]
  | succ i ih =>
    have next : (i + 1) * size = size + i * size := by rw [Nat.succ_mul, Nat.add_comm]
    by_cases left : items = []
    · simp [left]
    · rw [batches_of_ne_nil positive left, List.getElem?_cons_succ, ih, List.length_drop, next,
        List.drop_drop]
      exact if_congr (by omega) rfl rfl

end

/-! ## The records of lines -/

namespace Entry

/-- The number of an entry tells the place of its line. -/
theorem getElem?_ofLines (index : Index) (workers first : Int) (lines : List (List CodePoint))
    (i : Nat) :
    (ofLines index workers first lines)[i]? =
      lines[i]?.map fun line => ⟨first + i, Text.ofList line, index.match? line⟩ := by
  induction lines generalizing first i with
  | nil => rw [ofLines_nil, List.getElem?_nil, List.getElem?_nil, Option.map_none]
  | cons line lines ih =>
    rw [ofLines_cons]
    cases i with
    | zero =>
      have same : first + ((0 : Nat) : Int) = first := Int.add_zero first
      rw [List.getElem?_cons_zero, List.getElem?_cons_zero, Option.map_some, same]
    | succ i =>
      have next : first + 1 + (i : Int) = first + (i + 1 : Nat) := by
        push_cast
        omega
      rw [List.getElem?_cons_succ, List.getElem?_cons_succ, ih, next]

/-- No control character stands in the text of an entry, however large its number is. -/
theorem isPrinted_write_document (style : Json.Style) (plain : style.sortedKeys = false)
    (e : Entry) : Json.IsPrinted (Json.write style e.document) := by
  let last : List (Text × Document) := [("content_hash", .text e.hash)]
  have others : Json.HaveExact (e.members.tail ++ last) :=
    ⟨trivial, trivial, isExact_ofText? _, isExact_ofText? _, isExact_ofTexts _, isExact_ofTags _,
      trivial, trivial⟩
  rw [document, Json.write]
  simp only [plain, Bool.false_eq_true, if_false]
  refine Json.isPrinted_bracket (by decide) (List.forall_mem_map.mpr fun part member => ?_)
  -- The number comes first, and is the only member that need not be exact.
  rcases List.mem_cons.mp member with rfl | later
  · exact Json.isPrinted_append (Json.isPrinted_append (Json.isPrinted_writeString style _)
      (Json.isPrinted_separator (by decide))) (Json.isPrinted_int e.number)
  · exact Json.isPrinted_writeEntries style others part later

end Entry

namespace Command

/-- The records of lines: each line with its number, counted from one, and its match. -/
def recordsOf (library : Library) (lines : List (List CodePoint)) : List Document :=
  lines.mapIdx fun i line =>
    (Entry.mk (i + 1) (Text.ofList line) (library.match? line)).document

/-- Whether a record tells of a match. -/
def isMatched (record : Document) : Bool :=
  match record.get? "matched" with
  | some (.bool found) => found
  | _ => false

theorem map_document_ofLines (library : Library) (workers : Int) (lines : List (List CodePoint)) :
    (Entry.ofLines (.ofLibrary library) workers 1 lines).map Entry.document =
      recordsOf library lines := by
  refine (List.mapIdx_eq_iff.mpr fun i => ?_).symm
  rw [List.getElem?_map, Entry.getElem?_ofLines, Option.map_map, Int.add_comm]
  rfl

/-- The tally counts the records, and those that tell of a match. -/
theorem tallyOf_eq (library : Library) (workers : Int) (lines : List (List CodePoint)) :
    tallyOf (.ofLibrary library) workers lines =
      ⟨lines.length, (recordsOf library lines).countP isMatched⟩ := by
  rw [tallyOf, Tally.add, ← map_document_ofLines library workers lines, List.countP_map,
    Entry.length_ofLines, Nat.zero_add, Nat.zero_add]
  rfl

/-- The file of some records has a line for each of them. -/
theorem fileLines_text_recordsOf (library : Library) (lines : List (List CodePoint)) :
    Text.fileLines (Sink.JsonLines.text (recordsOf library lines)) =
      (recordsOf library lines).map (Json.write Json.plain) := by
  have printed : ∀ {c : CodePoint}, c.toNat < 0x20 →
      ∀ written ∈ (recordsOf library lines).map (Json.write Json.plain), c ∉ written := by
    intro c control
    rw [← map_document_ofLines library 1 lines, List.map_map]
    refine List.forall_mem_map.mpr fun e _ member => ?_
    exact Nat.not_lt.mpr (Entry.isPrinted_write_document Json.plain rfl e c member) control
  rw [Sink.JsonLines.text_eq_ended,
    Text.fileLines_ended (printed (by decide)) (printed (by decide))]

section

variable {w made : Workspace} {patternFile input : Path} {output : String}
  {loaded : Library.Loaded} {content : Content} {place : List String}
    {lines : List (List CodePoint)}

theorem forall_isWhole_recordsOf_iff {library : Library} {workers : Int} :
    (∀ record ∈ recordsOf library lines, record.isWhole = true) ↔
      ∀ e ∈ Entry.ofLines (.ofLibrary library) workers 1 lines, e.IsWhole := by
  rw [← map_document_ofLines library workers lines, Entry.forall_isWhole_document_iff]

/-- Let a pattern file load, and let the lines of another file be parsed into a third one, which can
be written and is no database.  Whatever the size of the batches and the number of workers is, if no
half stands alone in a record, the command ends well, and what it leaves in the file are lines of
JSON, one for each line of the input and in their order: the record of the line, its number and its
match.  It takes batches as long as lines are left, and logs how many lines there were, and how many
of the records tell of a match and how many do not.  If a half does stand alone in a record, the
command does not come to its end. -/
theorem batches_write_records [Nesting]
    (loads : (PatternFile.load w patternFile).value = .ok loaded)
    (isLines : Sink.isDatabasePath (.ofText output) = false)
    (parent : w.ensureParent (.ofText output) = .ok made)
    (writable : made.writable (.ofText output) = .ok place)
    (given : w.read input = .ok content) (apart : w.locate input ≠ .ok place)
    (read : InputFile.linesOf content.toBytes = lines) (settings : Settings) :
    Text.fileLines (Sink.JsonLines.text (recordsOf loaded.library lines)) =
        (recordsOf loaded.library lines).map (Json.write Json.plain)
      ∧ ∃ matched unmatched, matched = (recordsOf loaded.library lines).countP isMatched
        ∧ matched + unmatched = lines.length
        ∧ ∀ size, 0 < size →
          (∀ i, (batches size lines)[i]? =
            if i * size < lines.length then some ((lines.drop (i * size)).take size) else none)
          ∧ ∀ workers : Int,
            ((∀ record ∈ recordsOf loaded.library lines, record.isWhole = true) →
              ∃ after log,
                parseFile w patternFile input (.ofText output) (some workers) size
                    (sinkArguments settings) = ⟨(after, .ok .ok), log⟩
                ∧ log = (PatternFile.load w patternFile).lines
                  ++ ((warnOfRecords loaded.diagnostics).lines ++ [⟨.info, .program,
                    .ofString
                      (s!"Parsed {lines.length} lines from {input.text}: {matched} matched, "
                      ++ s!"{unmatched} unmatched")⟩])
                ∧ after.read (.ofText output) = .ok (.bytes (Text.Utf8.encodeText
                  (Sink.JsonLines.text (recordsOf loaded.library lines))))
                ∧ w.KeepsFilesBut place after)
            ∧ ((¬ ∀ record ∈ recordsOf loaded.library lines, record.isWhole = true) →
              ∃ after stray,
                (parseFile w patternFile input (.ofText output) (some workers) size
                  (sinkArguments settings)).value =
                    (after, .error (.parsing (.sink (.unencodable stray))))) := by
  obtain ⟨found, known⟩ := Workspace.read_eq_ok_iff.mp given
  have apart' : found ≠ place := fun same => apart (same ▸ known.leads)
  have taken : Sink.ofPath (Path.ofText output).text (sinkArguments settings) =
      .ok (.lines { path := .ofText output }) := by
    rw [← Path.ofText_text] at isLines
    rw [Sink.ofPath_lines settings isLines, Path.ofText_text]
  have few : (recordsOf loaded.library lines).countP isMatched ≤ lines.length :=
    List.countP_le_length.trans_eq List.length_mapIdx
  refine ⟨fileLines_text_recordsOf loaded.library lines, _, _, rfl, Nat.add_sub_of_le few,
    fun size positive => ⟨getElem?_batches positive lines, fun workers => ⟨fun whole => ?_,
      fun broken => ?_⟩⟩⟩
  · obtain ⟨after, done, logged, file, kept⟩ := @parseFile_of_writable place workers w made
      patternFile input output (sinkArguments settings) found content lines parent writable known
      apart' read taken _ loaded loads (forall_isWhole_recordsOf_iff.mp whole) size
    rw [tallyOf_eq] at logged
    rw [map_document_ofLines] at file
    exact ⟨after, _, congrArg₂ Logged.mk done logged, rfl,
      Workspace.read_eq_ok_iff.mpr ⟨place, file⟩, kept⟩
  · exact parseFile_of_not_isWhole parent writable known apart' read taken loads
      (mt forall_isWhole_recordsOf_iff.mpr broken) size

end

/-- Two batches for three lines, the second of which is short.  The record of a line that matches a
pattern with the name of a half is not written. -/
theorem batches_write_records_sample :
    letI := Nesting.usual
    (∃ after log,
      parseFile (filesOf sampleRecords sampleLines) (.ofText "p.json") (.ofText "x.txt")
          (.ofText "out/x.jsonl") (some 3) 2 (sinkArguments defaultSettings) =
        ⟨(after, .ok .ok), log⟩
        ∧ (batches 2 (sampleLines.map Text.toList))[1]? = some [Text.toList "\x0b\u2028"]
        ∧ (batches 2 (sampleLines.map Text.toList))[2]? = none
        ∧ after.read (.ofText "out/x.jsonl") =
          .ok (.bytes (Text.Utf8.encodeText (Sink.JsonLines.text
            (recordsOf (Library.load sampleRecords).library (sampleLines.map Text.toList))))))
      ∧ ∃ after stray,
        (parseFile (filesOf Library.halfRecords ["a"]) (.ofText "p.json") (.ofText "x.txt")
          (.ofText "out/x.jsonl") (some 3) 2 (sinkArguments defaultSettings)).value =
            (after, .error (.parsing (.sink (.unencodable stray)))) := by
  let := Nesting.usual
  have read : InputFile.linesOf (Text.Utf8.encodeText (Text.ended (sampleLines.map Text.toList))) =
      sampleLines.map Text.toList := InputFile.linesOf_ended (by decide) (by decide) (by decide)
  obtain ⟨-, matched, unmatched, -, -, every⟩ :=
    @batches_write_records (filesOf sampleRecords sampleLines)
      ((filesOf sampleRecords sampleLines).setNode ["", "out"] .directory)
      (.ofText "p.json") (.ofText "x.txt") "out/x.jsonl" _ _ ["", "out", "x.jsonl"] _ .usual
      (load_sampleRecords sampleLines) (by decide) rfl rfl rfl (by decide +kernel) read
      defaultSettings
  obtain ⟨taken, parsed⟩ := every 2 (by decide)
  obtain ⟨after, log, done, -, written, -⟩ :=
    (parsed 3).1 (forall_isWhole_recordsOf_iff.mpr isWhole_sample)
  refine ⟨⟨after, log, done, taken 1, taken 2, written⟩, ?_⟩
  have read : InputFile.linesOf (Text.Utf8.encodeText (Text.ended [Text.toList "a"])) =
      [Text.toList "a"] := InputFile.linesOf_ended (by decide) (by decide) (by decide)
  obtain ⟨-, matched, unmatched, -, -, every⟩ :=
    @batches_write_records (filesOf Library.halfRecords ["a"])
      ((filesOf Library.halfRecords ["a"]).setNode ["", "out"] .directory)
      (.ofText "p.json") (.ofText "x.txt") "out/x.jsonl" _ _ ["", "out", "x.jsonl"] _ .usual
      (load_halfRecords ["a"]) (by decide) rfl rfl rfl (by decide +kernel) read defaultSettings
  exact ((every 2 (by decide)).2 3).2 (mt forall_isWhole_recordsOf_iff.mp not_isWhole_half)

/-- Batches of two lines are not written either if there is such a line. -/
theorem batches_half_unencodable :
    letI := Nesting.usual
    ∃ after stray, (parseFile (filesOf Library.halfRecords ["a"]) (.ofText "p.json")
      (.ofText "x.txt") (.ofText "out/x.jsonl") (some 3) 2 (sinkArguments defaultSettings)).value =
        (after, .error (.parsing (.sink (.unencodable stray)))) :=
  parseFile_half 2 (Sink.ofPath_lines defaultSettings (by decide))

end Command

end LogTemplate
