import LogTemplate.Proofs.Command.Parse
import LogTemplate.Proofs.Json.RoundTrip
import LogTemplate.Proofs.Library.Live
import LogTemplate.Proofs.Service.Request

/-!
# The command and the service

The service answers a list of lines with the records of their entries, numbered from one, whoever
matches them.  Main statement: the command that parses a file writes the records that the service
answers for the lines of the file, if both have loaded the same pattern file.
-/

namespace LogTemplate

namespace Json

/-- A text that starts with two characters of ASCII is read from its bytes. -/
theorem decode?_encode {c c' : Char} {rest : List Char} (first : 0 < c.toNat ∧ c.toNat < 0x80)
    (second : 0 < c'.toNat ∧ c'.toNat < 0x80) :
    decode? (Text.Utf8.encode (c :: c' :: rest)) = some ((c :: c' :: rest).map .char) := by
  obtain ⟨b, one, notZero, small⟩ := Text.Utf8.exists_byte_of_ascii first
  obtain ⟨b', one', notZero', -⟩ := Text.Utf8.exists_byte_of_ascii second
  have bytes : Text.Utf8.encode (c :: c' :: rest) = b :: b' :: Text.Utf8.encode rest := by
    simp [Text.Utf8.encode, one, one']
  have high : ∀ {m : UInt8}, 0x80 ≤ m.toNat → m ≠ b := by
    rintro m large rfl
    omega
  have unmarked : Encoding.marks.find? (·.1.isPrefixOf (b :: b' :: Text.Utf8.encode rest)) =
      none := by
    simp [Encoding.marks, List.isPrefixOf, notZero.symm, high]
  have zeros : Encoding.ofZeros (b :: b' :: Text.Utf8.encode rest) = .utf8 := by
    unfold Encoding.ofZeros
    split <;> simp_all
  rw [← bytes] at unmarked zeros
  simp only [decode?, decode, unmarked, Option.getD_none, zeros, List.length_nil, List.drop_zero,
    Text.Utf8.decodeText, Text.Utf8.decode_encode]
  rfl

end Json

namespace Service

/-- The text that a client sends for some lines, if no half stands alone in them. -/
def bodyOf (lines : List Text) : String :=
  (Json.writeText Json.plain (.mapping [("lines", .list (lines.map .text))])).string?.getD ""

theorem exists_write_bodyOf (d : Document) :
    ∃ rest, Json.write Json.plain (.mapping [("lines", d)]) = .char '\x7b' :: .char '"' :: rest :=
  ⟨_, rfl⟩

/-- The body for some lines is read as a document that holds them. -/
theorem documentOf_bodyOf [Nesting] {lines : List Text}
    (whole : ∀ line ∈ lines, Text.isWhole line.toList = true) :
    documentOf (some (bodyOf lines)) = .ok (.mapping [("lines", .list (lines.map .text))]) := by
  have texts : Json.IsExact (.list (lines.map .text)) := by
    refine Json.areExact_iff.mpr fun d member => ?_
    obtain ⟨_, -, rfl⟩ := List.mem_map.mp member
    trivial
  have nested : Json.depth (.mapping [("lines", .list (lines.map .text))]) =
      max (Json.depth (.list (lines.map .text))) 0 + 1 := rfl
  have kept : Json.IsKept (.mapping [("lines", .list (lines.map .text))]) := by
    refine ⟨⟨List.nodup_singleton _, texts, trivial⟩, ?_⟩
    rw [nested, Json.depth_texts]
    exact Nesting.two_le_json
  have found : Document.isWhole (.mapping [("lines", .list (lines.map .text))]) = true := by
    have key : Text.isWhole (Text.toList "lines") = true := Text.isWhole_map_char _
    rw [Json.isWhole_mapping, List.all_cons, List.all_nil, key, Json.isWhole_list, List.all_map,
      Bool.and_true, Bool.true_and, List.all_eq_true]
    exact fun line member => (Bool.and_true _).trans (whole line member)
  obtain ⟨body, same⟩ := Text.exists_string_of_isWhole
    (Sink.isWhole_writeText Json.plain (.inr found))
  have written : Json.write Json.plain (.mapping [("lines", .list (lines.map .text))]) =
      body.toList.map .char := congrArg Text.toList same
  have read := @Json.read_write _ Json.plain _ kept (Sink.JsonLines.keeps_plain _) []
    (List.forall_mem_nil _)
  rw [List.append_nil, written] at read
  obtain ⟨rest, text⟩ := exists_write_bodyOf (.list (lines.map .text))
  obtain ⟨first, tail, start, brace, others⟩ := List.map_eq_cons_iff.mp (written.symm.trans text)
  obtain ⟨second, more, rfl, quote, -⟩ := List.map_eq_cons_iff.mp others
  cases brace
  cases quote
  rw [bodyOf, same, Text.string?_ofString, documentOf, Option.getD_some, Option.getD_some, start,
    Json.decode?_encode (by decide) (by decide), ← start]
  simp only [read]
  rfl

theorem mapM_text? (texts : List Text) : (texts.map Document.text).mapM Document.text? =
    some texts := by
  induction texts with
  | nil => rfl
  | cons text texts ih =>
    rw [List.map_cons, List.mapM_cons, ih]
    rfl

/-- A list of texts, not too long, is taken for lines. -/
theorem linesOf_of_texts {d : Document} {lines : List Text}
    (given : d.get? "lines" = some (.list (lines.map .text))) (few : lines.length ≤ lineLimit) :
    linesOf d = .ok (lines.map Text.toList) := by
  rw [linesOf, given]
  simp only [mapM_text?, if_pos few]

variable {live : LiveLibrary} {w : Workspace} {workers : Int} {body : Option String} {d : Document}
  {lines : List Text}

theorem parse_of_texts [Nesting] {s : Snapshot} (read : documentOf body = .ok d)
    (given : d.get? "lines" = some (.list (lines.map .text))) (few : lines.length ≤ lineLimit) :
    parse s workers body = Response.sent (.list ((Entry.ofLines s.index workers 1
      (lines.map Text.toList)).map Entry.document)) := by
  simp only [parse, read, linesOf_of_texts given few]

/-- The answer to some lines holds the records of their entries, if it can be sent. -/
theorem answer_parse [Nesting] (read : documentOf body = .ok d)
    (given : d.get? "lines" = some (.list (lines.map .text))) (few : lines.length ≤ lineLimit) :
    (answer live w workers ⟨"POST", "/parse", body⟩).value =
      (live, Response.sent (.list ((Entry.ofLines live.current.index workers 1
        (lines.map Text.toList)).map Entry.document))) := by
  have asks := Request.asks_path .parse body
  rw [show (⟨"POST", "/parse", body⟩ : Request) = ⟨Route.parse.method, Route.parse.path, body⟩
    from rfl, answer_of_asks asks, respond, parse_of_texts read given few]
  rfl

/-- Once the service has loaded a pattern file, its answer to some lines holds the records that the
library in the file makes of them. -/
theorem answer_parse_of_load [Nesting] {patternFile : Path} {v : Workspace}
    {loaded : Library.Loaded} (loads : (PatternFile.load w patternFile).value = .ok loaded)
    (few : lines.length ≤ lineLimit) (path : live.path = some patternFile)
    (same : v.read patternFile = w.read patternFile) :
    (live.reload v).value.2 = .ok ()
      ∧ ∀ files others body d, documentOf body = .ok d →
        d.get? "lines" = some (.list (lines.map .text)) →
        (answer (live.reload v).value.1 files others ⟨"POST", "/parse", body⟩).value.2 =
          Response.sent (.list ((Entry.ofLines (.ofLibrary loaded.library) workers 1
            (lines.map Text.toList)).map Entry.document)) := by
  have found : LiveLibrary.loaded? live.path v = some loaded := by
    rw [path, LiveLibrary.loaded?, Option.bind_some, PatternFile.load_congr same, loads]
    rfl
  rw [LiveLibrary.reload_of_loaded? found]
  refine ⟨rfl, fun files others body d sent given => ?_⟩
  rw [answer_parse sent given few]
  -- Both number the lines from one; only the workers differ.
  have agree := Entry.ofLines_eq_of_workers (.ofLibrary loaded.library) others workers 1
    (lines.map Text.toList)
  exact congrArg (fun es => Response.sent (.list (es.map Entry.document))) agree

theorem isWhole_list_document_iff {entries : List Entry} :
    (Document.list (entries.map Entry.document)).isWhole = true ↔ ∀ e ∈ entries, e.IsWhole := by
  rw [Json.isWhole_list, List.all_eq_true]
  exact Entry.forall_isWhole_document_iff

end Service

/-! ## The same lines in a file -/

/-- A pattern file that gives a library can be read. -/
theorem PatternFile.exists_hasFile_of_load [Nesting] {w : Workspace} {p : Path}
    {loaded : Library.Loaded} (loads : (load w p).value = .ok loaded) :
    ∃ found content, w.HasFile p found content := by
  cases known : w.read p with
  | ok content =>
    obtain ⟨found, file⟩ := Workspace.read_eq_ok_iff.mp known
    exact ⟨found, content, file⟩
  | error fault =>
    have text : readText w p = .error (.unreadable ⟨fault, p.text⟩) := by
      rw [readText, readBytes, known]
    have failed : ∃ e, (PatternFile.read w p).value = .error e := by
      rw [PatternFile.read, Logged.value_bind]
      split
      · exact ⟨_, rfl⟩
      · rw [readAs, text]
        exact ⟨_, rfl⟩
    obtain ⟨e, failed⟩ := failed
    rw [load, Logged.value_bind, failed] at loads
    cases loads

namespace Command

/-- Let a pattern file load, and let a file hold some lines without line ends in them and without
halves that stand alone, each with a line feed behind it, and no more of them than the service
takes.  Let the command parse this file into another one, which is no database and neither of the
two, and let the same lines be sent to the service after it has loaded the pattern file, be that
before the command or after it, and whatever the numbers of workers are.  If no half stands alone in
the entries, the command ends well, and line by line it has written the records that the service
answers.  If one does, which then stems from the pattern file, the command does not come to its end,
and the service does not answer. -/
theorem parse_writes_answer [Nesting] {w made : Workspace} {patternFile input : Path}
    {output : String} {loaded : Library.Loaded} {content : Content} {place : List String}
    {lines : List Text} (loads : (PatternFile.load w patternFile).value = .ok loaded)
    (clean : ∀ line ∈ lines, .char '\n' ∉ line.toList ∧ .char '\r' ∉ line.toList
      ∧ Text.isWhole line.toList = true)
    (few : lines.length ≤ Service.lineLimit) (given : w.read input = .ok content)
    (bytes : content.toBytes = Text.Utf8.encodeText (Text.ended (lines.map Text.toList)))
    (isLines : Sink.isDatabasePath (.ofText output) = false)
    (parent : w.ensureParent (.ofText output) = .ok made)
    (writable : made.writable (.ofText output) = .ok place)
    (apart : w.locate patternFile ≠ .ok place) (apart' : w.locate input ≠ .ok place)
    (workers : Int) :
    ((∀ e ∈ Entry.ofLines (.ofLibrary loaded.library) workers 1 (lines.map Text.toList),
        e.IsWhole) →
      ∃ after text records,
        (run w (.parse patternFile input (.ofText output) (some workers))).value = (after, .ok .ok)
          ∧ after.read (.ofText output) = .ok (.bytes (Text.Utf8.encodeText text))
          ∧ (Text.fileLines text).map Json.read = records.map .ok
          ∧ records.length = lines.length
          ∧ after.read patternFile = w.read patternFile
          ∧ ∀ (live : LiveLibrary) v, live.path = some patternFile →
            v.read patternFile = w.read patternFile →
            (live.reload v).value.2 = .ok ()
              ∧ ∀ files others body d, Service.documentOf body = .ok d →
                d.get? "lines" = some (.list (lines.map .text)) →
                (Service.answer (live.reload v).value.1 files others
                  ⟨"POST", "/parse", body⟩).value.2 = .ok (.ok (.list records)))
    ∧ ((¬ ∀ e ∈ Entry.ofLines (.ofLibrary loaded.library) workers 1 (lines.map Text.toList),
        e.IsWhole) →
      (∃ after stray, (run w (.parse patternFile input (.ofText output) (some workers))).value =
          (after, .error (.parsing (.sink (.unencodable stray)))))
        ∧ ∀ (live : LiveLibrary) v, live.path = some patternFile →
          v.read patternFile = w.read patternFile →
          ∀ files others body d, Service.documentOf body = .ok d →
            d.get? "lines" = some (.list (lines.map .text)) →
            ∃ stray, (Service.answer (live.reload v).value.1 files others
              ⟨"POST", "/parse", body⟩).value.2 = .error (.unencodable stray)) := by
  obtain ⟨found, known⟩ := Workspace.read_eq_ok_iff.mp given
  obtain ⟨patternPlace, patterns, kept⟩ := PatternFile.exists_hasFile_of_load loads
  have read : InputFile.linesOf content.toBytes = lines.map Text.toList := by
    have finished : ∀ line ∈ lines.map Text.toList, .char '\n' ∉ line :=
      List.forall_mem_map.mpr fun line member => (clean line member).1
    have unbroken : ∀ line ∈ lines.map Text.toList, .char '\r' ∉ line :=
      List.forall_mem_map.mpr fun line member => (clean line member).2.1
    have whole : ∀ line ∈ lines.map Text.toList, Text.isWhole line = true :=
      List.forall_mem_map.mpr fun line member => (clean line member).2.2
    rw [bytes, InputFile.linesOf_ended finished unbroken whole]
  let entries := Entry.ofLines (.ofLibrary loaded.library) workers 1 (lines.map Text.toList)
  have apart'' : found ≠ place := fun same => apart' (same ▸ known.leads)
  constructor
  · intro whole
    obtain ⟨after, done, -, file, spared⟩ := parseFile_of_writable parent writable known apart''
      read (ofPath_written isLines) loads whole batchSize
    have small : (lines.map Text.toList).length < 2 ^ 63 := by
      rw [List.length_map]
      exact few.trans_lt (by decide)
    have kept' : ∀ d ∈ entries.map Entry.document, Json.IsKept d :=
      List.forall_mem_map.mpr fun e member =>
        Entry.isKept_document (Entry.fits_number small e member)
    refine ⟨after, Sink.JsonLines.text (entries.map Entry.document), entries.map Entry.document,
      done, Workspace.read_eq_ok_iff.mpr ⟨place, file⟩,
      Sink.JsonLines.map_read_fileLines_text kept', ?_, ?_, fun live v path same => ?_⟩
    · rw [List.length_map, Entry.length_ofLines, List.length_map]
    · rw [Workspace.read_eq_ok_iff.mpr ⟨_, kept⟩]
      exact Workspace.read_eq_ok_iff.mpr ⟨_, spared patternFile _ _
        (fun same => apart (same ▸ kept.leads)) kept⟩
    · obtain ⟨reloads, answered⟩ := Service.answer_parse_of_load loads few path same
      refine ⟨reloads, fun files others body d sent given => ?_⟩
      rw [answered files others body d sent given,
        Service.sent_of_isWhole (Service.isWhole_list_document_iff.mpr whole)]
  · intro broken
    refine ⟨parseFile_of_not_isWhole parent writable known apart'' read (ofPath_written isLines)
      loads broken batchSize, fun live v path same files others body d sent given => ?_⟩
    obtain ⟨-, answered⟩ := Service.answer_parse_of_load loads few path same
    rw [answered files others body d sent given]
    exact Service.exists_stray_of_sent (mt Service.isWhole_list_document_iff.mp broken)

/-- Lines of which one matches, one is empty, and one holds characters that end lines elsewhere. -/
def sampleLines : List Text := ["a b", "", "\x0b\u2028"]

/-- A record of a pattern. -/
def sampleRecords : List Document := [
  .mapping [
    (Record.Member.name.key, .text "A"),
    (Record.Member.uuid.key, .text "9a5e4f2c-6d1b-4c8e-9f3a-2b7d1e0c5a41"),
    (Record.Member.template.key, .text "a @ANY:x@")]]

/-- A pattern file in ASCII, and a file of lines. -/
def filesOf (records : List Document) (lines : List Text) : Workspace where
  nodes := [
    (["", "p.json"], .file (.bytes (Text.Utf8.encodeText
      (Json.write Json.ascii (.list records))))),
    (["", "x.txt"], .file (.bytes (Text.Utf8.encodeText
      (Text.ended (lines.map Text.toList)))))]

theorem load_sampleRecords (lines : List Text) :
    letI := Nesting.usual
    (PatternFile.load (filesOf sampleRecords lines) (.ofText "p.json")).value =
      .ok (Library.load sampleRecords) := by
  let := Nesting.usual
  have exact : Json.IsExact (.list sampleRecords) := by
    simp [sampleRecords, Json.IsExact, Json.AreExact, Json.HaveExact, Record.Member.key]
  exact PatternFile.load_of_json rfl ⟨exact, by decide⟩ (by decide) rfl

theorem load_halfRecords (lines : List Text) :
    letI := Nesting.usual
    (PatternFile.load (filesOf Library.halfRecords lines) (.ofText "p.json")).value =
      .ok (Library.load Library.halfRecords) :=
  PatternFile.load_halfRecords rfl rfl

theorem isWhole_sample : ∀ e ∈ Entry.ofLines (.ofLibrary (Library.load sampleRecords).library) 3 1
    (sampleLines.map Text.toList), e.IsWhole := by
  decide +kernel

/-- A half stands alone in the entry of a line that matches the pattern with the name of a half. -/
theorem not_isWhole_half : ¬ ∀ e ∈ Entry.ofLines
    (.ofLibrary (Library.load Library.halfRecords).library) 3 1 [Text.toList "a"], e.IsWhole := by
  decide +kernel

/-- Three workers write what five answer.  With the name of a half, neither they nor those give the
record of a line. -/
theorem parse_writes_answer_sample :
    letI := Nesting.usual
    (∃ after text records,
      (run (filesOf sampleRecords sampleLines) (.parse (.ofText "p.json") (.ofText "x.txt")
        (.ofText "out/x.jsonl") (some 3))).value = (after, .ok .ok)
        ∧ after.read (.ofText "out/x.jsonl") = .ok (.bytes (Text.Utf8.encodeText text))
        ∧ (Text.fileLines text).map Json.read = records.map .ok
        ∧ records.length = 3
        ∧ (Service.answer (LiveLibrary.reload { path := some (.ofText "p.json") } after).value.1
          after 5 ⟨"POST", "/parse", some (Service.bodyOf sampleLines)⟩).value.2 =
            .ok (.ok (.list records)))
      ∧ (∃ after stray,
        (run (filesOf Library.halfRecords ["a"]) (.parse (.ofText "p.json") (.ofText "x.txt")
          (.ofText "out/x.jsonl") (some 3))).value =
            (after, .error (.parsing (.sink (.unencodable stray)))))
        ∧ ∃ stray, (Service.answer (LiveLibrary.reload { path := some (.ofText "p.json") }
          (filesOf Library.halfRecords ["a"])).value.1 {} 5
            ⟨"POST", "/parse", some (Service.bodyOf ["a"])⟩).value.2 =
              .error (.unencodable stray) := by
  let := Nesting.usual
  constructor
  · obtain ⟨after, text, records, done, file, read, count, kept, agree⟩ :=
      (@parse_writes_answer .usual (filesOf sampleRecords sampleLines)
        ((filesOf sampleRecords sampleLines).setNode ["", "out"] .directory) (.ofText "p.json")
        (.ofText "x.txt") "out/x.jsonl" _ _ ["", "out", "x.jsonl"] sampleLines
        (load_sampleRecords sampleLines) (by decide) (by decide) rfl rfl (by decide) rfl rfl
        (by decide +kernel) (by decide +kernel) 3).1 isWhole_sample
    obtain ⟨-, answers⟩ := agree { path := some (.ofText "p.json") } after rfl kept
    exact ⟨after, text, records, done, file, read, count,
      answers after 5 _ _ (Service.documentOf_bodyOf (by decide)) rfl⟩
  · obtain ⟨stopped, unanswered⟩ :=
      (@parse_writes_answer .usual (filesOf Library.halfRecords ["a"])
        ((filesOf Library.halfRecords ["a"]).setNode ["", "out"] .directory) (.ofText "p.json")
        (.ofText "x.txt") "out/x.jsonl" _ _ ["", "out", "x.jsonl"] ["a"] (load_halfRecords ["a"])
        (by decide) (by decide) rfl rfl (by decide) rfl rfl (by decide +kernel) (by decide +kernel)
        3).2 not_isWhole_half
    exact ⟨stopped, unanswered { path := some (.ofText "p.json") } _ rfl rfl {} 5 _ _
      (Service.documentOf_bodyOf (by decide)) rfl⟩

/-- The record of a line that matches the pattern with the name of a half is not written, whatever
the size of the batches is. -/
theorem parseFile_half (size : Nat) {arguments : Document}
    (taken : Sink.ofPath (Path.ofText "out/x.jsonl").text arguments =
      .ok (.lines { path := .ofText "out/x.jsonl" })) :
    letI := Nesting.usual
    ∃ after stray, (parseFile (filesOf Library.halfRecords ["a"]) (.ofText "p.json")
      (.ofText "x.txt") (.ofText "out/x.jsonl") (some 3) size arguments).value =
        (after, .error (.parsing (.sink (.unencodable stray)))) := by
  let := Nesting.usual
  have read : InputFile.linesOf (Text.Utf8.encodeText (Text.ended [Text.toList "a"])) =
      [Text.toList "a"] := InputFile.linesOf_ended (by decide) (by decide) (by decide)
  obtain ⟨found, known⟩ := Workspace.read_eq_ok_iff.mp
    (show (filesOf Library.halfRecords ["a"]).read (.ofText "x.txt") = .ok (.bytes _) by rfl)
  have apart : found ≠ ["", "out", "x.jsonl"] := by
    rintro rfl
    exact absurd known.leads (by decide +kernel)
  have made : (filesOf Library.halfRecords ["a"]).ensureParent (.ofText "out/x.jsonl") =
      .ok ((filesOf Library.halfRecords ["a"]).setNode ["", "out"] .directory) := rfl
  exact parseFile_of_not_isWhole made rfl known apart read taken (load_halfRecords ["a"])
    not_isWhole_half size

/-- The command does not come to its end where there is such a line. -/
theorem parse_half_unencodable :
    letI := Nesting.usual
    ∃ after stray, (run (filesOf Library.halfRecords ["a"]) (.parse (.ofText "p.json")
      (.ofText "x.txt") (.ofText "out/x.jsonl") (some 3))).value =
        (after, .error (.parsing (.sink (.unencodable stray)))) :=
  parseFile_half batchSize (ofPath_written (by decide))

end Command

end LogTemplate
