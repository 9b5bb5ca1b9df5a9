import LogTemplate.Proofs.Json.RoundTrip
import LogTemplate.Proofs.Json.Soundness
import LogTemplate.Proofs.Library.Isolation
import LogTemplate.Proofs.PatternFile.JsonLines

/-!
# Lines of JSON that cannot be decoded

A line that cannot be decoded is kept as a text, which is no record.  Main statement: texts are
decoded line by line, and a bad line is reported once, at its place among the lines that are not
blank, and has no part in anything else.
-/

namespace LogTemplate

namespace Library

/-- The report on a text, which is no record. -/
def textReport (index : Nat) (text : Text) : Diagnostic where
  index := index
  cause := .notRecord (.text text)
  skipped := true

/-- Texts in the same place among records make no difference but for the reports on themselves. -/
theorem exists_load_text (earlier later : List Document) :
    ∃ library front behind, (∀ d ∈ front ++ behind, d.index ≠ earlier.length)
      ∧ ∀ text, (load (earlier ++ [.text text] ++ later)).library = library
        ∧ (load (earlier ++ [.text text] ++ later)).diagnostics =
          front ++ [textReport earlier.length text] ++ behind := by
  obtain ⟨after, reported, places⟩ := exists_diagnostics_append earlier later
  refine ⟨(load (earlier ++ later)).library, (load earlier).diagnostics,
    after.map Diagnostic.later, List.forall_mem_append.mpr ⟨fun d member => ?_, ?_⟩,
    fun text => ?_⟩
  · exact Nat.ne_of_lt (index_lt_of_mem_load member)
  · exact List.forall_mem_map.mpr fun d member =>
      Nat.ne_of_gt (Nat.lt_succ_of_le (places d member))
  · have isLeftOut : IsLeftOut earlier (.text text) := .inl rfl
    have misses := (misses_of_isLeftOut isLeftOut).foldl_add later
    have withText : later.foldl Loading.add ((earlier.foldl Loading.add {}).add (.text text)) =
        (earlier ++ [Document.text text] ++ later).foldl Loading.add {} := by simp
    rw [withText, ← List.foldl_append] at misses
    obtain ⟨after', again, reported'⟩ := misses.diagnostics
    obtain rfl : after' = after := List.append_cancel_left (again.symm.trans reported)
    exact ⟨misses.library, reported'⟩

/-- Without the report on a record there are those in front of it and those behind it. -/
theorem filter_index_ne {n : Nat} {front behind : List Diagnostic} {d : Diagnostic}
    (place : d.index = n) (apart : ∀ e ∈ front ++ behind, e.index ≠ n) :
    ((front ++ [d] ++ behind).filter fun e => e.index ≠ n) = front ++ behind := by
  have all : ∀ all : List Diagnostic, (∀ e ∈ all, e.index ≠ n) →
      (all.filter fun e => e.index ≠ n) = all := fun all apart =>
    List.filter_eq_self.mpr fun e member => by simpa using apart e member
  rw [List.forall_mem_append] at apart
  rw [List.filter_append, List.filter_append, all front apart.1, all behind apart.2,
    List.filter_singleton, decide_eq_false (not_not_intro place)]
  exact congrArg (· ++ behind) (List.append_nil front)

end Library

namespace PatternFile

open Text Json

/-! ## What stands for a line -/

/-- A line that cannot be decoded, however deep a reader goes: it is no JSON text, or one with an
integer that has too many digits. -/
def IsBad (line : List CodePoint) : Prop :=
  ∀ d demand, IsTextOf line d demand → ¬ AreShort demand.integers

section

variable [Nesting]

/-- What stands for a line: the document of which it is a text or, if it is bad, the line itself. -/
inductive IsRecordOn (line : List CodePoint) : Document → Prop
  | decoded {d : Document} {demand : Demand} (isText : IsTextOf line d demand)
    (met : demand.IsMet Nesting.json) : IsRecordOn line d
  | kept (bad : IsBad line) : IsRecordOn line (.text (Text.ofList line))

variable {line : List CodePoint}

/-- A bad line is refused, and a line that is refused is bad unless it is too deep. -/
theorem isBad_iff_of_not_isTooDeep (shallow : ¬ IsTooDeep line) :
    IsBad line ↔ ∃ e, Json.read line = .error e := by
  constructor
  · intro bad
    cases read : Json.read line with
    | ok d =>
      obtain ⟨demand, isText, met⟩ := exists_isTextOf_of_readWithin read
      exact absurd met.1 (bad d demand isText)
    | error e => exact ⟨e, rfl⟩
  · rintro ⟨e, refused⟩ d demand isText short
    rcases readWithin_of_isTextOf isText Nesting.json with ⟨read, -⟩ | ⟨-, f, refused', refusal⟩
    · cases refused.symm.trans read
    · cases refusal with
      | long long => exact long short
      | deep deep => exact shallow ⟨_, refused'⟩

/-- A JSON text without integers that are too long is too deep exactly if it is nested deeper than
the program can go. -/
theorem isTooDeep_iff_of_isTextOf {d : Document} {demand : Demand} (isText : IsTextOf line d demand)
    (short : AreShort demand.integers) : IsTooDeep line ↔ Nesting.json < demand.depth := by
  rcases readWithin_of_isTextOf isText Nesting.json with ⟨read, met⟩ | ⟨unmet, f, refused, refusal⟩
  · refine iff_of_false ?_ (Nat.not_lt.mpr met.2)
    rintro ⟨what, refused⟩
    cases refused.symm.trans read
  · have deep : Nesting.json < demand.depth := Nat.lt_of_not_le fun small => unmet ⟨short, small⟩
    refine iff_of_true ?_ deep
    cases refusal with
    | long long => exact absurd short long
    | deep deep => exact ⟨_, refused⟩

theorem recordOf_of_isTooDeep (deep : IsTooDeep line) : ∃ what, recordOf line = .error what := by
  obtain ⟨what, refused⟩ := deep
  exact ⟨what, by rw [recordOf, decodeLine, refused]⟩

/-- A line with a record on it is not too deep. -/
theorem not_isTooDeep_of_recordOf {record : Document} (given : recordOf line = .ok record) :
    ¬ IsTooDeep line := by
  intro deep
  obtain ⟨what, refused⟩ := recordOf_of_isTooDeep deep
  cases given.symm.trans refused

theorem recordOf_of_isBad (bad : IsBad line) (shallow : ¬ IsTooDeep line) :
    recordOf line = .ok (.text (Text.ofList line)) := by
  obtain ⟨e, refused⟩ := (isBad_iff_of_not_isTooDeep shallow).mp bad
  rw [recordOf, decodeLine, refused]
  cases e with
  | tooDeep what => exact absurd ⟨what, refused⟩ shallow
  | _ => rfl

/-- There is a record on every line that is not too deep. -/
theorem exists_recordOf (shallow : ¬ IsTooDeep line) :
    ∃ record, recordOf line = .ok record ∧ IsRecordOn line record := by
  cases read : Json.read line with
  | ok d =>
    obtain ⟨demand, isText, met⟩ := exists_isTextOf_of_readWithin read
    exact ⟨d, by rw [recordOf, decodeLine, read], .decoded isText met⟩
  | error e =>
    have bad := (isBad_iff_of_not_isTooDeep shallow).mpr ⟨e, read⟩
    exact ⟨_, recordOf_of_isBad bad shallow, .kept bad⟩

/-- The lines of a text are decoded one by one, unless one of them is too deep. -/
theorem mapM_recordOf (lines : List (List CodePoint)) :
    (∃ line ∈ lines, IsTooDeep line) ∧ (∃ what, lines.mapM recordOf = .error what)
      ∨ (∀ line ∈ lines, ¬ IsTooDeep line)
        ∧ ∃ records, lines.mapM recordOf = .ok records ∧ lines.Forall₂ IsRecordOn records := by
  induction lines with
  | nil => exact .inr ⟨List.forall_mem_nil _, [], rfl, .nil⟩
  | cons line lines ih =>
    rw [List.exists_mem_cons_iff, List.forall_mem_cons, List.mapM_cons]
    by_cases deep : IsTooDeep line
    · obtain ⟨what, refused⟩ := recordOf_of_isTooDeep deep
      exact .inl ⟨.inl deep, what, by rw [refused]; rfl⟩
    · obtain ⟨record, given, isRecord⟩ := exists_recordOf deep
      rw [given, ok_bind]
      rcases ih with ⟨later, what, refused⟩ | ⟨shallow, records, all, each⟩
      · exact .inl ⟨.inr later, what, by rw [refused]; rfl⟩
      · exact .inr ⟨⟨deep, shallow⟩, record :: records, by rw [all]; rfl, .cons isRecord each⟩

end

/-! ## Lines in a text -/

/-- A line in a text: there is no break in it, and there is one on either side, if there is any
text. -/
structure IsLine (before line after : List CodePoint) : Prop where
  opened : ∀ c ∈ before.getLast?, isBreak c = true
  whole : ∀ c ∈ line, isBreak c = false
  closed : ∀ c ∈ after.head?, isBreak c = true

theorem denseLines_append_left {before : List CodePoint}
    (opened : ∀ c ∈ before.getLast?, isBreak c = true) (s : List CodePoint) :
    denseLines (before ++ s) = denseLines before ++ denseLines s := by
  rcases List.eq_nil_or_concat' before with rfl | ⟨front, c, rfl⟩
  · rfl
  · have breaks : isBreak c = true := opened c (by simp)
    have alone := denseLines_append_break breaks front []
    rw [List.append_assoc, List.singleton_append, denseLines_append_break breaks, alone]
    exact congrArg (· ++ denseLines s) (List.append_nil _).symm

theorem denseLines_append_right {after : List CodePoint}
    (closed : ∀ c ∈ after.head?, isBreak c = true) (s : List CodePoint) :
    denseLines (s ++ after) = denseLines s ++ denseLines after := by
  cases after with
  | nil => exact (congrArg denseLines (List.append_nil s)).trans (List.append_nil _).symm
  | cons c rest =>
    have breaks : isBreak c = true := closed c rfl
    have alone := denseLines_append_break breaks [] rest
    rw [denseLines_append_break breaks]
    exact congrArg (denseLines s ++ ·) alone.symm

/-- Around a line that is not blank a text has the lines in front of it and those behind it. -/
theorem IsLine.denseLines_eq {before line after : List CodePoint}
    (isLine : IsLine before line after)
    (filled : trim line ≠ []) :
    denseLines (before ++ line ++ after) =
      denseLines before ++ trim line :: denseLines after := by
  rw [List.append_assoc, denseLines_append_left isLine.opened,
    denseLines_append_right isLine.closed, denseLines_of_unbroken isLine.whole filled,
    List.singleton_append]

/-! ## Bad lines -/

section

variable [Nesting] {path : String} {before line after s : List CodePoint} {records : List Document}

/-- A bad line gives a text among the records of the other lines, if all lines can be read. -/
theorem exists_decodeJsonLines_of_isBad (isLine : IsLine before line after)
    (filled : trim line ≠ []) (bad : IsBad (trim line))
    (decoded : (decodeJsonLines path (before ++ line ++ after)).value = .ok records) :
    ∃ earlier later, (decodeJsonLines path before).value = .ok earlier
      ∧ (decodeJsonLines path after).value = .ok later
      ∧ earlier.length = (denseLines before).length
      ∧ records = earlier ++ [.text (Text.ofList (trim line))] ++ later := by
  simp only [value_decodeJsonLines] at decoded ⊢
  rw [isLine.denseLines_eq filled, List.mapM_append] at decoded
  obtain ⟨earlier, front, decoded⟩ := bind_eq_ok_iff.mp decoded
  obtain ⟨others, behind, whole⟩ := bind_eq_ok_iff.mp decoded
  obtain ⟨record, later, own, further, rfl⟩ := mapM_cons_eq_ok_iff.mp behind
  obtain rfl :=
    Except.ok.inj ((recordOf_of_isBad bad (not_isTooDeep_of_recordOf own)).symm.trans own)
  refine ⟨earlier, later, front, further, (mapM_eq_ok_iff.mp front).length_eq.symm, ?_⟩
  rw [← Except.ok.inj whole, List.append_assoc, List.singleton_append]

/-- The records of the lines around a bad line are those of a text with the bad line among them. -/
theorem decodeJsonLines_of_isBad {earlier later : List Document} (isLine : IsLine before line after)
    (filled : trim line ≠ []) (bad : IsBad (trim line)) (shallow : ¬ IsTooDeep (trim line))
    (front : (decodeJsonLines path before).value = .ok earlier)
    (behind : (decodeJsonLines path after).value = .ok later) :
    (decodeJsonLines path (before ++ line ++ after)).value =
      .ok (earlier ++ [.text (Text.ofList (trim line))] ++ later) := by
  simp only [value_decodeJsonLines] at front behind ⊢
  rw [isLine.denseLines_eq filled, List.mapM_append, front, ok_bind, List.mapM_cons,
    recordOf_of_isBad bad shallow, ok_bind, behind]
  simp only [ok_bind, List.append_assoc, List.singleton_append]
  rfl

/-- A bad line is reported once, at its place among the lines that are not blank. -/
theorem filter_diagnostics_of_isBad {index : Nat}
    (decoded : (decodeJsonLines path s).value = .ok records)
    (found : (denseLines s)[index]? = some line) (bad : IsBad line) :
    ((Library.load records).diagnostics.filter fun d => d.index = index) =
      [Library.textReport index (.ofList line)] := by
  rw [value_decodeJsonLines] at decoded
  obtain ⟨record, own, present⟩ := exists_getElem?_of_mapM decoded found
  obtain rfl :=
    Except.ok.inj ((recordOf_of_isBad bad (not_isTooDeep_of_recordOf own)).symm.trans own)
  rw [Library.filter_index_diagnostics_load, Library.reportsAt, present]
  rfl

/-- The decoder of JSON lines gives one record for each line that is not blank, in their order,
unless one of these lines is nested deeper than the program can go.  A line that is too deep opens
more lists and mappings than that, and a JSON text whose integers are not too long is too deep
exactly if they are nested deeper.  Two texts with a line feed between them give the records of
both.  A bad line among them is reported once, as no record, at its place among the lines that are
not blank.  Another bad line instead of a bad line changes nothing: the library is the same, and so
are all reports as they are shown, those on other records in every respect. -/
theorem bad_lines_stay_apart (path : String) :
    (∀ s, (∃ line ∈ denseLines s, IsTooDeep line)
          ∧ (∃ what, (Format.jsonLines.decode path s).value = .error (.tooDeep what))
        ∨ (∀ line ∈ denseLines s, ¬ IsTooDeep line)
          ∧ ∃ records, (Format.jsonLines.decode path s).value = .ok records
            ∧ (denseLines s).Forall₂ IsRecordOn records)
      ∧ (∀ line, (IsTooDeep line → Nesting.json < line.countP isOpening)
        ∧ ∀ d demand, IsTextOf line d demand → AreShort demand.integers →
          (IsTooDeep line ↔ Nesting.json < demand.depth))
      ∧ (∀ s t, (decodeJsonLines path (s ++ .char '\n' :: t)).value = do
        return (← (decodeJsonLines path s).value) ++ (← (decodeJsonLines path t).value))
      ∧ (∀ s records, (decodeJsonLines path s).value = .ok records →
        ∀ index line, (denseLines s)[index]? = some line → IsBad line →
          ∃ d, ((Library.load records).diagnostics.filter fun d => d.index = index) = [d]
            ∧ d.cause.kind = .typeMismatch ∧ d.cause.field = "record" ∧ d.skipped = true)
      ∧ ∀ before line other after records,
        IsLine before line after → trim line ≠ [] → IsBad (trim line) →
        IsLine before other after → trim other ≠ [] → IsBad (trim other) →
        ¬ IsTooDeep (trim other) →
        (decodeJsonLines path (before ++ line ++ after)).value = .ok records →
        ∃ others, (decodeJsonLines path (before ++ other ++ after)).value = .ok others
          ∧ (Library.load others).library = (Library.load records).library
          ∧ (Library.load others).diagnostics.map Diagnostic.document =
            (Library.load records).diagnostics.map Diagnostic.document
          ∧ ((Library.load others).diagnostics.filter fun d =>
              d.index ≠ (denseLines before).length) =
            (Library.load records).diagnostics.filter fun d =>
              d.index ≠ (denseLines before).length := by
  refine ⟨fun s => ?_, fun line => ⟨?_, fun d demand => isTooDeep_iff_of_isTextOf⟩,
    value_decodeJsonLines_append_break path (by decide),
    fun s records decoded index line found bad =>
      ⟨_, filter_diagnostics_of_isBad decoded found bad, rfl, rfl, rfl⟩,
    fun before line other after records isLine filled bad isLine' filled' bad' shallow
      decoded => ?_⟩
  · have lines := value_decodeJsonLines path s
    rw [Format.decode, Logged.value_bind, lines]
    rcases mapM_recordOf (denseLines s) with ⟨deep, what, refused⟩ | ⟨shallow, records, all, each⟩
    · exact .inl ⟨deep, what, by rw [refused]; rfl⟩
    · exact .inr ⟨shallow, records, by rw [all]; rfl, each⟩
  · rintro ⟨what, refused⟩
    exact lt_countP_of_tooDeep refused
  · obtain ⟨earlier, later, front, behind, count, rfl⟩ :=
      exists_decodeJsonLines_of_isBad isLine filled bad decoded
    refine ⟨_, decodeJsonLines_of_isBad isLine' filled' bad' shallow front behind, ?_⟩
    obtain ⟨library, ahead, after, apart, same⟩ := Library.exists_load_text earlier later
    rw [count] at apart same
    simp only [same]
    refine ⟨trivial, ?_, ?_⟩
    · -- a report as it is shown names the type of what stands for the line, which is a text
      simp only [List.map_append]
      rfl
    · exact Eq.trans (Library.filter_index_ne rfl apart)
        (Eq.symm (Library.filter_index_ne rfl apart))

end

/-- Nothing is decoded from a line of five thousand lists that are opened one inside the other. -/
theorem decode_replicate_eq_error :
    letI := Nesting.usual
    (Format.jsonLines.decode "patterns.jsonl" (List.replicate 5000 (CodePoint.char '['))).value =
      .error (.tooDeep .list) := by
  let := Nesting.usual
  have refused : Json.read (List.replicate 5000 (CodePoint.char '[')) = .error (.tooDeep .list) :=
    readWithin_replicate (by decide)
  have record : recordOf (List.replicate 5000 (CodePoint.char '[')) = .error .list := by
    rw [recordOf, decodeLine, refused]
  have lines := value_decodeJsonLines "patterns.jsonl" (List.replicate 5000 (CodePoint.char '['))
  have one : denseLines (List.replicate 5000 (CodePoint.char '[')) =
      [List.replicate 5000 (CodePoint.char '[')] := by
    refine denseLines_of_not_blank (fun c member => ?_) (by decide)
    rw [List.eq_of_mem_replicate member]
    decide
  rw [Format.decode, Logged.value_bind, lines, one, List.mapM_cons, record]
  rfl

/-- A record of a pattern. -/
def plainRecord (uuid : Text) : Document :=
  .mapping [("name", .text "A"), ("uuid", .text uuid), ("pattern", .text "a")]

/-- The records of two patterns. -/
def plainRecords : Document × Document :=
  (plainRecord "9a5e4f2c-6d1b-4c8e-9f3a-2b7d1e0c5a41",
    plainRecord "9a5e4f2c-6d1b-4c8e-9f3a-2b7d1e0c5a42")

/-- A line that is no JSON text, between the lines of two patterns. -/
def mixedLines : List CodePoint :=
  [.char '\n'].intercalate
    [Json.write Json.plain plainRecords.1, Text.toList "\x7b]",
    Json.write Json.plain plainRecords.2]

theorem recordOf_plainRecord [Nesting] (uuid : Text) :
    recordOf (Json.write Json.plain (plainRecord uuid)) = .ok (plainRecord uuid) := by
  have kept : Json.IsKept (plainRecord uuid) := by
    refine ⟨?_, Nat.le_of_succ_le Nesting.two_le_json⟩
    simp [plainRecord, Json.IsExact, Json.HaveExact]
  have read := @Json.read_write _ Json.plain _ kept (Json.Style.keeps_of_asciiOnly rfl _) []
    (List.forall_mem_nil _)
  rw [List.append_nil] at read
  rw [recordOf, decodeLine, read]
  rfl

/-- No JSON text starts with a brace that closes a list. -/
theorem isBad_stray : IsBad (Text.toList "\x7b]") := by
  let := Nesting.usual
  have shallow : ¬ IsTooDeep (Text.toList "\x7b]") := by
    rintro ⟨what, refused⟩
    exact absurd (lt_countP_of_tooDeep refused) (by decide)
  refine (isBad_iff_of_not_isTooDeep shallow).mpr ?_
  cases read : Json.read (Text.toList "\x7b]") with
  | error e => exact ⟨e, rfl⟩
  | ok d =>
    have refused : (Json.read (Text.toList "\x7b]")).isOk = false := by decide +kernel
    rw [read] at refused
    cases refused

theorem decodeJsonLines_mixedLines :
    letI := Nesting.usual
    (decodeJsonLines "patterns.jsonl" mixedLines).value =
      .ok [plainRecords.1, .text "\x7b]", plainRecords.2] := by
  let := Nesting.usual
  have dense : denseLines mixedLines =
      [Json.write Json.plain plainRecords.1, Text.toList "\x7b]",
        Json.write Json.plain plainRecords.2] := by decide +kernel
  have shallow : ¬ IsTooDeep (Text.toList "\x7b]") := by
    rintro ⟨what, refused⟩
    exact absurd (lt_countP_of_tooDeep refused) (by decide)
  rw [value_decodeJsonLines, dense, List.mapM_cons, List.mapM_cons, List.mapM_cons, List.mapM_nil,
    plainRecords, recordOf_plainRecord, recordOf_plainRecord, recordOf_of_isBad isBad_stray shallow]
  rfl

/-- The bad line is the only one that is reported as no record, and the two patterns are loaded. -/
theorem bad_lines_stay_apart_mixed :
    letI := Nesting.usual
    IsBad (Text.toList "\x7b]")
      ∧ ∃ records d, (Format.jsonLines.decode "patterns.jsonl" mixedLines).value = .ok records
        ∧ (Library.load records).library.patterns.length = 2
        ∧ ((Library.load records).diagnostics.filter fun d => d.index = 1) = [d]
        ∧ d.cause.kind = .typeMismatch ∧ d.skipped = true := by
  let := Nesting.usual
  obtain ⟨-, -, -, reports, -⟩ := bad_lines_stay_apart "patterns.jsonl"
  have dense : (denseLines mixedLines)[1]? = some (Text.toList "\x7b]") := by decide +kernel
  obtain ⟨d, only, kind, -, skipped⟩ := reports _ _ decodeJsonLines_mixedLines 1 _ dense isBad_stray
  refine ⟨isBad_stray, _, d, ?_, ?_, only, kind, skipped⟩
  · rw [Format.decode, Logged.value_bind, decodeJsonLines_mixedLines]
    rfl
  · decide +kernel

end PatternFile

end LogTemplate
