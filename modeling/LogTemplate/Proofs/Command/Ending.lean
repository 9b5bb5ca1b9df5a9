import LogTemplate.Proofs.Command.Parse
import LogTemplate.Proofs.Service.Agreement
import LogTemplate.Proofs.Sink.Own

/-!
# How the command that parses a file ends

Main statement: the command ends with an exit code unless the pattern file is nested too deep or a
value in it is out of range, a path has a zero in it, the database of the output refuses to be
opened or written to, or half a character stands alone in what is to be written as a line.
-/

namespace LogTemplate

namespace Sink

variable {text : String} (settings : Settings)

/-- The arguments that the settings make have no place in them. -/
theorem ofPath_lines (isLines : isDatabasePath (.ofText text) = false) :
    ofPath text (Command.sinkArguments settings) = .ok (.lines { path := .ofText text }) := by
  unfold ofPath
  split
  · rename_i given
    cases given
  · rw [if_neg (by rw [isLines]; exact Bool.false_ne_true)]
    exact rfl

/-- The sink for the path of a database empties the table of the settings, if that can be one. -/
theorem ofPath_database (isDatabase : isDatabasePath (.ofText text) = true) :
    ofPath text (Command.sinkArguments settings) =
      (TableName.check settings.resultsTable).map fun table =>
        .table { path := some text, table, empties := true } := by
  unfold ofPath
  split
  · rename_i given
    cases given
  · have known : checkArguments ["table", "truncate"] (Command.sinkArguments settings) = .ok () :=
      rfl
    rw [known, ok_bind]
    show (TableName.check settings.resultsTable >>= fun table =>
      .ok (Sink.table { path := Text.string? text, table, empties := true })) = _
    rw [Text.string?_ofString]
    cases TableName.check settings.resultsTable <;> rfl

end Sink

namespace Command

open Sink (Session)

/-- A database's own errors are all that keeps batches from being written. -/
theorem isOwn_writeBatches {s : Session} (settled : s.IsSettled sinkName) (index : Index)
    (workers : Int) (tally : Tally) (all : List (List (List CodePoint))) :
    RefusesWith Sink.Error.IsOwn (writeBatches index workers s tally all).2 := by
  induction all generalizing s tally with
  | nil => exact refusesWith_ok _
  | cons batch rest ih =>
    have own := Session.isOwn_write settled
      ((Entry.ofLines index workers (tally.total + 1) batch).map Entry.document)
    have further := Session.isSettled_write s sinkName
      ((Entry.ofLines index workers (tally.total + 1) batch).map Entry.document)
    unfold writeBatches
    dsimp only
    split
    · rename_i refused
      rw [refused] at own
      exact refusesWith_error (own.of_eq rfl)
    · rename_i written
      rw [written] at further
      exact ih (further rfl) _

/-- The session in which the sink for an output is opened, and what comes of that. -/
def opening (w : Workspace) (output : Path) (arguments : Document) :
    Session × Except Sink.Error Unit :=
  match Sink.ofPath output.text arguments with
  | .error e => ({ workspace := w }, .error e)
  | .ok sink => (Session.bind { workspace := w } sinkName sink).connect sinkName

/-- What becomes of the lines of an input once the sink for the output has been opened. -/
def parsed (w : Workspace) (index : Index) (workers : Int) (input output : Path)
    (arguments : Document) : Except ParseError Tally :=
  (parseThrough w index (some workers) input output batchSize arguments).value.2

variable {w : Workspace} {index : Index} {workers : Int} {patternFile input output : Path}
  {arguments : Document} {settings : Settings}

theorem parsed_of_opening_error {s : Session} {e : Sink.Error}
    (failed : opening w output arguments = (s, .error e)) :
    parsed w index workers input output arguments = .error (.sink e) := by
  unfold opening at failed
  unfold parsed parseThrough
  cases made : Sink.ofPath output.text arguments with
  | error _ =>
    rw [made] at failed
    cases failed
    rfl
  | ok sink =>
    rw [made] at failed
    dsimp only at failed ⊢
    rw [failed]
    rfl

theorem parsed_of_opening_ok {s : Session} (opened : opening w output arguments = (s, .ok ())) :
    parsed w index workers input output arguments =
      match InputFile.lines s.workspace input with
      | .error e => .error (.sink (.file e))
      | .ok lines =>
        (writeBatches index workers s {} (batches batchSize lines)).2.mapError .sink := by
  unfold opening at opened
  unfold parsed parseThrough
  cases made : Sink.ofPath output.text arguments with
  | error _ =>
    rw [made] at opened
    cases opened
  | ok sink =>
    rw [made] at opened
    dsimp only at opened ⊢
    simp only [opened, Logged.value_bind, parseInto, InputFile.value_linesLogged]
    cases InputFile.lines s.workspace input with
    | error e => rfl
    | ok lines =>
      cases lines with
      | nil =>
        show _ = (writeBatches index workers s {} (batches batchSize [])).2.mapError ParseError.sink
        rw [batches_nil]
        rfl
      | cons line lines => rfl

/-- The value of the command that parses a file. -/
theorem value_runWith_parse [Nesting] :
    (runWith w arguments (.parse patternFile input output (some workers))).value.2 =
      match (PatternFile.load w patternFile).value with
      | .error e => if e.reason.failure == .value then .error (.patternFile e) else .ok .failed
      | .ok loaded =>
        match parsed w (.ofLibrary loaded.library) workers input output arguments with
        | .ok _ => .ok .ok
        | .error e => if e.fileError?.isSome then .ok .failed else .error (.parsing e) := by
  rw [runWith, parseFile, Logged.value_bind]
  cases (PatternFile.load w patternFile).value with
  | error e =>
    dsimp only
    split <;> rfl
  | ok loaded =>
    simp only [Logged.value_bind, parsed]
    cases (parseThrough w (.ofLibrary loaded.library) (some workers) input output batchSize
      arguments).value.2 with
    | ok tally => rfl
    | error e =>
      dsimp only
      cases e.fileError? <;> rfl

/-- What keeps a file from being parsed without being logged. -/
inductive IsUncaught [Nesting] (w : Workspace) (patternFile input output : Path) (workers : Int)
    (settings : Settings) : Prop
  /-- The pattern file is nested too deep or a value in it is out of range, or there is a zero in
  its path. -/
  | loading {e : PatternFile.Error} (failed : (PatternFile.load w patternFile).value = .error e)
      (kind : e.reason.failure = .value)
  /-- The database of the output cannot be opened, or there is a zero in the path of that. -/
  | opening {loaded : Library.Loaded} {s : Session} {e : Sink.Error}
      (loads : (PatternFile.load w patternFile).value = .ok loaded)
      (failed : opening w output (sinkArguments settings) = (s, .error e))
      (kind : Sink.isDatabasePath (.ofText output.text) = true
        ∨ ∃ text, e = .file ⟨.zeroInPath, text⟩)
  /-- There is a zero in the path of the input. -/
  | taking {loaded : Library.Loaded} {s : Session} {text : String}
      (loads : (PatternFile.load w patternFile).value = .ok loaded)
      (opens : opening w output (sinkArguments settings) = (s, .ok ()))
      (failed : InputFile.lines s.workspace input = .error ⟨.zeroInPath, text⟩)
  /-- The database of the output does not take a batch. -/
  | writing {loaded : Library.Loaded} {s s' : Session} {lines : List (List CodePoint)}
      {e : Sink.Error}
      (loads : (PatternFile.load w patternFile).value = .ok loaded)
      (opens : opening w output (sinkArguments settings) = (s, .ok ()))
      (takes : InputFile.lines s.workspace input = .ok lines)
      (failed : writeBatches (.ofLibrary loaded.library) workers s {} (batches batchSize lines) =
        (s', .error e))
      (kind : Sink.isDatabasePath (.ofText output.text) = true)
  /-- Lines are written, and a half stands alone in an entry. -/
  | encoding {loaded : Library.Loaded} {s : Session} {lines : List (List CodePoint)}
      (loads : (PatternFile.load w patternFile).value = .ok loaded)
      (opens : opening w output (sinkArguments settings) = (s, .ok ()))
      (takes : InputFile.lines s.workspace input = .ok lines)
      (kind : Sink.isDatabasePath (.ofText output.text) = false)
      (broken : ¬ ∀ e ∈ Entry.ofLines (.ofLibrary loaded.library) workers 1 lines, e.IsWhole)

/-- How the command that parses a file ends. -/
def ending [Nesting] (w : Workspace) (patternFile input output : Path) (workers : Int)
    (settings : Settings) : Except Failure ExitCode :=
  (runWith w (sinkArguments settings) (.parse patternFile input output (some workers))).value.2

theorem fileError?_of_isOwn {e : Sink.Error} (own : e.IsOwn) :
    (ParseError.sink e).fileError? = none := by
  unfold ParseError.fileError?
  split
  · rename_i f same
    rw [own f (ParseError.sink.inj same), if_neg Bool.false_ne_true]
  · rfl

theorem isOwn_zeroInPath (text : String) : (Sink.Error.file ⟨.zeroInPath, text⟩).IsOwn := by
  rintro f ⟨⟩
  rfl

theorem eq_zeroInPath_of_fileError? {f : FileError}
    (hidden : (ParseError.sink (.file f)).fileError? = none) : f = ⟨.zeroInPath, f.path⟩ := by
  obtain ⟨fault, path⟩ := f
  cases fault with
  | zeroInPath => rfl
  | _ => cases hidden

theorem isOwn_opening (w : Workspace) (settings : Settings)
    (isDatabase : Sink.isDatabasePath (.ofText output.text) = true) :
    RefusesWith Sink.Error.IsOwn (opening w output (sinkArguments settings)).2 := by
  unfold opening
  rw [Sink.ofPath_database settings isDatabase]
  split
  · rename_i e refused
    rw [Sink.TableName.check, Text.string?_ofString] at refused
    dsimp only at refused
    split at refused
    · cases refused
    · cases refused
      exact refusesWith_error nofun
  · rename_i made
    obtain ⟨table, -, rfl⟩ := map_eq_ok_iff.mp made
    rw [Session.connect, Session.get?_bind_self]
    exact Session.isOwn_openTable ..

/-- An output that is no database's is opened by the operating system. -/
theorem exists_file_of_opening {s : Session} {e : Sink.Error}
    (isLines : Sink.isDatabasePath (.ofText output.text) = false)
    (failed : opening w output (sinkArguments settings) = (s, .error e)) : ∃ f, e = .file f := by
  unfold opening at failed
  rw [Sink.ofPath_lines settings isLines] at failed
  dsimp only at failed
  rw [Session.connect, Session.get?_bind_self] at failed
  dsimp only at failed
  unfold Session.openLines at failed
  split at failed
  · cases failed
    exact ⟨_, rfl⟩
  · split at failed
    · cases failed
      exact ⟨_, rfl⟩
    · cases failed

theorem hasWritten_of_opening {s : Session}
    (isLines : Sink.isDatabasePath (.ofText output.text) = false)
    (opened : opening w output (sinkArguments settings) = (s, .ok ())) :
    ∃ sink place, s.HasWritten sinkName sink place [] := by
  unfold opening at opened
  rw [Sink.ofPath_lines settings isLines] at opened
  obtain ⟨place, holds⟩ := Session.hasWritten_connect (Sink.LineSink.holdsNothing_new _)
    Session.get?_bind_self opened
  exact ⟨_, place, holds⟩

/-- The entries of lines are written to a file exactly if no half stands alone in them. -/
theorem writeBatches_of_opening {s : Session} {lines : List (List CodePoint)}
    (isLines : Sink.isDatabasePath (.ofText output.text) = false)
    (opened : opening w output (sinkArguments settings) = (s, .ok ())) :
    if ∀ e ∈ Entry.ofLines index workers 1 lines, e.IsWhole then
      ∃ s' tally, writeBatches index workers s {} (batches batchSize lines) = (s', .ok tally)
    else ∃ s' stray,
      writeBatches index workers s {} (batches batchSize lines) =
        (s', .error (.unencodable stray)) := by
  obtain ⟨sink, place, holds⟩ := hasWritten_of_opening isLines opened
  have all :
      Entry.ofLines index workers (({} : Tally).total + 1) (batches batchSize lines).flatten =
      Entry.ofLines index workers 1 lines := by
    rw [flatten_batches]
    rfl
  split
  · rename_i whole
    obtain ⟨s', done, -⟩ := writeBatches_of_hasWritten holds (batches batchSize lines) (all ▸ whole)
    exact ⟨s', _, done⟩
  · rename_i broken
    exact writeBatches_of_not_isWhole holds (batches batchSize lines) (all ▸ broken)

theorem isSettled_of_opening {s : Session} (opened : opening w output arguments = (s, .ok ())) :
    s.IsSettled sinkName := by
  unfold opening at opened
  split at opened
  · cases opened
  · rename_i sink made
    have settled := Session.isSettled_connect
      (Session.bind { workspace := w } sinkName sink) sinkName
    rw [opened] at settled
    exact settled rfl

/-- What is not logged about a sink that has not been opened is not caught either. -/
theorem ending_of_opening [Nesting] {loaded : Library.Loaded} {s : Session} {e : Sink.Error}
    (loads : (PatternFile.load w patternFile).value = .ok loaded)
    (failed : opening w output (sinkArguments settings) = (s, .error e)) :
    ending w patternFile input output workers settings =
      if (ParseError.sink e).fileError?.isSome then .ok .failed
      else .error (.parsing (.sink e)) := by
  rw [ending, value_runWith_parse, loads]
  simp only [parsed_of_opening_error failed]

/-- Whatever is not caught leaves no exit code. -/
theorem IsUncaught.ending_ne_ok [Nesting]
    (uncaught : IsUncaught w patternFile input output workers settings) (code : ExitCode) :
    ending w patternFile input output workers settings ≠ .ok code := by
  cases uncaught with
  | loading failed kind =>
    rw [ending, value_runWith_parse, failed]
    simp [kind]
  | @opening _ _ e loads failed kind =>
    have own : e.IsOwn := by
      rcases kind with isDatabase | ⟨text, rfl⟩
      · exact (isOwn_opening w settings isDatabase).of_eq (congrArg Prod.snd failed)
      · exact isOwn_zeroInPath text
    rw [ending_of_opening loads failed, fileError?_of_isOwn own]
    nofun
  | taking loads opens failed =>
    rw [ending, value_runWith_parse, loads]
    simp only [parsed_of_opening_ok opens, failed]
    nofun
  | writing loads opens takes failed =>
    have own := (isOwn_writeBatches (isSettled_of_opening opens) _ _ _ _).of_eq
      (congrArg Prod.snd failed)
    rw [ending, value_runWith_parse, loads]
    simp only [parsed_of_opening_ok opens, takes, failed]
    rw [show Except.mapError ParseError.sink (.error _) = .error (.sink _) from rfl]
    simp [fileError?_of_isOwn own]
  | @encoding loaded s lines loads opens takes kind broken =>
    have refused := @writeBatches_of_opening w (.ofLibrary loaded.library) workers output settings s
      lines kind opens
    rw [if_neg broken] at refused
    obtain ⟨s', stray, refused⟩ := refused
    rw [ending, value_runWith_parse, loads]
    simp only [parsed_of_opening_ok opens, takes, refused]
    nofun

/-- An error of the file system that is not caught tells of a zero in a path. -/
theorem isSome_fileError?_of_not {f : FileError}
    (caught : ¬ ∃ text, f = ⟨.zeroInPath, text⟩) :
    (ParseError.sink (.file f)).fileError?.isSome = true := by
  cases found : (ParseError.sink (.file f)).fileError? with
  | none => exact absurd ⟨f.path, eq_zeroInPath_of_fileError? found⟩ caught
  | some _ => rfl

/-- What is caught leaves an exit code. -/
theorem exists_ending_of_not_isUncaught [Nesting]
    (caught : ¬ IsUncaught w patternFile input output workers settings) :
    ∃ code, ending w patternFile input output workers settings = .ok code := by
  cases loads : (PatternFile.load w patternFile).value with
  | error e =>
    have kind : e.reason.failure ≠ .value := fun kind => caught (.loading loads kind)
    exact ⟨.failed, by rw [ending, value_runWith_parse, loads]; simp [kind]⟩
  | ok loaded =>
    rcases opens : opening w output (sinkArguments settings) with ⟨s, e | _⟩
    · have isLines : Sink.isDatabasePath (.ofText output.text) = false :=
        Bool.eq_false_iff.mpr fun isDatabase => caught (.opening loads opens (.inl isDatabase))
      obtain ⟨f, rfl⟩ := exists_file_of_opening isLines opens
      have known := isSome_fileError?_of_not (f := f) fun ⟨text, zero⟩ =>
        caught (.opening loads opens (.inr ⟨text, congrArg Sink.Error.file zero⟩))
      exact ⟨.failed, by rw [ending_of_opening loads opens, if_pos known]⟩
    · rw [ending, value_runWith_parse, loads]
      simp only [parsed_of_opening_ok opens]
      cases takes : InputFile.lines s.workspace input with
      | error f =>
        have known := isSome_fileError?_of_not (f := f) fun ⟨text, zero⟩ =>
          caught (.taking loads opens (zero ▸ takes))
        exact ⟨.failed, if_pos known⟩
      | ok lines =>
        rcases writes : writeBatches (.ofLibrary loaded.library) workers s {}
          (batches batchSize lines) with ⟨s', e | tally⟩
        · have isLines : Sink.isDatabasePath (.ofText output.text) = false :=
            Bool.eq_false_iff.mpr fun isDatabase =>
              caught (.writing loads opens takes writes isDatabase)
          have whole : ∀ e ∈ Entry.ofLines (.ofLibrary loaded.library) workers 1 lines, e.IsWhole :=
            not_not.mp fun broken => caught (.encoding loads opens takes isLines broken)
          have done :=
            @writeBatches_of_opening w (.ofLibrary loaded.library) workers output settings
            s lines isLines opens
          rw [if_pos whole] at done
          obtain ⟨_, _, done⟩ := done
          cases writes.symm.trans done
        · exact ⟨.ok, by dsimp only; rw [writes]; rfl⟩

/-- Of the exit codes, those of success and of failure are all that the command ends with. -/
theorem eq_of_ending [Nesting] {code : ExitCode}
    (ends : ending w patternFile input output workers settings = .ok code) :
    code = .ok ∨ code = .failed := by
  rw [ending, value_runWith_parse] at ends
  split at ends
  · split at ends
    · cases ends
    · exact .inr (Except.ok.inj ends).symm
  · split at ends
    · exact .inl (Except.ok.inj ends).symm
    · split at ends
      · exact .inr (Except.ok.inj ends).symm
      · cases ends

/-- With a proper name for the table, the command ends with the exit code of success or of failure,
whatever the files are. -/
def AlwaysEnds [Nesting] : Prop :=
  ∀ w patternFile input output workers settings,
    Text.isIdentifier settings.resultsTable.toList = true →
    ∃ code, ending w patternFile input output workers settings = .ok code
      ∧ (code = .ok ∨ code = .failed)

/-- The file of the output holds a text. -/
def strayFiles : Workspace where
  nodes := [
    (["", "p.json"], .file (.bytes (Text.Utf8.encodeText (Json.write Json.ascii (.list []))))),
    (["", "x.log"], .file (.bytes (Text.Utf8.encodeText (Text.toList "a\n")))),
    (["", "o.db"], .file (.bytes (Text.Utf8.encodeText
      (Text.toList "this file is no database, only a text"))))]

/-- What holds where the environment sets nothing. -/
def defaultSettings : Settings where
  patternFile := .ofText "patterns.json"
  logLevel := "INFO"
  workers := 1
  watches := true
  polls := true
  resultsTable := Settings.defaultTable

end Command

end LogTemplate
