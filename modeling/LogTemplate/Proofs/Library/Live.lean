import LogTemplate.Library.Live
import LogTemplate.Proofs.Course
import LogTemplate.Proofs.Json.RoundTrip
import LogTemplate.Proofs.Text.Lines
import LogTemplate.Proofs.Text.Utf8
import Mathlib.Data.List.Induction

/-!
# A live library over time

Around a live library files are written and removed, the library is loaded again, and snapshots are
taken, in any order.  Main statement: the library, the reports and the index always stem from one
and the same load, the last one that succeeded; what was taken of an earlier one stays as it was.
-/

namespace LogTemplate

/-- Texts for files in ASCII. -/
def Json.ascii : Style := ⟨true, false, false⟩

/-- The records in a file of JSON in ASCII are those that were written there, unless two halves in a
text of theirs make a character. -/
theorem PatternFile.load_of_json [Nesting] {w : Workspace} {p : Path} {records : List Document}
    (format : Format.ofPath? p = some .json) (kept : Json.IsKept (.list records))
    (unjoined : ∀ t ∈ (Document.list records).texts, Json.IsUnjoined t.toList)
    (known : w.read p =
      .ok (.bytes (Text.Utf8.encodeText (Json.write Json.ascii (.list records))))) :
    (PatternFile.load w p).value = .ok (Library.load records) := by
  have unbroken : .char '\r' ∉ Json.write Json.ascii (.list records) := fun member =>
    absurd (Json.isPrinted_write Json.ascii kept.exact _ member) (by decide)
  have whole : Text.isWhole (Json.write Json.ascii (.list records)) = true := by
    rw [Json.isWhole_write]
    rfl
  have text : readText w p = .ok (Json.write Json.ascii (.list records)) := by
    rw [readText, readBytes, known]
    simp only [Content.toBytes, Text.Utf8.decodeText_encodeText whole,
      Text.unifyBreaks_of_not_mem unbroken]
  have decoded : Json.read (Json.write Json.ascii (.list records)) = .ok (.list records) := by
    have read := @Json.read_write _ Json.ascii _ kept (fun _ => unjoined) [] (List.forall_mem_nil _)
    rwa [List.append_nil] at read
  have read : (PatternFile.read w p).value = .ok records := by
    simp only [PatternFile.read, formatOf, format, Logged.value_bind, Logged.value_pure, readAs,
      text, Format.decode, decodeJson, decoded, unwrapLogged]
    rfl
  rw [load, Logged.value_bind, read]
  rfl

/-- The record of a pattern whose name is half a character. -/
def Library.halfRecords : List Document := [
  .mapping [
    (Record.Member.name.key, .text ⟨[CodePoint.ofNat 0xD800]⟩),
    (Record.Member.uuid.key, .text "9a5e4f2c-6d1b-4c8e-9f3a-2b7d1e0c5a41"),
    (Record.Member.template.key, .text "@ANY:x@")]]

/-- A file of JSON in ASCII can hold it. -/
theorem PatternFile.load_halfRecords {w : Workspace} {p : Path}
    (format : Format.ofPath? p = some .json)
    (known : w.read p =
      .ok (.bytes (Text.Utf8.encodeText (Json.write Json.ascii (.list Library.halfRecords))))) :
    letI := Nesting.usual
    (PatternFile.load w p).value = .ok (Library.load Library.halfRecords) := by
  let := Nesting.usual
  have exact : Json.IsExact (.list Library.halfRecords) := by
    simp [Library.halfRecords, Json.IsExact, Json.AreExact, Json.HaveExact, Record.Member.key]
  exact load_of_json format ⟨exact, by decide⟩ (by decide) known

namespace LiveLibrary

variable [Nesting]

/-- What the pattern file gives, if there is one and it can be loaded. -/
def loaded? (path : Option Path) (w : Workspace) : Option Library.Loaded :=
  path.bind fun p => (PatternFile.load w p).value.toOption

/-- What happens around a live library. -/
inductive Event where
  | write (place : List String) (content : Content)
  | remove (place : List String)
  | reload
  | snapshot

/-- The files after an event. -/
def Event.changed (w : Workspace) : Event → Workspace
  | .write place content => w.write place content
  | .remove place => w.dropNode place
  | .reload | .snapshot => w

/-- The files after some events. -/
def filesAfter (w : Workspace) (events : List Event) : Workspace := events.foldl Event.changed w

/-- Files, a live library of one of them, and the snapshots that were taken of it. -/
structure Course where
  files : Workspace
  live : LiveLibrary
  taken : List Snapshot := []

namespace Course

/-- How a course goes on with an event. -/
def next (c : Course) (event : Event) : Course where
  files := event.changed c.files
  live := match event with
    | .reload => (c.live.reload c.files).value.1
    | _ => c.live
  taken := match event with
    | .snapshot => c.taken ++ [c.live.current]
    | _ => c.taken

/-- The course of events that starts with a new library. -/
def run (path : Option Path) (w : Workspace) (events : List Event) : Course :=
  events.foldl next ⟨w, { path }, []⟩

end Course

/-- A load is the last one among events that succeeded: no reload after it did. -/
def IsLastLoad (path : Option Path) (w : Workspace) (events : List Event)
    (loaded : Library.Loaded) : Prop :=
  ∃ earlier later, events = earlier ++ .reload :: later
    ∧ loaded? path (filesAfter w earlier) = some loaded
    ∧ ∀ between rest, later = between ++ .reload :: rest →
      loaded? path (filesAfter w (earlier ++ .reload :: between)) = none

/-- No reload among events succeeded. -/
def IsNeverLoaded (path : Option Path) (w : Workspace) (events : List Event) : Prop :=
  ∀ earlier later, events = earlier ++ .reload :: later →
    loaded? path (filesAfter w earlier) = none

/-! ## One reload -/

/-- A reload puts in place what the pattern file gives, as a whole, or changes nothing. -/
theorem reload_eq (live : LiveLibrary) (w : Workspace) :
    match loaded? live.path w with
    | some loaded =>
      (live.reload w).value = ({ live with current := .ofLoaded loaded }, .ok ())
    | none => ∃ e, (live.reload w).value = (live, .error e)
        ∧ (live.path = none → e = .noFile) := by
  cases path : live.path with
  | none => exact ⟨.noFile, by simp [reload, path], fun _ => rfl⟩
  | some p =>
    cases outcome : (PatternFile.load w p).value with
    | error e =>
      have missing : loaded? (some p) w = none := by simp [loaded?, outcome, Except.toOption]
      rw [missing]
      exact ⟨.file e, by simp [reload, path, outcome], nofun⟩
    | ok loaded =>
      have found : loaded? (some p) w = some loaded := by
        simp [loaded?, outcome, Except.toOption]
      rw [found]
      simp [reload, path, outcome]

theorem reload_of_loaded? {live : LiveLibrary} {w : Workspace} {loaded : Library.Loaded}
    (found : loaded? live.path w = some loaded) :
    (live.reload w).value = ({ live with current := .ofLoaded loaded }, .ok ()) := by
  have outcome := live.reload_eq w
  rwa [found] at outcome

/-- A reload that fails leaves the library, the reports and the index as they are. -/
theorem reload_of_not_loaded {live : LiveLibrary} {w : Workspace}
    (missing : loaded? live.path w = none) :
    ∃ e, (live.reload w).value = (live, .error e) ∧ (live.path = none → e = .noFile) := by
  have outcome := live.reload_eq w
  rwa [missing] at outcome

/-! ## A course of events -/

namespace Course

theorem run_concat (path : Option Path) (w : Workspace) (events : List Event) (event : Event) :
    run path w (events ++ [event]) = (run path w events).next event := by
  rw [run, List.foldl_concat, run]

theorem files_run (path : Option Path) (w : Workspace) (events : List Event) :
    (run path w events).files = filesAfter w events := by
  induction events using List.reverseRecOn with
  | nil => rfl
  | append_singleton events event ih =>
    rw [run_concat, filesAfter, List.foldl_concat]
    exact congrArg (Event.changed · event) ih

/-- The library keeps its pattern file. -/
theorem path_run (path : Option Path) (w : Workspace) (events : List Event) :
    (run path w events).live.path = path := by
  induction events using List.reverseRecOn with
  | nil => rfl
  | append_singleton events event ih =>
    rw [run_concat]
    cases event with
    | write | remove | snapshot => exact ih
    | reload =>
      show ((run path w events).live.reload (run path w events).files).value.1.path = path
      have outcome := (run path w events).live.reload_eq (run path w events).files
      split at outcome
      · rw [outcome]
        exact ih
      · obtain ⟨e, failed, -⟩ := outcome
        rw [failed]
        exact ih

/-- Snapshots that were taken stay, whatever happens afterwards. -/
theorem taken_run_prefix (path : Option Path) (w : Workspace) (earlier later : List Event) :
    (run path w earlier).taken <+: (run path w (earlier ++ later)).taken := by
  induction later using List.reverseRecOn with
  | nil => simp
  | append_singleton later event ih =>
    rw [← List.append_assoc, run_concat]
    cases event with
    | snapshot => exact ih.trans (List.prefix_append _ _)
    | write | remove | reload => exact ih

theorem current_run_concat (path : Option Path) (w : Workspace) (events : List Event)
    (event : Event) :
    (run path w (events ++ [event])).live.current =
      match event, loaded? path (filesAfter w events) with
      | .reload, some loaded => .ofLoaded loaded
      | _, _ => (run path w events).live.current := by
  rw [run_concat]
  cases event with
  | write | remove | snapshot => rfl
  | reload =>
    show ((run path w events).live.reload (run path w events).files).value.1.current = _
    cases found : loaded? path (filesAfter w events) with
    | some loaded =>
      have now : loaded? (run path w events).live.path (run path w events).files = some loaded := by
        rw [path_run, files_run, found]
      rw [reload_of_loaded? now]
    | none =>
      have now : loaded? (run path w events).live.path (run path w events).files = none := by
        rw [path_run, files_run, found]
      obtain ⟨e, failed, -⟩ := reload_of_not_loaded now
      rw [failed]

end Course

theorem isNeverLoaded_concat_iff {path : Option Path} {w : Workspace} {events : List Event}
    {event : Event} :
    IsNeverLoaded path w (events ++ [event]) ↔
      IsNeverLoaded path w events
        ∧ (event = .reload → loaded? path (filesAfter w events) = none) := by
  unfold IsNeverLoaded
  simp only [concat_eq_append_cons_iff]
  constructor
  · intro never
    refine ⟨fun earlier later split => never earlier _ (.inr ⟨later, rfl, split⟩), ?_⟩
    intro reload
    exact never events [] (.inl ⟨reload, rfl, rfl⟩)
  · rintro ⟨before, last⟩ earlier later (⟨reload, rfl, -⟩ | ⟨between, -, split⟩)
    · exact last reload
    · exact before earlier between split

/-- Of events and one more the last load is the one more, if that is a reload and succeeds, and that
of the events before otherwise. -/
theorem isLastLoad_concat_iff {path : Option Path} {w : Workspace} {events : List Event}
    {event : Event} {loaded : Library.Loaded} :
    IsLastLoad path w (events ++ [event]) loaded ↔
      (event = .reload ∧ loaded? path (filesAfter w events) = some loaded)
        ∨ (IsLastLoad path w events loaded
          ∧ (event = .reload → loaded? path (filesAfter w events) = none)) := by
  constructor
  · rintro ⟨earlier, later, split, found, after⟩
    rcases concat_eq_append_cons_iff.mp split with ⟨reload, rfl, rfl⟩ | ⟨between, rfl, rfl⟩
    · exact .inl ⟨reload, found⟩
    · refine .inr ⟨⟨earlier, between, rfl, found, ?_⟩, ?_⟩
      · rintro before rest rfl
        exact after before (rest ++ [event]) (by simp)
      · rintro rfl
        exact after between [] rfl
  · rintro (⟨rfl, found⟩ | ⟨⟨earlier, later, rfl, found, after⟩, last⟩)
    · exact ⟨events, [], rfl, found, by simp⟩
    · refine ⟨earlier, later ++ [event], by simp, found, ?_⟩
      intro between rest split
      rcases concat_eq_append_cons_iff.mp split with ⟨reload, rfl, -⟩ | ⟨before, -, same⟩
      · exact last reload
      · exact after between before same

/-- After any events the library is that of the last load that succeeded. -/
theorem current_of_isLastLoad {path : Option Path} {w : Workspace} {events : List Event}
    {loaded : Library.Loaded} (last : IsLastLoad path w events loaded) :
    (Course.run path w events).live.current = .ofLoaded loaded := by
  induction events using List.reverseRecOn with
  | nil =>
    obtain ⟨earlier, later, split, -⟩ := last
    simp at split
  | append_singleton events event ih =>
    rw [Course.current_run_concat]
    rcases isLastLoad_concat_iff.mp last with ⟨rfl, found⟩ | ⟨before, failed⟩
    · simp only [found]
    · cases event with
      | write | remove | snapshot => exact ih before
      | reload =>
        simp only [failed rfl]
        exact ih before

theorem current_of_isNeverLoaded {path : Option Path} {w : Workspace} {events : List Event}
    (never : IsNeverLoaded path w events) : (Course.run path w events).live.current = {} := by
  induction events using List.reverseRecOn with
  | nil => rfl
  | append_singleton events event ih =>
    obtain ⟨before, failed⟩ := isNeverLoaded_concat_iff.mp never
    rw [Course.current_run_concat]
    cases event with
    | write | remove | snapshot => exact ih before
    | reload =>
      simp only [failed rfl]
      exact ih before

/-- Some reload was the last one that succeeded, or none did. -/
theorem isNeverLoaded_or_exists_isLastLoad (path : Option Path) (w : Workspace)
    (events : List Event) :
    IsNeverLoaded path w events ∨ ∃ loaded, IsLastLoad path w events loaded := by
  induction events using List.reverseRecOn with
  | nil => exact .inl fun earlier later split => by simp at split
  | append_singleton events event ih =>
    by_cases failed : event = .reload → loaded? path (filesAfter w events) = none
    · rcases ih with never | ⟨loaded, last⟩
      · exact .inl (isNeverLoaded_concat_iff.mpr ⟨never, failed⟩)
      · exact .inr ⟨loaded, isLastLoad_concat_iff.mpr (.inr ⟨last, failed⟩)⟩
    · obtain ⟨reload, found⟩ := Classical.not_imp.mp failed
      obtain ⟨loaded, found⟩ := Option.ne_none_iff_exists'.mp found
      exact .inr ⟨loaded, isLastLoad_concat_iff.mpr (.inl ⟨reload, found⟩)⟩

/-- The snapshot of a live library, and the ones that were taken of it, after any events.  It is
made of the library, the reports and the index of the last load that succeeded, or of an empty
library if none did, and one of these is always so.  A reload that fails, as each does without a
pattern file, changes nothing of it, and no change of files does.  A snapshot that was taken is
still the one of that time after whatever follows, and its index finds for every line what its own
library does. -/
theorem current_eq_last_load (path : Option Path) (w : Workspace) (events : List Event) :
    (∀ loaded, IsLastLoad path w events loaded →
        (Course.run path w events).live.current =
          ⟨loaded.library, loaded.diagnostics, .ofLibrary loaded.library⟩)
      ∧ (IsNeverLoaded path w events →
        (Course.run path w events).live.current = ⟨{}, [], .ofLibrary {}⟩)
      ∧ (IsNeverLoaded path w events ∨ ∃ loaded, IsLastLoad path w events loaded)
      ∧ (∀ live : LiveLibrary, ∀ files e, (live.reload files).value.2 = .error e →
        (live.reload files).value.1 = live)
      ∧ (∀ live : LiveLibrary, ∀ files, live.path = none →
        (live.reload files).value = (live, .error .noFile))
      ∧ (∀ place content,
        (Course.run path w (events ++ [.write place content])).live =
            (Course.run path w events).live
          ∧ (Course.run path w (events ++ [.remove place])).live = (Course.run path w events).live)
      ∧ ∀ earlier later, events = earlier ++ .snapshot :: later →
        ∃ held, (Course.run path w events).taken[(Course.run path w earlier).taken.length]? =
            some held
          ∧ held = (Course.run path w earlier).live.current
          ∧ ∀ line, held.index.match? line = held.library.match? line := by
  refine ⟨fun _ => current_of_isLastLoad, current_of_isNeverLoaded,
    isNeverLoaded_or_exists_isLastLoad path w events, ?_, ?_, ?_, ?_⟩
  · intro live files e failed
    have outcome := live.reload_eq files
    split at outcome
    · rw [outcome] at failed
      cases failed
    · obtain ⟨_, unchanged, -⟩ := outcome
      rw [unchanged]
  · intro live files missing
    have outcome := live.reload_eq files
    rw [missing] at outcome
    obtain ⟨e, unchanged, same⟩ := outcome
    rw [unchanged, same rfl]
  · intro place content
    rw [Course.run_concat, Course.run_concat]
    exact ⟨rfl, rfl⟩
  · rintro earlier later rfl
    refine ⟨_, ?_, rfl, ?_⟩
    · have kept := Course.taken_run_prefix path w (earlier ++ [.snapshot]) later
      rw [List.append_assoc, List.singleton_append] at kept
      rw [List.prefix_iff_getElem?.mp kept _ (by simp [Course.run_concat, Course.next])]
      simp [Course.run_concat, Course.next]
    · intro line
      rcases isNeverLoaded_or_exists_isLastLoad path w earlier with never | ⟨loaded, last⟩
      · rw [current_of_isNeverLoaded never]
        rfl
      · rw [current_of_isLastLoad last]
        rfl

end LiveLibrary

end LogTemplate
