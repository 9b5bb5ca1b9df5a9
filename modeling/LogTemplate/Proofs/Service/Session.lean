import LogTemplate.Proofs.Entry
import LogTemplate.Proofs.Library.Live
import LogTemplate.Proofs.Service.Request

/-!
# Sessions with the service

Around a service files change, and clients send requests.  Main statement: what the service says
about itself agrees at any time, and only a load that succeeds changes what it says.
-/

namespace LogTemplate

/-- No half stands alone in what is shown of a pattern. -/
structure Pattern.IsWhole (p : Pattern) : Prop where
  name : Text.isWhole p.name.toList = true
  source : Text.isWhole p.template.source.toList = true
  tags : ∀ tag ∈ p.tags, Text.isWhole tag.toList = true

namespace Service

/-- No half stands alone in the list of the patterns exactly if none does in them. -/
theorem isWhole_patternList_iff {s : Snapshot} :
    (patternList s).isWhole = true ↔ ∀ p ∈ s.library.patterns, p.IsWhole := by
  rw [patternList, Json.isWhole_list, List.all_map, List.all_eq_true]
  refine forall₂_congr fun p _ => ?_
  have keys : ∀ key ∈ ["uuid", "name", "pattern", "tags", "test_messages"],
      Text.isWhole (Text.toList key) = true := fun _ _ => Text.isWhole_map_char _
  simp only [List.forall_mem_cons] at keys
  have text (t : Text) : (Document.text t).isWhole = Text.isWhole t.toList := Bool.and_true _
  have number : (count p.examples.length).isWhole = true := rfl
  have members : (patternItem p).isWhole = true ↔ Text.isWhole p.name.toList = true
      ∧ Text.isWhole p.template.source.toList = true ∧ (Document.ofTags p.tags).isWhole = true := by
    rw [patternItem, Json.isWhole_mapping]
    simp only [List.all_cons, keys, text, p.uuid.isWhole_text, number, List.all_nil, Bool.and_true,
      Bool.true_and, Bool.and_eq_true]
  rw [Function.comp_apply, members, Entry.isWhole_ofTags_iff]
  exact ⟨fun ⟨name, source, tags⟩ => ⟨name, source, tags⟩,
    fun whole => ⟨whole.name, whole.source, whole.tags⟩⟩

/-- Files, a service with its live library, and how many workers match its lines. -/
structure Session where
  files : Workspace
  live : LiveLibrary
  workers : Int

/-- What happens around a service. -/
inductive Event where
  | write (place : List String) (content : LogTemplate.Content)
  | remove (place : List String)
  /-- The watch on the pattern file has the library loaded again. -/
  | settle
  | request (request : Request)

namespace Session

/-- What the service answers to a request. -/
def answer [Nesting] (s : Session) (r : Request) : Except Error Response :=
  (Service.answer s.live s.files s.workers r).value.2

/-- How a session goes on with an event. -/
def next [Nesting] (s : Session) : Event → Session
  | .write place content => { s with files := s.files.write place content }
  | .remove place => { s with files := s.files.dropNode place }
  | .settle => { s with live := (s.live.reload s.files).value.1 }
  | .request r => { s with live := (Service.answer s.live s.files s.workers r).value.1 }

/-- A session after some events. -/
def after [Nesting] (s : Session) (events : List Event) : Session := events.foldl next s

/-- The service says of itself, wherever it is asked, that it has so many patterns and so many
reports on them, but does not answer if a half stands alone in what it would have to show. -/
structure Says [Nesting] (s : Session) (patterns diagnostics : Nat) : Prop where
  health : ∀ r : Request, r.Asks .health → s.answer r = .ok (.ok (.mapping [
    ("status", .text (if diagnostics = 0 then "ok" else "degraded")),
    ("patterns", count patterns), ("diagnostics", count diagnostics)]))
  patterns : ∀ r : Request, r.Asks .patterns →
    ((∀ p ∈ s.live.current.library.patterns, p.IsWhole) →
      ∃ items, s.answer r = .ok (.ok (.list items)) ∧ items.length = patterns)
    ∧ ((¬ ∀ p ∈ s.live.current.library.patterns, p.IsWhole) →
      ∃ stray, s.answer r = .error (.unencodable stray))
  validation : ∀ r : Request, r.Asks .validate →
    ((Service.validation s.live.current).isWhole = true →
      ∃ d reports, s.answer r = .ok (.ok d) ∧ d.get? "diagnostics" = some (.list reports)
        ∧ reports.length = diagnostics)
    ∧ ((Service.validation s.live.current).isWhole ≠ true →
      ∃ stray, s.answer r = .error (.unencodable stray))

/-- What is said are the numbers of the snapshot that the service has. -/
theorem says_current [Nesting] (s : Session) :
    s.Says s.live.current.library.size s.live.current.diagnostics.length where
  health r asks := by
    rw [answer, answer_of_asks asks]
    cases reports : s.live.current.diagnostics <;> simp [respond, health, reports]
  patterns r asks := by
    rw [answer, answer_of_asks asks, ← isWhole_patternList_iff]
    exact ⟨fun whole => ⟨_, sent_of_isWhole whole, List.length_map _⟩, exists_stray_of_sent⟩
  validation r asks := by
    rw [answer, answer_of_asks asks]
    exact ⟨fun whole => ⟨_, _, sent_of_isWhole whole, rfl, List.length_map _⟩,
      exists_stray_of_sent⟩

/-- A request that is none for a reload leaves the session as it is. -/
theorem next_of_not_asks [Nesting] {s : Session} {r : Request} (other : ¬ r.Asks .reload) :
    s.next (.request r) = s := by
  rw [next, live_answer other]

/-- A reload succeeds and says what the service has then, or leaves the session as it is. -/
theorem next_of_asks_reload [Nesting] {s : Session} {r : Request} (asks : r.Asks .reload) :
    (∃ snapshot, s.next (.request r) = { s with live := { s.live with current := snapshot } }
        ∧ s.answer r = .ok (.ok (reloaded snapshot)))
      ∨ s.next (.request r) = s
        ∧ ∀ response, s.answer r = .ok response → response.status = 500 := by
  rw [next, answer, answer_of_asks asks, respond, reload, Logged.value_bind]
  cases found : LiveLibrary.loaded? s.live.path s.files with
  | some loaded =>
    rw [LiveLibrary.reload_of_loaded? found]
    exact .inl ⟨.ofLoaded loaded, rfl, rfl⟩
  | none =>
    obtain ⟨e, failed, -⟩ := LiveLibrary.reload_of_not_loaded found
    rw [failed]
    cases failure : e.fileFailure? with
    | none =>
      simp only [failure]
      exact .inr ⟨rfl, fun _ answered => by cases answered⟩
    | some cause =>
      simp only [failure]
      exact .inr ⟨rfl, fun _ answered => by cases answered; rfl⟩

/-- Whatever files and library a session starts with, after any events the answers on the health,
the patterns and the examples of the library agree on its numbers of patterns and reports, and it is
healthy exactly if nothing is reported; only on the health is there always an answer.  A reload that
succeeds says the same two numbers as these answers then.  Without a request that only reads, or one
for lines, or one for a reload that fails, every later request would be answered alike, whatever
happens in between.  The paths of the routes are URLs of what they give. -/
theorem answers_agree_and_persist [Nesting] (s : Session) (events : List Event) :
    (∀ route body, (⟨route.method, route.path, body⟩ : Request).Asks route)
      ∧ (∃ patterns diagnostics, (s.after events).Says patterns diagnostics)
      ∧ (∀ r : Request, r.Asks .reload → ∀ response, (s.after events).answer r = .ok response →
        response.status = 200 → ∃ patterns diagnostics,
          (s.after (events ++ [.request r])).Says patterns diagnostics
            ∧ response = .ok (.mapping [("ok", .bool true), ("patterns", count patterns),
              ("diagnostics", count diagnostics)]))
      ∧ ∀ r : Request, (r.method = "GET" ∨ r.Asks .parse
          ∨ r.Asks .reload ∧ ∀ response, (s.after events).answer r = .ok response →
            response.status = 500) →
        ∀ (later : List Event) (asked : Request),
          (s.after (events ++ .request r :: later)).answer asked =
            (s.after (events ++ later)).answer asked := by
  refine ⟨Request.asks_path, ⟨_, _, says_current _⟩, ?_, ?_⟩
  · intro r asks response answered succeeds
    have step : s.after (events ++ [.request r]) = (s.after events).next (.request r) := by
      rw [after, List.foldl_concat, after]
    rcases next_of_asks_reload (s := s.after events) asks with ⟨snapshot, now, said⟩ | ⟨-, failed⟩
    · refine ⟨_, _, says_current _, ?_⟩
      rw [step, now]
      rw [said] at answered
      cases answered
      rfl
    · rw [failed response answered] at succeeds
      cases succeeds
  · intro r harmless later asked
    have same : (s.after events).next (.request r) = s.after events := by
      rcases harmless with reads | lines | ⟨reloads, fails⟩
      · refine next_of_not_asks fun asks => ?_
        rw [asks.2] at reads
        exact absurd reads (by decide)
      · refine next_of_not_asks fun asks => ?_
        have routes := lines.1.symm.trans asks.1
        cases routes
      · rcases next_of_asks_reload reloads with ⟨snapshot, -, said⟩ | ⟨unchanged, -⟩
        · cases fails _ said
        · exact unchanged
    have continued : s.after (events ++ .request r :: later) = s.after (events ++ later) := by
      simp only [after, List.foldl_append, List.foldl_cons]
      rw [show List.foldl next s events = s.after events from rfl, same]
    rw [continued]

/-- A service that has not loaded its pattern file, which holds that record in ASCII. -/
def halfSession : Session where
  files := { nodes := [(["", "p.json"],
    .file (.bytes (Text.Utf8.encodeText (Json.write Json.ascii (.list Library.halfRecords)))))] }
  live := { path := some (.ofText "p.json") }
  workers := 1

/-- Once it has loaded the file, the service is healthy and says that it has one pattern, but it
does not list it. -/
theorem patterns_unanswered :
    letI := Nesting.usual
    (halfSession.after [.request ⟨"POST", "/reload", none⟩]).answer ⟨"GET", "/health", none⟩ =
        .ok (.ok (.mapping [("status", .text "ok"), ("patterns", count 1),
          ("diagnostics", count 0)]))
      ∧ ∃ stray, (halfSession.after [.request ⟨"POST", "/reload", none⟩]).answer
        ⟨"GET", "/patterns", none⟩ = .error (.unencodable stray) := by
  let := Nesting.usual
  have known : LiveLibrary.loaded? halfSession.live.path halfSession.files =
      some (Library.load Library.halfRecords) := by
    have file : halfSession.live.path = some (.ofText "p.json") := rfl
    rw [file, LiveLibrary.loaded?, Option.bind_some,
      PatternFile.load_halfRecords rfl rfl]
    rfl
  have now : (halfSession.after [.request ⟨"POST", "/reload", none⟩]).live.current =
      .ofLoaded (Library.load Library.halfRecords) := by
    have asks : (⟨"POST", "/reload", none⟩ : Request).Asks .reload := Request.asks_path .reload none
    rw [after, List.foldl_cons, List.foldl_nil, next, answer_of_asks asks, respond, reload,
      Logged.value_bind, LiveLibrary.reload_of_loaded? known]
    rfl
  have size : (Snapshot.ofLoaded (Library.load Library.halfRecords)).library.size = 1 := by
    decide +kernel
  have reports : (Snapshot.ofLoaded (Library.load Library.halfRecords)).diagnostics.length = 0 := by
    decide +kernel
  have name : ⟨[CodePoint.ofNat 0xD800]⟩ ∈
      (Snapshot.ofLoaded (Library.load Library.halfRecords)).library.patterns.map (·.name) := by
    decide +kernel
  obtain ⟨p, known, name⟩ := List.mem_map.mp name
  have said := says_current (halfSession.after [.request ⟨"POST", "/reload", none⟩])
  rw [now, size, reports] at said
  refine ⟨said.health _ (Request.asks_path .health none),
    (said.patterns _ (Request.asks_path .patterns none)).2 fun whole => ?_⟩
  rw [now] at whole
  have broken := (whole p known).name
  rw [name] at broken
  exact Bool.false_ne_true broken

end Session

end Service

end LogTemplate
