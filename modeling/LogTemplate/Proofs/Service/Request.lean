import LogTemplate.Proofs.Refusing
import LogTemplate.Proofs.Text.Utf8
import LogTemplate.Service

/-!
# Requests and routes

Which route a request leads to, and what is answered then.  Main statements: the path of a route is
a URL of what the route gives, and only a request for a reload changes the library.
-/

namespace LogTemplate

namespace Text

theorem percentDecode_of_not_mem {s : List Char} (plain : '%' ∉ s) :
    percentDecode s = Utf8.encode s := by
  induction s with
  | nil => rfl
  | cons c s ih =>
    rw [List.mem_cons, not_or] at plain
    have other : c ≠ '%' := fun same => plain.1 same.symm
    rw [percentDecode.eq_def]
    simp [other, ih plain.2, Utf8.encode]

end Text

namespace Service

/-- A path without percent signs stands for itself. -/
theorem resolved_of_not_mem {path : List Char} (plain : '%' ∉ path) :
    Url.resolved path = path := by
  simp only [Url.resolved, Text.percentDecode_of_not_mem plain, Text.Utf8.decodeReplacing_encode]

/-- The path of a route is a URL that leads to it. -/
theorem pathOf_path (route : Route) :
    Url.pathOf route.path.toList = .ok route.path.toList := by
  have read : Url.ofText route.path.toList = .ok { path := route.path.toList } := by
    cases route with
    | page page => cases page <;> rfl
    | _ => rfl
  have here : Url.onService { path := route.path.toList } = .ok { path := route.path.toList } := by
    cases route with
    | page page => cases page <;> rfl
    | _ => rfl
  have isRelative : Url.isRelative { path := route.path.toList } = true := rfl
  have plain : '%' ∉ route.path.toList := by
    cases route with
    | page page => cases page <;> decide
    | _ => decide
  rw [Url.pathOf, read, ok_bind, if_pos isRelative, here, ok_bind]
  exact congrArg Except.ok (resolved_of_not_mem plain)

namespace Request

/-- The route that a request leads to. -/
def route? (r : Request) : Option Route := (Url.pathOf r.url.toList).toOption.bind Route.ofPath?

/-- A request asks for what a route gives: it leads there with the route's own method. -/
def Asks (r : Request) (route : Route) : Prop :=
  r.route? = some route ∧ r.method = route.method

theorem asks_path (route : Route) (body : Option String) :
    (⟨route.method, route.path, body⟩ : Request).Asks route := by
  have leads : Route.ofPath? route.path.toList = some route := by
    cases route with
    | page page => cases page <;> decide
    | _ => decide
  refine ⟨?_, rfl⟩
  rw [route?, pathOf_path]
  exact leads

end Request

/-- A document is sent if no half in it stands alone. -/
theorem sent_of_isWhole {d : Document} (whole : d.isWhole = true) :
    Response.sent d = .ok (.ok d) := by
  have none : d.texts.findSome? (Text.stray? ·.toList) = none :=
    List.findSome?_eq_none_iff.mpr fun t member =>
      Text.stray?_eq_none_iff.mpr (List.all_eq_true.mp whole t member)
  rw [Response.sent, none]

/-- A document in which a half stands alone is not sent. -/
theorem exists_stray_of_sent {d : Document} (broken : d.isWhole ≠ true) :
    ∃ stray, Response.sent d = .error (.unencodable stray) := by
  rw [Response.sent]
  cases found : d.texts.findSome? (Text.stray? ·.toList) with
  | some stray => exact ⟨stray, rfl⟩
  | none =>
    refine absurd (List.all_eq_true.mpr fun t member => ?_) broken
    exact Text.stray?_eq_none_iff.mp (List.findSome?_eq_none_iff.mp found t member)

variable [Nesting] {live : LiveLibrary} {w : Workspace} {workers : Int} {r : Request}

/-- A request that asks for what a route gives is answered by the route. -/
theorem answer_of_asks {route : Route} (asks : r.Asks route) :
    (answer live w workers r).value = (respond live w workers r.body route).value := by
  obtain ⟨leads, method⟩ := asks
  have takes : route.takes r.method = true := by
    rw [Route.takes, method, beq_self_eq_true, Bool.true_or]
  have whole : (r.method == "HEAD") = false := by
    rw [method]
    cases route <;> rfl
  rw [Request.route?] at leads
  rw [answer]
  cases url : Url.pathOf r.url.toList with
  | error e =>
    rw [url] at leads
    cases leads
  | ok path =>
    rw [url] at leads
    have found : Route.ofPath? path = some route := leads
    simp [found, takes, whole]

/-- Only a reload changes the library. -/
theorem live_respond {body : Option String} {route : Route} (other : route ≠ .reload) :
    (respond live w workers body route).value.1 = live := by
  cases route with
  | reload => exact absurd rfl other
  | _ => rfl

/-- Only a request for a reload changes the library. -/
theorem live_answer (other : ¬ r.Asks .reload) : (answer live w workers r).value.1 = live := by
  rw [answer]
  cases url : Url.pathOf r.url.toList with
  | error e => rfl
  | ok path =>
    cases found : Route.ofPath? path with
    | none => simp only [found, Logged.value_pure]
    | some route =>
      by_cases takes : route.takes r.method = true
      · have notReload : route ≠ .reload := by
          rintro rfl
          have leads : r.route? = some .reload := by
            rw [Request.route?, url]
            exact found
          exact other ⟨leads, by simpa [Route.takes, Route.hasHead] using takes⟩
        simp [found, takes, live_respond notReload]
      · simp [found, takes]

end Service

end LogTemplate
