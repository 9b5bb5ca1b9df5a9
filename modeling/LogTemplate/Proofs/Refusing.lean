import Mathlib.Data.List.Forall2

/-!
# Computations that may refuse

When one step after another succeeds, and when it refuses.
-/

namespace LogTemplate

variable {ε ε' α β : Type}

/-- A step that succeeds goes on with what it gives. -/
theorem ok_bind (a : α) (next : α → Except ε β) : (Except.ok a >>= next) = next a := rfl

/-- What is left besides an outcome that is no refusal. -/
theorem eq_of_isOk {x : α × Except ε Unit} (done : x.2.isOk = true) : x = (x.1, .ok ()) := by
  obtain ⟨a, outcome⟩ := x
  cases outcome with
  | error e => cases done
  | ok _ => rfl

theorem exists_eq_of_isOk {x : α × Except ε Unit} (refused : x.2.isOk = false) :
    ∃ e, x = (x.1, .error e) := by
  obtain ⟨a, outcome⟩ := x
  cases outcome with
  | error e => exact ⟨e, rfl⟩
  | ok _ => cases refused

/-- Two steps succeed if the first does, and the second does on what the first gives. -/
theorem bind_eq_ok_iff {first : Except ε α} {next : α → Except ε β} {result : β} :
    (first >>= next) = .ok result ↔ ∃ middle, first = .ok middle ∧ next middle = .ok result := by
  cases first with
  | error e => simp [bind, Except.bind]
  | ok middle => simp [bind, Except.bind]

/-- Two steps refuse if the first does, or the second does on what the first gives. -/
theorem bind_eq_error_iff {first : Except ε α} {next : α → Except ε β} {error : ε} :
    (first >>= next) = .error error ↔
      first = .error error ∨ ∃ middle, first = .ok middle ∧ next middle = .error error := by
  cases first with
  | error e => simp [bind, Except.bind]
  | ok middle => simp [bind, Except.bind]

/-- Something is made of what a step gives if the step succeeds. -/
theorem exists_bind_ok_iff {first : Except ε α} {make : α → β} :
    (∃ b, (first >>= fun a => Except.ok (make a)) = .ok b) ↔ ∃ a, first = .ok a := by
  cases first with
  | error e => simp [bind, Except.bind]
  | ok a => simp [bind, Except.bind]

/-- Items are dealt with if the first one is, and then the others. -/
theorem mapM_cons_eq_ok_iff {f : α → Except ε β} {a : α} {l : List α} {found : List β} :
    (a :: l).mapM f = .ok found ↔
      ∃ b rest, f a = .ok b ∧ l.mapM f = .ok rest ∧ found = b :: rest := by
  rw [List.mapM_cons, bind_eq_ok_iff]
  simp only [bind_eq_ok_iff]
  constructor
  · rintro ⟨b, first, rest, others, whole⟩
    exact ⟨b, rest, first, others, (Except.ok.inj whole).symm⟩
  · rintro ⟨b, rest, first, others, rfl⟩
    exact ⟨b, first, rest, others, rfl⟩

/-- Items are dealt with one by one. -/
theorem mapM_eq_ok_iff {f : α → Except ε β} {l : List α} {found : List β} :
    l.mapM f = .ok found ↔ l.Forall₂ (fun a b => f a = .ok b) found := by
  induction l generalizing found with
  | nil =>
    rw [List.mapM_nil, List.forall₂_nil_left_iff]
    exact ⟨fun same => (Except.ok.inj same).symm, fun same => congrArg Except.ok same.symm⟩
  | cons a l ih =>
    rw [mapM_cons_eq_ok_iff, List.forall₂_cons_left_iff]
    simp only [ih]

/-- What is made of an item is at its place. -/
theorem exists_getElem?_of_mapM {f : α → Except ε β} {l : List α} {found : List β}
    (all : l.mapM f = .ok found) {i : Nat} {a : α} (present : l[i]? = some a) :
    ∃ b, f a = .ok b ∧ found[i]? = some b := by
  induction l generalizing found i with
  | nil => cases present
  | cons first l ih =>
    obtain ⟨b, rest, own, others, rfl⟩ := mapM_cons_eq_ok_iff.mp all
    cases i with
    | zero => exact ⟨b, Option.some.inj present ▸ own, rfl⟩
    | succ i => exact ih others present

/-- What is made of a result is there if the result is. -/
theorem map_eq_ok_iff {make : α → β} {found : Except ε α} {result : β} :
    found.map make = .ok result ↔ ∃ value, found = .ok value ∧ make value = result := by
  cases found with
  | error e => simp [Except.map]
  | ok value => simp [Except.map]

/-- A refusal in other words is a refusal of the same thing. -/
theorem mapError_eq_error_iff {reword : ε → ε'} {found : Except ε α} {error : ε'} :
    found.mapError reword = .error error ↔
      ∃ cause, found = .error cause ∧ reword cause = error := by
  cases found with
  | error cause =>
    show (.error (reword cause) : Except ε' α) = .error error ↔ _
    simp
  | ok value =>
    show (.ok value : Except ε' α) = .error error ↔ _
    simp

theorem mapError_eq_ok_iff {reword : ε → ε'} {found : Except ε α} {value : α} :
    found.mapError reword = .ok value ↔ found = .ok value := by
  cases found with
  | error cause =>
    show (.error (reword cause) : Except ε' α) = .ok value ↔ _
    simp
  | ok given =>
    show (.ok given : Except ε' α) = .ok value ↔ _
    simp

/-! ## What computations refuse with -/

variable {P : ε → Prop}

/-- What a computation refuses with, if it does, is of one kind. -/
structure RefusesWith (P : ε → Prop) (x : Except ε α) : Prop where
  of_eq : ∀ {e}, x = .error e → P e

theorem refusesWith_ok (a : α) : RefusesWith P (.ok a : Except ε α) := ⟨nofun⟩

theorem refusesWith_error {e : ε} (kind : P e) : RefusesWith P (.error e : Except ε α) :=
  ⟨fun same => Except.error.inj same ▸ kind⟩

theorem RefusesWith.mono {Q : ε → Prop} {x : Except ε α} (refuses : RefusesWith P x)
    (weaker : ∀ e, P e → Q e) : RefusesWith Q x :=
  ⟨fun refused => weaker _ (refuses.of_eq refused)⟩

/-- What follows a step is asked only about what the step can give. -/
theorem RefusesWith.bind_of_ok {first : Except ε α} {next : α → Except ε β}
    (start : RefusesWith P first) (further : ∀ a, first = .ok a → RefusesWith P (next a)) :
    RefusesWith P (first >>= next) := by
  refine ⟨fun refused => ?_⟩
  rcases bind_eq_error_iff.mp refused with refused | ⟨a, given, refused⟩
  · exact start.of_eq refused
  · exact (further a given).of_eq refused

theorem RefusesWith.bind {first : Except ε α} {next : α → Except ε β}
    (start : RefusesWith P first) (further : ∀ a, RefusesWith P (next a)) :
    RefusesWith P (first >>= next) := start.bind_of_ok fun a _ => further a

theorem RefusesWith.map {found : Except ε α} (refuses : RefusesWith P found) (make : α → β) :
    RefusesWith P (found.map make) := by
  cases found with
  | error e => exact refusesWith_error (refuses.of_eq rfl)
  | ok a => exact refusesWith_ok (make a)

theorem refusesWith_ite {c : Prop} [Decidable c] {x y : Except ε α} (yes : RefusesWith P x)
    (no : RefusesWith P y) : RefusesWith P (if c then x else y) := by
  split
  · exact yes
  · exact no

theorem refusesWith_getD {e : ε} (kind : P e) (found : Option α) :
    RefusesWith P ((found.map Except.ok).getD (.error e)) := by
  cases found with
  | none => exact refusesWith_error kind
  | some a => exact refusesWith_ok a

theorem refusesWith_mapM {f : α → Except ε β} (step : ∀ a, RefusesWith P (f a)) (l : List α) :
    RefusesWith P (l.mapM f) := by
  induction l with
  | nil => exact refusesWith_ok _
  | cons a l ih =>
    rw [List.mapM_cons]
    exact (step a).bind fun _ => ih.bind fun _ => refusesWith_ok _

theorem refusesWith_foldlM {f : β → α → Except ε β} (step : ∀ b a, RefusesWith P (f b a))
    (l : List α) (b : β) : RefusesWith P (l.foldlM f b) := by
  induction l generalizing b with
  | nil => exact refusesWith_ok _
  | cons a l ih =>
    rw [List.foldlM_cons]
    exact (step b a).bind ih

theorem refusesWith_forIn {f : α → β → Except ε (ForInStep β)}
    (step : ∀ a b, RefusesWith P (f a b)) (l : List α) (b : β) :
    RefusesWith P (forIn l b f) := by
  induction l generalizing b with
  | nil => exact refusesWith_ok _
  | cons a l ih =>
    rw [List.forIn_cons]
    refine (step a b).bind fun next => ?_
    cases next with
    | done b => exact refusesWith_ok _
    | yield b => exact ih b

/-- A step that is only taken on a condition, with what follows in either case. -/
theorem refusesWith_guard {c : Prop} [Decidable c] {stop : Except ε α} {rest : Except ε β}
    (first : RefusesWith P stop) (further : RefusesWith P rest) :
    RefusesWith P (if c then stop >>= fun _ => rest else rest) :=
  refusesWith_ite (first.bind fun _ => further) further

end LogTemplate
