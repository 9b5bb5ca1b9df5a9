import Mathlib.Data.List.TakeWhile

/-!
# Longest runs of characters

A text is cut before its first character outside a class.  The part in front of the cut is known
by its characters and by the character that follows it, and so is the part behind; and it is the
longest text at the front that lies in the class.
-/

namespace LogTemplate.Text

variable {α : Type} {p : α → Bool}

/-- What holds of each character of a text is checked on one after the other. -/
theorem forall_mem_of_all {P : α → Prop} [DecidablePred P] {s : List α}
    (all : s.all (fun c => decide (P c)) = true) : ∀ c ∈ s, P c := by
  intro c member
  exact of_decide_eq_true (List.all_eq_true.mp all c member)

theorem mem_takeWhile {s : List α} {c : α} (member : c ∈ s.takeWhile p) : p c = true := by
  have all := List.all_takeWhile (p := p) (l := s)
  exact List.all_eq_true.mp all c member

theorem takeWhile_eq_nil {s : List α} (stops : ∀ c ∈ s.head?, p c = false) :
    s.takeWhile p = [] := by
  cases s with
  | nil => rfl
  | cons c rest => simp [stops c rfl]

theorem dropWhile_eq_self {s : List α} (stops : ∀ c ∈ s.head?, p c = false) :
    s.dropWhile p = s := by
  cases s with
  | nil => rfl
  | cons c rest => simp [stops c rfl]

/-- Characters of a class, up to the first one outside it, are what is in front of the cut. -/
theorem takeWhile_append_of_stops {run after : List α} (inside : ∀ c ∈ run, p c = true)
    (stops : ∀ c ∈ after.head?, p c = false) : (run ++ after).takeWhile p = run := by
  rw [List.takeWhile_append_of_pos inside, takeWhile_eq_nil stops, List.append_nil]

theorem dropWhile_append_of_stops {run after : List α} (inside : ∀ c ∈ run, p c = true)
    (stops : ∀ c ∈ after.head?, p c = false) : (run ++ after).dropWhile p = after := by
  rw [List.dropWhile_append_of_pos inside, dropWhile_eq_self stops]

/-- A part of a text is in front of the cut exactly when it lies in the class and the character
that follows it does not. -/
theorem takeWhile_append_eq_iff {run after : List α} :
    (run ++ after).takeWhile p = run ↔
      (∀ c ∈ run, p c = true) ∧ ∀ c ∈ after.head?, p c = false := by
  constructor
  · intro cut
    have inside : ∀ c ∈ run, p c = true := by
      intro c member
      rw [← cut] at member
      exact mem_takeWhile member
    refine ⟨inside, ?_⟩
    rw [List.takeWhile_append_of_pos inside, List.append_right_eq_self] at cut
    intro c head
    cases after with
    | nil => simp at head
    | cons first rest =>
      obtain rfl : first = c := by simpa using head
      cases outside : p first with
      | false => rfl
      | true => simp [outside] at cut
  · rintro ⟨inside, stops⟩
    exact takeWhile_append_of_stops inside stops

/-! ## The longest text at the front -/

/-- Of the texts at the front of another that have a property, the longest. -/
structure IsLongest (holds : List α → Prop) (s front : List α) : Prop where
  leads : front <+: s
  has : holds front
  longest : ∀ other, other <+: s → holds other → other.length ≤ front.length

/-- Characters of a class at the front of a text are in front of the cut. -/
theorem leads_takeWhile {run s : List α} (inside : ∀ c ∈ run, p c = true) (leads : run <+: s) :
    run <+: s.takeWhile p := by
  obtain ⟨after, rfl⟩ := leads
  rw [List.takeWhile_append_of_pos inside]
  exact List.prefix_append run _

theorem isLongest_takeWhile (p : α → Bool) (s : List α) :
    IsLongest (fun run => ∀ c ∈ run, p c = true) s (s.takeWhile p) where
  leads := List.takeWhile_prefix p
  has := fun _ member => mem_takeWhile member
  longest := fun _ leads inside => (leads_takeWhile inside leads).length_le

/-- The longest is empty exactly if no other text at the front has the property. -/
theorem IsLongest.eq_nil_iff {holds : List α → Prop} {s front : List α}
    (isLongest : IsLongest holds s front) :
    front = [] ↔ ∀ other, other <+: s → holds other → other = [] := by
  constructor
  · rintro rfl other leads has
    exact List.eq_nil_of_length_eq_zero (Nat.le_zero.mp (isLongest.longest other leads has))
  · intro none
    exact none front isLongest.leads isLongest.has

end LogTemplate.Text
