import Mathlib.Data.List.Basic

/-!
# Courses of events

Facts about events and one more, with which a course of events is followed step by step.
-/

namespace LogTemplate

variable {α : Type}

/-- Splitting off one of some events and one more: it is that one, or among those before. -/
theorem concat_eq_append_cons_iff {events earlier later : List α} {last event : α} :
    events ++ [last] = earlier ++ event :: later ↔
      (last = event ∧ earlier = events ∧ later = [])
        ∨ ∃ between, later = between ++ [last] ∧ events = earlier ++ event :: between := by
  constructor
  · intro split
    rcases List.eq_nil_or_concat' later with rfl | ⟨between, final, rfl⟩
    · obtain ⟨same, final⟩ := List.append_singleton_inj.mp split
      exact .inl ⟨final, same.symm, rfl⟩
    · rw [← List.cons_append, ← List.append_assoc] at split
      obtain ⟨same, rfl⟩ := List.append_singleton_inj.mp split
      exact .inr ⟨between, rfl, same⟩
  · rintro (⟨rfl, rfl, rfl⟩ | ⟨between, rfl, rfl⟩)
    · rfl
    · simp

/-- Counting places among events and one more, by what happens there and by the events before. -/
theorem countP_range_concat (p : List α → Option α → Bool) (events : List α) (event : α) :
    ((List.range (events ++ [event]).length).countP fun i =>
        p ((events ++ [event]).take i) (events ++ [event])[i]?) =
      ((List.range events.length).countP fun i => p (events.take i) events[i]?)
        + if p events (some event) then 1 else 0 := by
  rw [List.length_append, List.length_singleton, List.range_succ, List.countP_append,
    List.countP_singleton, List.take_left, List.getElem?_concat_length]
  congr 1
  refine List.countP_congr fun i member => ?_
  have before : i < events.length := List.mem_range.mp member
  rw [List.take_append_of_le_length (Nat.le_of_lt before), List.getElem?_append_left before]

end LogTemplate
