import LogTemplate.Text.Blank
import LogTemplate.Text.Split
import LogTemplate.Proofs.Text.Munch

/-!
# Texts cut and put together

Cutting a text at a character and joining the parts are inverse to each other, and trimming takes
away blanks alone.
-/

namespace LogTemplate.Text

section

variable {α : Type} [DecidableEq α]

/-- Cutting is the list library's own. -/
theorem splitOn_eq (mark : α) (s : List α) : splitOn mark s = s.splitOn mark := by
  induction s with
  | nil => rfl
  | cons c rest ih =>
    rw [List.splitOn_cons_eq_if_modifyHead, ← ih]
    cases parts : splitOn mark rest with
    | nil =>
      rw [parts] at ih
      exact absurd ih.symm (List.splitOn_ne_nil mark rest)
    | cons part others => by_cases equal : c = mark <;> simp [splitOn, parts, equal]

theorem intercalate_splitOn (mark : α) (s : List α) :
    [mark].intercalate (splitOn mark s) = s := by
  rw [splitOn_eq, List.intercalate_splitOn]

/-- Parts without the mark in them are the parts of the text that they make. -/
theorem splitOn_intercalate {mark : α} {parts : List (List α)}
    (unmarked : ∀ part ∈ parts, mark ∉ part) (filled : parts ≠ []) :
    splitOn mark ([mark].intercalate parts) = parts := by
  rw [splitOn_eq, List.splitOn_intercalate mark unmarked filled]

/-- The first mark of a text is where it is cut in two. -/
theorem splitAt?_append {mark : α} {before after : List α} (unmarked : mark ∉ before) :
    splitAt? mark (before ++ mark :: after) = some (before, after) := by
  induction before with
  | nil => simp [splitAt?]
  | cons c rest ih =>
    have different : ¬ c = mark := fun equal => unmarked (by simp [equal])
    have tail : mark ∉ rest := fun member => unmarked (by simp [member])
    simp [splitAt?, different, ih tail]

end

/-- Whatever stands in joined parts stands in one of them or in the mark between them. -/
theorem mem_of_mem_intercalate {α : Type} {a : α} {mark : List α} {parts : List (List α)}
    (member : a ∈ mark.intercalate parts) : a ∈ mark ∨ ∃ part ∈ parts, a ∈ part := by
  induction parts with
  | nil => cases member
  | cons part parts ih =>
    cases parts with
    | nil =>
      rw [List.intercalate_singleton] at member
      exact .inr ⟨part, List.mem_cons_self, member⟩
    | cons next parts =>
      rw [List.intercalate_cons_cons, List.mem_append, List.mem_append] at member
      rcases member with (here | between) | later
      · exact .inr ⟨part, List.mem_cons_self, here⟩
      · exact .inl between
      · rcases ih later with between | ⟨found, known, inside⟩
        · exact .inl between
        · exact .inr ⟨found, List.mem_cons_of_mem part known, inside⟩

/-- A character of a text is a blank that trimming takes away on the left, or is kept. -/
theorem mem_trimLeft_or_blank {s : List CodePoint} {c : CodePoint} (member : c ∈ s) :
    isBlank c = true ∨ c ∈ trimLeft s := by
  induction s with
  | nil => cases member
  | cons first rest ih =>
    unfold trimLeft
    by_cases blank : isBlank first = true
    · rw [List.dropWhile_cons_of_pos blank]
      rcases List.mem_cons.mp member with rfl | inside
      · exact .inl blank
      · exact ih inside
    · rw [List.dropWhile_cons_of_neg blank]
      exact .inr member

/-- Trimming takes nothing but blanks away. -/
theorem mem_trim_or_blank {s : List CodePoint} {c : CodePoint} (member : c ∈ s) :
    isBlank c = true ∨ c ∈ trim s := by
  rcases mem_trimLeft_or_blank member with blank | kept
  · exact .inl blank
  · rcases mem_trimLeft_or_blank (List.mem_reverse.mpr kept) with blank | keptRight
    · exact .inl blank
    · exact .inr (List.mem_reverse.mpr keptRight)

theorem trim_of_not_blank {s : List CodePoint} (filled : ∀ c ∈ s, isBlank c = false) :
    trim s = s := by
  have reversed : ∀ c ∈ s.reverse, isBlank c = false := by
    intro c member
    exact filled c (List.mem_reverse.mp member)
  rw [trim, trimLeft, trimRight,
    dropWhile_eq_self fun c head => filled c (List.mem_of_mem_head? head),
    dropWhile_eq_self fun c head => reversed c (List.mem_of_mem_head? head), List.reverse_reverse]

/-- Trimming takes the blanks around a text away, if it neither starts nor ends with one. -/
theorem trim_blanks {before inside behind : List CodePoint} {first last : CodePoint}
    (leading : ∀ c ∈ before, isBlank c = true) (trailing : ∀ c ∈ behind, isBlank c = true)
    (opening : isBlank first = false) (closing : isBlank last = false) :
    trim (before ++ (first :: (inside ++ [last]) ++ behind)) = first :: (inside ++ [last]) := by
  have left : trimLeft (before ++ (first :: (inside ++ [last]) ++ behind)) =
      first :: (inside ++ [last]) ++ behind := by
    rw [trimLeft, List.dropWhile_append_of_pos leading, List.cons_append,
      List.dropWhile_cons_of_neg (by simp [opening])]
  have backwards : (first :: (inside ++ [last]) ++ behind).reverse =
      behind.reverse ++ last :: (first :: inside).reverse := by simp
  have blank : ∀ c ∈ behind.reverse, isBlank c = true := fun c member =>
    trailing c (List.mem_reverse.mp member)
  rw [trim, left, trimRight, backwards, List.dropWhile_append_of_pos blank,
    List.dropWhile_cons_of_neg (by simp [closing])]
  simp

end LogTemplate.Text
