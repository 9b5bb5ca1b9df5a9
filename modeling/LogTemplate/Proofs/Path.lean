import LogTemplate.Path
import LogTemplate.Proofs.Text.Split

/-!
# Paths, written and read

Main statement: a path that has been read is read again from its written form.
-/

namespace LogTemplate

namespace Text

theorem splitOn_cons_self (mark : Char) (s : List Char) :
    splitOn mark (mark :: s) = [] :: splitOn mark s := by
  rw [splitOn_eq, splitOn_eq, List.splitOn_cons_eq_if_modifyHead, if_pos (beq_self_eq_true mark)]

theorem not_mem_of_mem_splitOn {mark : Char} {s part : List Char}
    (member : part ∈ splitOn mark s) : mark ∉ part := by
  induction s generalizing part with
  | nil =>
    rw [splitOn, List.mem_singleton] at member
    exact member ▸ List.not_mem_nil
  | cons c s ih =>
    rw [splitOn] at member
    split at member
    · rw [List.mem_singleton.mp member]
      exact List.not_mem_nil
    · rename_i first parts found
      split at member
      · rcases List.mem_cons.mp member with rfl | member
        · exact List.not_mem_nil
        · exact ih (found ▸ member)
      · rename_i other
        rcases List.mem_cons.mp member with rfl | member
        · exact List.not_mem_cons_of_ne_of_not_mem (Ne.symm other)
            (ih (found ▸ List.mem_cons_self))
        · exact ih (found ▸ List.mem_cons_of_mem first member)

end Text

namespace Path

open Text

/-- Whether a part of a text counts as a name. -/
def isName (part : List Char) : Bool := part ≠ [] && part ≠ ['.']

/-- The names in a text. -/
def namesIn (s : List Char) : List (List Char) := (splitOn '/' s).filter isName

theorem ofText_eq (text : String) :
    ofText text = ⟨rootOf text.toList, (namesIn text.toList).map String.ofList⟩ := rfl

/-- Slashes in front are no part of the names. -/
theorem namesIn_slash (s : List Char) : namesIn ('/' :: s) = namesIn s := by
  rw [namesIn, splitOn_cons_self, List.filter_cons_of_neg (by decide), namesIn]

theorem namesIn_intercalate {names : List (List Char)}
    (proper : ∀ name ∈ names, isName name = true) (unmarked : ∀ name ∈ names, '/' ∉ name) :
    namesIn (['/'].intercalate names) = names := by
  rcases eq_or_ne names [] with rfl | filled
  · rfl
  · rw [namesIn, splitOn_intercalate unmarked filled, List.filter_eq_self.mpr proper]

/-- A text that is written after a root does not go on with a slash. -/
theorem head?_intercalate_ne {names : List (List Char)}
    (proper : ∀ name ∈ names, isName name = true) (unmarked : ∀ name ∈ names, '/' ∉ name) :
    (['/'].intercalate names).head? ≠ some '/' := by
  rcases names with - | ⟨name, names⟩
  · nofun
  · rcases name with - | ⟨c, name⟩
    · exact absurd (proper [] List.mem_cons_self) (by decide)
    · have other : c ≠ '/' := fun same => unmarked _ List.mem_cons_self (same ▸ List.mem_cons_self)
      cases names <;> simpa [List.intercalate_cons_cons] using other

theorem rootOf_append {root : String} {rest : List Char}
    (known : root = "" ∨ root = "/" ∨ root = "//") (other : rest.head? ≠ some '/') :
    rootOf (root.toList ++ rest) = root := by
  have none : rest.takeWhile (· == '/') = [] := by
    rcases rest with - | ⟨c, rest⟩
    · rfl
    · exact List.takeWhile_cons_of_neg (by simpa using other)
  rcases known with rfl | rfl | rfl <;> simp [rootOf, none]

theorem rootOf_eq (s : List Char) : rootOf s = "" ∨ rootOf s = "/" ∨ rootOf s = "//" := by
  rw [rootOf]
  split <;> simp

/-- A path that has been read is read again from its written form. -/
theorem ofText_text (text : String) : ofText (ofText text).text = ofText text := by
  have proper : ∀ name ∈ namesIn text.toList, isName name = true :=
    fun name member => (List.mem_filter.mp member).2
  have unmarked : ∀ name ∈ namesIn text.toList, '/' ∉ name :=
    fun name member => not_mem_of_mem_splitOn (List.mem_filter.mp member).1
  have known := rootOf_eq text.toList
  rw [ofText_eq text]
  generalize rootOf text.toList = root at known
  generalize namesIn text.toList = names at proper unmarked
  rw [Path.text]
  split
  · -- A path with neither a root nor names is written as a dot.
    rename_i empty
    rw [Bool.and_eq_true, String.isEmpty_iff, List.isEmpty_iff, List.map_eq_nil_iff] at empty
    obtain ⟨rfl, rfl⟩ := empty
    rfl
  · have written : (root ++ "/".intercalate (names.map String.ofList)).toList =
        root.toList ++ ['/'].intercalate names := by
      simp [Function.comp_def]
    have same : namesIn (root.toList ++ ['/'].intercalate names) = names := by
      rcases known with rfl | rfl | rfl
      · exact namesIn_intercalate proper unmarked
      · exact (namesIn_slash _).trans (namesIn_intercalate proper unmarked)
      · exact (namesIn_slash _).trans ((namesIn_slash _).trans
          (namesIn_intercalate proper unmarked))
    rw [ofText_eq, written, same, rootOf_append known (head?_intercalate_ne proper unmarked)]

end Path

end LogTemplate
