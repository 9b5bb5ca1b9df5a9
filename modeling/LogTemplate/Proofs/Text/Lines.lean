import LogTemplate.Text.Blank
import LogTemplate.Text.Lines
import Mathlib.Data.List.Basic

/-!
# Lines, written and read

Main statements: lines that are written one after the other, each with a line feed at its end, are
the lines that are read from a file; and the lines of a text at hand, but for empty ones, are what
stands between its breaks.
-/

namespace LogTemplate.Text

/-- Lines, each with a line feed at its end. -/
def ended (all : List (List CodePoint)) : List CodePoint := all.flatMap (· ++ [.char '\n'])

theorem ended_cons (line : List CodePoint) (all : List (List CodePoint)) :
    ended (line :: all) = line ++ .char '\n' :: ended all := by
  rw [ended, List.flatMap_cons, List.append_assoc, List.singleton_append, ended]

theorem not_mem_ended {all : List (List CodePoint)} {c : CodePoint}
    (absent : ∀ line ∈ all, c ∉ line)
    (other : c ≠ '\n') : c ∉ ended all := by
  intro member
  obtain ⟨line, known, inside⟩ := List.mem_flatMap.mp member
  rcases List.mem_append.mp inside with inside | inside
  · exact absent line known inside
  · exact other (List.mem_singleton.mp inside)

theorem isWhole_ended {all : List (List CodePoint)} (whole : ∀ line ∈ all, isWhole line = true) :
    isWhole (ended all) = true := by
  rw [isWhole, ended, List.all_flatMap, List.all_eq_true]
  intro line known
  exact (isWhole_append line _).trans (Bool.and_eq_true_iff.mpr ⟨whole line known, rfl⟩)

theorem unifyBreaks_of_not_mem {s : List CodePoint} (absent : .char '\r' ∉ s) :
    unifyBreaks s = s := by
  induction s with
  | nil => rfl
  | cons c s ih =>
    rw [List.mem_cons, not_or] at absent
    have other : c ≠ '\r' := fun same => absent.1 same.symm
    rw [unifyBreaks.eq_def]
    simp [other, ih absent.2]

/-- A text without line feeds is a line of its own, once a line feed ends it. -/
theorem lines_append {line rest : List CodePoint} (whole : .char '\n' ∉ line) :
    lines (line ++ .char '\n' :: rest) = line :: lines rest := by
  induction line with
  | nil => rfl
  | cons c line ih =>
    rw [List.mem_cons, not_or] at whole
    rw [List.cons_append, lines, if_neg (Ne.symm whole.1), ih whole.2]

theorem linesWithEnds_append {line rest : List CodePoint} (whole : .char '\n' ∉ line) :
    linesWithEnds (line ++ .char '\n' :: rest) = (line ++ [.char '\n']) :: linesWithEnds rest := by
  induction line with
  | nil => rfl
  | cons c line ih =>
    rw [List.mem_cons, not_or] at whole
    rw [List.cons_append, linesWithEnds, if_neg (Ne.symm whole.1), ih whole.2]
    rfl

theorem lines_ended {all : List (List CodePoint)} (whole : ∀ line ∈ all, .char '\n' ∉ line) :
    lines (ended all) = all := by
  induction all with
  | nil => rfl
  | cons line all ih =>
    rw [List.forall_mem_cons] at whole
    rw [ended_cons, lines_append whole.1, ih whole.2]

theorem linesWithEnds_ended {all : List (List CodePoint)}
    (whole : ∀ line ∈ all, .char '\n' ∉ line) :
    linesWithEnds (ended all) = all.map (· ++ [.char '\n']) := by
  induction all with
  | nil => rfl
  | cons line all ih =>
    rw [List.forall_mem_cons] at whole
    rw [ended_cons, linesWithEnds_append whole.1, ih whole.2, List.map_cons]

/-- Lines without line ends in them are read from the file that they are written to. -/
theorem fileLines_ended {all : List (List CodePoint)} (whole : ∀ line ∈ all, .char '\n' ∉ line)
    (unbroken : ∀ line ∈ all, .char '\r' ∉ line) : fileLines (ended all) = all := by
  rw [fileLines, unifyBreaks_of_not_mem (not_mem_ended unbroken (by decide)), lines_ended whole]

/-! ## Lines between breaks -/

theorem isBlank_of_isBreak {c : CodePoint} (breaks : isBreak c = true) : isBlank c = true := by
  simp only [isBreak, isBlank, Bool.or_eq_true, Bool.and_eq_true, decide_eq_true_eq,
    beq_iff_eq] at breaks ⊢
  omega

theorem isBreak_eq_false {c : CodePoint} (filled : isBlank c = false) : isBreak c = false := by
  cases breaks : isBreak c
  · rfl
  · simpa [filled] using isBlank_of_isBreak breaks

theorem lines_cons {c : CodePoint} (other : c ≠ '\n') (s : List CodePoint) :
    lines (c :: s) = (c :: (lines s).headD []) :: (lines s).tail := by
  rw [lines, if_neg other]
  cases lines s <;> rfl

theorem splitOnP_cons {p : CodePoint → Bool} {c : CodePoint} (other : p c = false)
    (s : List CodePoint) :
    (c :: s).splitOnP p = (c :: (s.splitOnP p).headD []) :: (s.splitOnP p).tail := by
  rw [List.splitOnP_cons_eq_if_modifyHead, other, if_neg (by decide)]
  cases parts : s.splitOnP p with
  | nil => exact absurd parts (List.splitOnP_ne_nil p s)
  | cons part others => rfl

theorem splitOnP_break {p : CodePoint → Bool} {c : CodePoint} (breaks : p c = true)
    (s : List CodePoint) :
    (c :: s).splitOnP p = [] :: s.splitOnP p := by
  rw [List.splitOnP_cons_eq_if_modifyHead, if_pos breaks]

section

variable {q : List CodePoint → Bool}

theorem filter_eq_of_headD (empty : q [] = false) (l : List (List CodePoint)) :
    l.filter q = [l.headD []].filter q ++ l.tail.filter q := by
  cases l with
  | nil => simp [empty]
  | cons a l => rw [List.headD_cons, List.tail_cons, ← List.filter_append]; rfl

/-- The first lines are the same, and so are the others but for empty ones: a carriage return and
the line feed after it have nothing between them, and at the end there may be nothing behind. -/
theorem headD_and_tail_splitLines (empty : q [] = false) (s : List CodePoint) :
    (splitLines s).headD [] = (s.splitOnP isBreak).headD []
      ∧ (splitLines s).tail.filter q = (s.splitOnP isBreak).tail.filter q := by
  unfold splitLines
  fun_induction unifyAllBreaks s with
  | case1 => exact ⟨rfl, rfl⟩
  | case2 rest ih =>
    rw [splitOnP_break (by decide), splitOnP_break (by decide), lines, if_pos rfl]
    refine ⟨rfl, ?_⟩
    rw [List.tail_cons, List.tail_cons, List.filter_cons_of_neg (by simp [empty]),
      filter_eq_of_headD empty, ih.1, ih.2, ← filter_eq_of_headD empty]
  | case3 c rest _ ih =>
    cases breaks : isBreak c
    · have other : c ≠ '\n' := by
        rintro rfl
        exact absurd breaks (by decide)
      rw [if_neg (by decide), lines_cons other, splitOnP_cons breaks, List.headD_cons,
        List.headD_cons, List.tail_cons, List.tail_cons, ih.1]
      exact ⟨rfl, ih.2⟩
    · rw [if_pos rfl, splitOnP_break breaks, lines, if_pos rfl]
      refine ⟨rfl, ?_⟩
      rw [List.tail_cons, List.tail_cons, filter_eq_of_headD empty, ih.1, ih.2,
        ← filter_eq_of_headD empty]

/-- But for empty ones, the lines of a text at hand are what stands between its breaks. -/
theorem filter_splitLines (empty : q [] = false) (s : List CodePoint) :
    (splitLines s).filter q = (s.splitOnP isBreak).filter q := by
  obtain ⟨first, others⟩ := headD_and_tail_splitLines empty s
  rw [filter_eq_of_headD empty, first, others, ← filter_eq_of_headD empty]

end

theorem exists_mem_splitOnP {p : CodePoint → Bool} {c : CodePoint} {s : List CodePoint}
    (member : c ∈ s)
    (other : p c = false) : ∃ part ∈ s.splitOnP p, c ∈ part := by
  induction s with
  | nil => cases member
  | cons d s ih =>
    cases breaks : p d
    · rw [splitOnP_cons breaks]
      rcases List.mem_cons.mp member with rfl | later
      · exact ⟨_, List.mem_cons_self, List.mem_cons_self⟩
      · obtain ⟨part, known, inside⟩ := ih later
        cases parts : s.splitOnP p with
        | nil => exact absurd parts (List.splitOnP_ne_nil p s)
        | cons first others =>
          rw [parts] at known
          rcases List.mem_cons.mp known with rfl | further
          · exact ⟨_, List.mem_cons_self, List.mem_cons_of_mem d inside⟩
          · exact ⟨part, List.mem_cons_of_mem _ further, inside⟩
    · rw [splitOnP_break breaks]
      rcases List.mem_cons.mp member with rfl | later
      · rw [other] at breaks
        cases breaks
      · obtain ⟨part, known, inside⟩ := ih later
        exact ⟨part, List.mem_cons_of_mem _ known, inside⟩

end LogTemplate.Text
