import LogTemplate.InputFile
import LogTemplate.Proofs.Text.Lines
import LogTemplate.Proofs.Text.Utf8
import Mathlib.Data.List.DropRight

/-!
# Input files, line by line

A text is a row of finished lines and perhaps an unfinished one.  Main statement: the lines that are
read from a file are numbered without gaps, and together they are its text with every line end made
a line feed, but for the last one; so nothing but line ends is lost.
-/

namespace LogTemplate

namespace Text

/-! ## Line ends made line feeds -/

/-- The text in which every carriage return with a line feed behind it, together with it, is a line
feed. -/
def joinPairs : List CodePoint → List CodePoint
  | [] => []
  | .char '\r' :: .char '\n' :: rest => .char '\n' :: joinPairs rest
  | c :: rest => c :: joinPairs rest

/-- The text in which every such pair, and then every carriage return that is left, is a line
feed. -/
def withFeeds (s : List CodePoint) : List CodePoint :=
  (joinPairs s).map fun (c : CodePoint) => if c = '\r' then '\n' else c

theorem unifyBreaks_eq_withFeeds (s : List CodePoint) : unifyBreaks s = withFeeds s := by
  fun_induction unifyBreaks s with
  | case1 => rfl
  | case2 rest ih => rw [ih, withFeeds, withFeeds, joinPairs, List.map_cons, if_neg (by decide)]
  | case3 c rest single ih =>
    rw [ih, withFeeds, withFeeds, joinPairs.eq_3 c rest single, List.map_cons]

theorem return_not_mem_withFeeds (s : List CodePoint) : .char '\r' ∉ withFeeds s := by
  intro member
  obtain ⟨c, -, same⟩ := List.mem_map.mp member
  split at same
  · exact absurd same (by decide)
  · rename_i other
    exact other same

/-! ## Finished lines and an unfinished one -/

/-- A text is finished lines and, if it does not end in a line feed, an unfinished one. -/
theorem exists_ended_append (s : List CodePoint) :
    ∃ all last, s = ended all ++ last ∧ (∀ line ∈ all, .char '\n' ∉ line) ∧ .char '\n' ∉ last := by
  induction s with
  | nil => exact ⟨[], [], rfl, by simp, by simp⟩
  | cons c s ih =>
    obtain ⟨all, last, rfl, whole, unfinished⟩ := ih
    by_cases feed : c = '\n'
    · subst feed
      exact ⟨[] :: all, last, by simp [ended_cons], by simpa using whole, unfinished⟩
    · cases all with
      | nil => exact ⟨[], c :: last, rfl, by simp, by simp [Ne.symm feed, unfinished]⟩
      | cons line all =>
        rw [List.forall_mem_cons] at whole
        refine ⟨(c :: line) :: all, last, by simp [ended_cons], ?_, unfinished⟩
        exact List.forall_mem_cons.mpr ⟨by simp [Ne.symm feed, whole.1], whole.2⟩

variable {all : List (List CodePoint)} {last : List CodePoint}

/-- An unfinished line counts if it is not empty. -/
theorem lines_ended_append (whole : ∀ line ∈ all, .char '\n' ∉ line)
    (unfinished : .char '\n' ∉ last) :
    lines (ended all ++ last) = all ++ if last = [] then [] else [last] := by
  induction all with
  | nil =>
    induction last with
    | nil => rfl
    | cons c last ih =>
      rw [List.mem_cons, not_or] at unfinished
      have rest := ih unfinished.2
      rw [ended, List.flatMap_nil, List.nil_append, List.nil_append] at rest ⊢
      rw [lines_cons (Ne.symm unfinished.1), rest, if_neg (List.cons_ne_nil c last)]
      split <;> simp [*]
  | cons line all ih =>
    rw [List.forall_mem_cons] at whole
    rw [ended_cons, List.append_assoc, List.cons_append, lines_append whole.1, ih whole.2,
      List.cons_append]

theorem count_ended (whole : ∀ line ∈ all, .char '\n' ∉ line) :
    (ended all).count (.char '\n') = all.length := by
  induction all with
  | nil => rfl
  | cons line all ih =>
    rw [List.forall_mem_cons] at whole
    rw [ended_cons, List.count_append, List.count_cons_self, ih whole.2,
      List.count_eq_zero_of_not_mem whole.1, List.length_cons, Nat.zero_add]

/-- Finished lines and an unfinished one, with line feeds between them, are the text. -/
theorem intercalate_append_singleton (all : List (List CodePoint)) (last : List CodePoint) :
    [.char '\n'].intercalate (all ++ [last]) = ended all ++ last := by
  induction all with
  | nil =>
    rw [List.nil_append, List.intercalate_singleton, ended, List.flatMap_nil, List.nil_append]
  | cons line all ih =>
    rw [List.cons_append, List.intercalate_cons_of_ne_nil (by simp), ih, ended_cons]
    simp

theorem ended_append_singleton (all : List (List CodePoint)) (line : List CodePoint) :
    ended (all ++ [line]) = ended all ++ line ++ [.char '\n'] := by
  rw [ended, List.flatMap_append, ← ended, List.flatMap_singleton, List.append_assoc]

/-! ## What the lines of a text are -/

/-- The text without the line feed that ends it, if one does. -/
def dropLastFeed (s : List CodePoint) : List CodePoint :=
  if s.getLast? = some (.char '\n') then s.dropLast else s

/-- The lines with line feeds between them are the text without the line feed that ends it. -/
theorem intercalate_lines (s : List CodePoint) :
    [.char '\n'].intercalate (lines s) = dropLastFeed s := by
  obtain ⟨all, last, rfl, whole, unfinished⟩ := exists_ended_append s
  rw [lines_ended_append whole unfinished, dropLastFeed]
  by_cases finished : last = []
  · subst finished
    rw [if_pos rfl, List.append_nil, List.append_nil]
    rcases List.eq_nil_or_concat' all with rfl | ⟨front, line, rfl⟩
    · rfl
    · rw [intercalate_append_singleton, ended_append_singleton, if_pos (by simp),
        List.dropLast_concat]
  · have open_ : (ended all ++ last).getLast? ≠ some (.char '\n') := by
      rw [List.getLast?_append_of_ne_nil _ finished]
      exact fun feed => unfinished (List.mem_of_getLast? feed)
    rw [if_neg finished, if_neg open_, intercalate_append_singleton]

/-- There are as many lines as line feeds, and one more if the text goes on behind the last one. -/
theorem length_lines (s : List CodePoint) :
    (lines s).length =
      s.count (.char '\n') + if s = [] ∨ s.getLast? = some (.char '\n') then 0 else 1 := by
  obtain ⟨all, last, rfl, whole, unfinished⟩ := exists_ended_append s
  rw [lines_ended_append whole unfinished, List.length_append, List.count_append, count_ended whole,
    List.count_eq_zero_of_not_mem unfinished, Nat.add_zero]
  by_cases finished : last = []
  · subst finished
    have ends : ended all ++ [] = [] ∨ (ended all ++ []).getLast? = some (.char '\n') := by
      rcases List.eq_nil_or_concat' all with rfl | ⟨front, line, rfl⟩
      · exact .inl rfl
      · exact .inr (by simp [ended_append_singleton])
    rw [if_pos rfl, if_pos ends, List.length_nil]
  · have goesOn :
        ¬ (ended all ++ last = [] ∨ (ended all ++ last).getLast? = some (.char '\n')) := by
      rw [List.getLast?_append_of_ne_nil _ finished]
      rintro (none | feed)
      · exact finished (List.append_eq_nil_iff.mp none).2
      · exact unfinished (List.mem_of_getLast? feed)
    rw [if_neg finished, if_neg goesOn, List.length_singleton]

/-- A line is a part of the text without line feeds. -/
theorem forall_mem_lines {s line : List CodePoint} (member : line ∈ lines s) :
    .char '\n' ∉ line ∧ ∀ c ∈ line, c ∈ s := by
  obtain ⟨all, last, rfl, whole, unfinished⟩ := exists_ended_append s
  rw [lines_ended_append whole unfinished, List.mem_append] at member
  rcases member with known | known
  · refine ⟨whole line known, fun c inside => List.mem_append_left last ?_⟩
    exact List.mem_flatMap.mpr ⟨line, known, List.mem_append_left _ inside⟩
  · split at known
    · cases known
    · obtain rfl := List.mem_singleton.mp known
      exact ⟨unfinished, fun c inside => List.mem_append_right _ inside⟩

/-- Whether the character is a line feed or a carriage return. -/
def isEnd (c : CodePoint) : Bool := c == '\n' || c == '\r'

theorem rdropWhile_isEnd_cons {c : CodePoint} (other : isEnd c = false) (line : List CodePoint) :
    (c :: line).rdropWhile isEnd = c :: line.rdropWhile isEnd := by
  rw [List.rdropWhile, List.rdropWhile, List.reverse_cons, List.dropWhile_append]
  split
  · rename_i gone
    rw [List.isEmpty_iff.mp gone, List.dropWhile_cons_of_neg (by simp [other])]
    rfl
  · rw [List.reverse_append]
    rfl

/-- In a text without carriage returns a line is what is left of one with its end when all line
feeds and carriage returns at the end are taken away: there is one at most. -/
theorem lines_eq_map_rdropWhile {s : List CodePoint} (unbroken : .char '\r' ∉ s) :
    lines s = (linesWithEnds s).map (List.rdropWhile isEnd) := by
  induction s with
  | nil => rfl
  | cons c s ih =>
    rw [List.mem_cons, not_or] at unbroken
    have rest := ih unbroken.2
    by_cases feed : c = '\n'
    · rw [lines, linesWithEnds, if_pos feed, if_pos feed, rest, feed]
      rfl
    · have other : isEnd c = false := by simp [isEnd, feed, Ne.symm unbroken.1]
      rw [lines, linesWithEnds, if_neg feed, if_neg feed, rest]
      cases linesWithEnds s with
      | nil => rw [List.map_nil, List.map_singleton, rdropWhile_isEnd_cons other]; rfl
      | cons line found => rw [List.map_cons, List.map_cons, rdropWhile_isEnd_cons other]

end Text

namespace InputFile

theorem value_linesLogged (w : Workspace) (p : Path) :
    (linesLogged w p).value = lines w p := by
  rw [linesLogged]
  split
  · rename_i known
    rw [known]
    rfl
  · rename_i failed
    rw [failed]
    split <;> rfl

/-- Nothing is logged about a file whose lines are read. -/
theorem linesLogged_of_ok {w : Workspace} {p : Path} {found : List (List CodePoint)}
    (known : lines w p = .ok found) : linesLogged w p = pure (.ok found) := by
  rw [linesLogged, known]

/-- The lines that were written to a file are read from it. -/
theorem linesOf_ended {all : List (List CodePoint)} (finished : ∀ line ∈ all, .char '\n' ∉ line)
    (unbroken : ∀ line ∈ all, .char '\r' ∉ line) (whole : ∀ line ∈ all, Text.isWhole line = true) :
    linesOf (Text.Utf8.encodeText (Text.ended all)) = all := by
  rw [linesOf, Text.Utf8.decodeReplacing_encodeText (Text.isWhole_ended whole),
    Text.fileLines_ended finished unbroken]

theorem value_readLogged (w : Workspace) (p : Path) : (readLogged w p).value = lines w p := by
  rw [readLogged, Logged.value_bind, value_linesLogged]
  cases lines w p <;> rfl

/-- Numbered lines that keep a text: the numbers count from one; each line is what is left of one of
the text with its line ends made line feeds, when that line's end is taken away, and has no line end
in it; with line feeds between them the lines are that text but for the line feed at its end; and
there are as many of them as line feeds, and one more if the text goes on behind the last one. -/
structure KeepsText (s : List CodePoint) (rows : List (Nat × List CodePoint)) : Prop where
  numbers : rows.map Prod.fst = List.range' 1 rows.length
  ends : rows.map Prod.snd =
    (Text.linesWithEnds (Text.withFeeds s)).map (List.rdropWhile Text.isEnd)
  unbroken : ∀ row ∈ rows, .char '\n' ∉ row.2 ∧ .char '\r' ∉ row.2
  joined : [.char '\n'].intercalate (rows.map Prod.snd) = Text.dropLastFeed (Text.withFeeds s)
  length : rows.length = (Text.withFeeds s).count (.char '\n')
    + if Text.withFeeds s = [] ∨ (Text.withFeeds s).getLast? = some (.char '\n') then 0 else 1

/-- Lines are numbered as they are. -/
theorem map_snd_numbered (found : List (List CodePoint)) :
    (found.zipIdx.map fun (line, index) => (index + 1, line)).map Prod.snd = found := by
  rw [List.map_map]
  exact List.zipIdx_map_fst 0 found

theorem keepsText_fileLines (s : List CodePoint) :
    KeepsText s ((Text.fileLines s).zipIdx.map fun (line, index) => (index + 1, line)) := by
  have lines := map_snd_numbered (Text.fileLines s)
  have same : Text.fileLines s = Text.lines (Text.withFeeds s) := by
    rw [Text.fileLines, Text.unifyBreaks_eq_withFeeds]
  constructor
  · have places : (Text.fileLines s).zipIdx.map Prod.snd =
        List.range' 0 (Text.fileLines s).length := List.zipIdx_map_snd 0 _
    have shifted := List.map_add_range' (a := 1) 0 (Text.fileLines s).length 1
    rw [List.length_map, List.length_zipIdx, List.map_map, ← shifted, ← places, List.map_map]
    exact List.map_congr_left fun row _ => Nat.add_comm row.2 1
  · rw [lines, same, Text.lines_eq_map_rdropWhile (Text.return_not_mem_withFeeds s)]
  · intro row member
    have known := List.mem_map_of_mem (f := Prod.snd) member
    rw [lines, same] at known
    obtain ⟨whole, inside⟩ := Text.forall_mem_lines known
    exact ⟨whole, fun back => Text.return_not_mem_withFeeds s (inside _ back)⟩
  · rw [lines, same, Text.intercalate_lines]
  · rw [List.length_map, List.length_zipIdx, same, Text.length_lines]

/-- A file is read line by line or all at once with the same lines or the same error.  If there is
something to read, the lines keep its text. -/
theorem numbered_keepsText (w : Workspace) (p : Path) :
    (readLogged w p).value = (numbered w p).map (List.map Prod.snd)
      ∧ ∀ content, w.read p = .ok content → ∃ rows, numbered w p = .ok rows
        ∧ KeepsText ((Text.Utf8.decodeReplacing content.toBytes).map .char) rows := by
  constructor
  · rw [value_readLogged, numbered]
    cases lines w p with
    | error e => rfl
    | ok found => exact congrArg Except.ok (map_snd_numbered found).symm
  · intro content read
    refine ⟨_, ?_, keepsText_fileLines _⟩
    rw [numbered, lines, read]
    rfl

example : Text.fileLines (Text.toList "a\r\r\nb\u2028c\n") =
    [Text.toList "a", [], Text.toList "b\u2028c"] := by
  decide

end InputFile

end LogTemplate
