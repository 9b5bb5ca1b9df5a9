import LogTemplate.Template.Parse

/-!
# The pieces of a template

A text is cut into pieces in one way only.  Whole pieces put together are cut as they were put
together, and every text is whole pieces put together, up to a sign that nothing closes.
-/

namespace LogTemplate.Piece

/-- The text of a piece. -/
def text : Piece → List CodePoint
  | .plain c => [c]
  | .doubled => [.char '@', .char '@']
  | .body s => .char '@' :: (s ++ [.char '@'])
  | .unclosed => [.char '@']

/-- A piece that is complete, and that could not be taken for another one. -/
def IsWhole : Piece → Prop
  | .plain c => c ≠ '@'
  | .doubled => True
  | .body s => s ≠ [] ∧ .char '@' ∉ s
  | .unclosed => False

/-- The text of some pieces. -/
def textAll (pieces : List Piece) : List CodePoint := pieces.flatMap text

@[simp] theorem textAll_nil : textAll [] = [] := rfl

@[simp] theorem textAll_cons (p : Piece) (pieces : List Piece) :
    textAll (p :: pieces) = p.text ++ textAll pieces := rfl

@[simp] theorem textAll_append (pieces more : List Piece) :
    textAll (pieces ++ more) = textAll pieces ++ textAll more := List.flatMap_append

theorem text_ne_nil (p : Piece) : p.text ≠ [] := by cases p <;> simp [text]

/-- The pieces of a text: whole ones, and a sign at the end that nothing closes, if there is one. -/
inductive Cuts : List CodePoint → List Piece → Prop
  | nil : Cuts [] []
  | cons {p : Piece} {rest : List CodePoint} {pieces : List Piece} :
      p.IsWhole → Cuts rest pieces → Cuts (p.text ++ rest) (p :: pieces)
  | unclosed {rest : List CodePoint} : .char '@' ∉ rest → Cuts (.char '@' :: rest) [.unclosed]

/-- Behind a sign, the text up to the next sign is one piece. -/
theorem cut_some_append (seen rest : List CodePoint) {s : List CodePoint} (free : .char '@' ∉ s) :
    cut (some seen) (s ++ .char '@' :: rest) = closed (s.reverse ++ seen) :: cut none rest := by
  induction s generalizing seen with
  | nil => simp [cut]
  | cons c s ih =>
    have different : ¬ c = '@' := fun equal => free (by simp [equal])
    have tail : .char '@' ∉ s := fun member => free (by simp [member])
    simp [cut, different, ih _ tail]

theorem cut_some_of_not_mem (seen : List CodePoint) {s : List CodePoint} (free : .char '@' ∉ s) :
    cut (some seen) s = [.unclosed] := by
  induction s generalizing seen with
  | nil => rfl
  | cons c s ih =>
    have different : ¬ c = '@' := fun equal => free (by simp [equal])
    have tail : .char '@' ∉ s := fun member => free (by simp [member])
    simp [cut, different, ih _ tail]

/-- A whole piece is cut off the text that it stands in front of. -/
theorem cut_text_append {p : Piece} (whole : p.IsWhole) (rest : List CodePoint) :
    cut none (p.text ++ rest) = p :: cut none rest := by
  cases p with
  | plain c =>
    have different : ¬ c = '@' := whole
    simp [text, cut, different]
  | doubled => simp [text, cut, closed]
  | body s =>
    obtain ⟨filled, free⟩ := whole
    have split := cut_some_append [] rest free
    simp [text, cut, split, closed, filled]
  | unclosed => exact absurd whole id

theorem cut_of_cuts {s : List CodePoint} {pieces : List Piece} (cuts : Cuts s pieces) :
    cut none s = pieces := by
  induction cuts with
  | nil => rfl
  | cons whole _ ih => rw [cut_text_append whole, ih]
  | unclosed free => simpa [cut] using cut_some_of_not_mem [] free

/-- The piece that a second sign closes, and what follows it. -/
theorem cuts_closed {seen rest : List CodePoint} {pieces : List Piece} (free : .char '@' ∉ seen)
    (cuts : Cuts rest pieces) :
    Cuts (.char '@' :: (seen.reverse ++ .char '@' :: rest)) (closed seen :: pieces) := by
  cases seen with
  | nil => exact Cuts.cons (p := .doubled) trivial cuts
  | cons c seen =>
    have whole : (Piece.body (c :: seen).reverse).IsWhole := by
      refine ⟨by simp, ?_⟩
      rw [List.mem_reverse]
      exact free
    have more := Cuts.cons whole cuts
    simpa [text, closed] using more

/-- Every text is cut into its pieces; the invariant also tells of the text behind a sign. -/
theorem cuts_cut_state (s : List CodePoint) :
    Cuts s (cut none s) ∧
      ∀ seen, .char '@' ∉ seen → Cuts (.char '@' :: (seen.reverse ++ s)) (cut (some seen) s) := by
  induction s with
  | nil =>
    refine ⟨.nil, ?_⟩
    intro seen free
    refine .unclosed ?_
    simpa using free
  | cons c rest ih =>
    obtain ⟨outside, behind⟩ := ih
    by_cases sign : c = '@'
    · subst sign
      refine ⟨?_, ?_⟩
      · simpa [cut] using behind [] (by simp)
      · intro seen free
        simpa [cut] using cuts_closed free outside
    · refine ⟨?_, ?_⟩
      · have more := Cuts.cons (p := .plain c) sign outside
        simpa [cut, sign, text] using more
      · intro seen free
        -- the text since the sign is kept in reverse
        have later := behind (c :: seen) (by simp [free, Ne.symm sign])
        simpa [cut, sign] using later

/-- A text has the pieces into which it is cut, and no others. -/
theorem cut_eq_iff {s : List CodePoint} {pieces : List Piece} :
    cut none s = pieces ↔ Cuts s pieces := by
  constructor
  · rintro rfl
    exact (cuts_cut_state s).1
  · exact cut_of_cuts

/-- Whole pieces are the pieces of their text, whatever follows it. -/
theorem cut_textAll_append {pieces : List Piece} (whole : ∀ p ∈ pieces, p.IsWhole)
    (rest : List CodePoint) : cut none (textAll pieces ++ rest) = pieces ++ cut none rest := by
  induction pieces with
  | nil => rfl
  | cons p pieces ih =>
    rw [textAll_cons, List.append_assoc, cut_text_append (whole p (by simp)),
      ih fun q member => whole q (by simp [member]), List.cons_append]

/-- A piece that others stand before is cut from what follows their text. -/
theorem Cuts.of_append {s : List CodePoint} {front back : List Piece} {p : Piece}
    (cuts : Cuts s (front ++ p :: back)) :
    ∃ rest, s = textAll front ++ rest ∧ Cuts rest (p :: back) := by
  induction front generalizing s with
  | nil => exact ⟨s, rfl, cuts⟩
  | cons q front ih =>
    rw [List.cons_append] at cuts
    generalize later : front ++ p :: back = pieces at cuts
    cases cuts with
    | cons _ more =>
      subst later
      obtain ⟨rest, rfl, cuts⟩ := ih more
      exact ⟨rest, by rw [textAll_cons, List.append_assoc], cuts⟩
    | unclosed => simp at later

theorem Cuts.of_body {s body : List CodePoint} {back : List Piece}
    (cuts : Cuts s (.body body :: back)) :
    ∃ rest, s = .char '@' :: (body ++ .char '@' :: rest) ∧ body ≠ [] ∧ .char '@' ∉ body := by
  cases cuts with
  | @cons _ rest _ whole _ => exact ⟨rest, by simp [text], whole⟩

theorem Cuts.of_unclosed {s : List CodePoint} {back : List Piece}
    (cuts : Cuts s (.unclosed :: back)) :
    ∃ rest, s = .char '@' :: rest ∧ .char '@' ∉ rest := by
  cases cuts with
  | cons whole _ => exact absurd whole id
  | @unclosed rest free => exact ⟨rest, rfl, free⟩

end LogTemplate.Piece
