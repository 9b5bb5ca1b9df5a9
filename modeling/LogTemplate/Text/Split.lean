/-!
# Cutting texts

Cutting at a character, and taking parts away.
-/

namespace LogTemplate.Text

variable {α : Type}

/-- The text without the characters of a kind at both its ends. -/
def stripEnds (p : α → Bool) (s : List α) : List α :=
  ((s.dropWhile p).reverse.dropWhile p).reverse

variable [DecidableEq α]

/-- The parts of a text between the occurrences of a character; always at least one. -/
def splitOn (mark : α) : List α → List (List α)
  | [] => [[]]
  | c :: rest =>
    match splitOn mark rest with
    | [] => [[]]
    | part :: parts => if c = mark then [] :: part :: parts else (c :: part) :: parts

/-- The text before the first occurrence of a character and the text after it. -/
def splitAt? (mark : α) : List α → Option (List α × List α)
  | [] => none
  | c :: rest =>
    if c = mark then some ([], rest)
    else (splitAt? mark rest).map fun (before, after) => (c :: before, after)

/-- What follows a prefix of a text. -/
def dropPrefix? : (pre s : List α) → Option (List α)
  | [], s => some s
  | _ :: _, [] => none
  | p :: pre, c :: s => if p = c then dropPrefix? pre s else none

/-- The text without the occurrences of a part of it, found from left to right; the first `skipped`
characters are inside an occurrence. -/
def removeFrom (part : List α) : (skipped : Nat) → List α → List α
  | _, [] => []
  | skipped + 1, _ :: rest => removeFrom part skipped rest
  | 0, c :: rest =>
    if part.isPrefixOf (c :: rest) then removeFrom part (part.length - 1) rest
    else c :: removeFrom part 0 rest

/-- The text without the occurrences of a part, which is not empty. -/
def remove (part s : List α) : List α := removeFrom part 0 s

theorem dropPrefix?_eq_some_iff {pre s rest : List α} :
    dropPrefix? pre s = some rest ↔ s = pre ++ rest := by
  induction pre generalizing s with
  | nil => simp [dropPrefix?]
  | cons p pre ih =>
    cases s with
    | nil => simp [dropPrefix?]
    | cons c s =>
      by_cases h : p = c
      · simp [dropPrefix?, h, ih]
      · have h' : ¬ c = p := fun e => h e.symm
        simp [dropPrefix?, h, h']

theorem splitAt?_eq_some {mark : α} {s before after : List α}
    (h : splitAt? mark s = some (before, after)) :
    s = before ++ mark :: after ∧ mark ∉ before := by
  induction s generalizing before after with
  | nil => simp [splitAt?] at h
  | cons c rest ih =>
    by_cases hc : c = mark
    · simp only [splitAt?, hc, if_true, Option.some.injEq, Prod.mk.injEq] at h
      obtain ⟨rfl, rfl⟩ := h
      simp [hc]
    · have hc' : ¬ mark = c := fun e => hc e.symm
      simp only [splitAt?, hc, if_false, Option.map_eq_some_iff, Prod.exists, Prod.mk.injEq] at h
      obtain ⟨b, a, hs, rfl, rfl⟩ := h
      obtain ⟨rfl, hb⟩ := ih hs
      simp [hc', hb]

end LogTemplate.Text
