import LogTemplate.Text

/-!
# Sets of tags

A set of texts, kept as the list of its members in the order of code points.  Main statement: a set
made from a list has exactly the members of the list.
-/

namespace LogTemplate

/-- A set of texts: an ascending list. -/
structure TagSet where
  tags : List Text
  ascending : tags.Pairwise (· < ·)

namespace TagSet

instance : DecidableEq TagSet := fun a b =>
  match decEq a.tags b.tags with
  | isTrue h => isTrue (by cases a; cases b; cases h; rfl)
  | isFalse h => isFalse fun e => h (congrArg tags e)

/-- The empty set. -/
def empty : TagSet := ⟨[], List.Pairwise.nil⟩

instance : EmptyCollection TagSet := ⟨empty⟩

instance : Inhabited TagSet := ⟨empty⟩

instance : Membership Text TagSet := ⟨fun s tag => tag ∈ s.tags⟩

instance (tag : Text) (s : TagSet) : Decidable (tag ∈ s) :=
  inferInstanceAs (Decidable (tag ∈ s.tags))

/-- Puts a text into its place in an ascending list, if it is not there. -/
def place (tag : Text) : List Text → List Text
  | [] => [tag]
  | other :: rest =>
    if tag = other then other :: rest
    else if tag < other then tag :: other :: rest
    else other :: place tag rest

theorem mem_place {tag other : Text} {tags : List Text} :
    other ∈ place tag tags ↔ other = tag ∨ other ∈ tags := by
  induction tags with
  | nil => simp [place]
  | cons t rest ih =>
    unfold place
    split
    · subst_vars; simp
    · split
      · simp
      · simp only [List.mem_cons, ih]
        exact ⟨fun h => h.elim (fun a => .inr (.inl a)) (·.elim .inl fun b => .inr (.inr b)),
          fun h => h.elim (fun a => .inr (.inl a)) (·.elim .inl fun b => .inr (.inr b))⟩

theorem pairwise_place {tag : Text} {tags : List Text} (h : tags.Pairwise (· < ·)) :
    (place tag tags).Pairwise (· < ·) := by
  induction tags with
  | nil => simp [place]
  | cons t rest ih =>
    have hr := List.pairwise_cons.1 h
    unfold place
    split
    · exact h
    · rename_i hne
      split
      · rename_i hlt
        refine List.pairwise_cons.2 ⟨?_, h⟩
        intro other hm
        rcases List.mem_cons.1 hm with rfl | hm
        · exact hlt
        · exact Text.lt_trans hlt (hr.1 other hm)
      · rename_i hnot
        refine List.pairwise_cons.2 ⟨?_, ih hr.2⟩
        intro other hm
        rcases mem_place.1 hm with rfl | hm
        · rcases Text.le_total t other with hle | hle
          · rcases Decidable.em (t < other) with hlt | hlt
            · exact hlt
            · exact absurd (Text.le_antisymm (Text.not_lt.1 hlt) hle) hne
          · exact absurd (Text.le_antisymm (Text.not_lt.1 hnot) hle) fun e => hne e.symm
        · exact hr.1 other hm

/-- Adds a text. -/
def insert (s : TagSet) (tag : Text) : TagSet := ⟨place tag s.tags, pairwise_place s.ascending⟩

/-- The set of the texts of a list. -/
def ofList (tags : List Text) : TagSet := tags.foldl insert empty

/-- The members of a set that another set lacks. -/
def without (s t : TagSet) : TagSet :=
  ⟨s.tags.filter (· ∉ t.tags), s.ascending.filter _⟩

theorem mem_insert {s : TagSet} {tag other : Text} :
    other ∈ s.insert tag ↔ other = tag ∨ other ∈ s := mem_place

theorem mem_ofList {tags : List Text} {tag : Text} : tag ∈ ofList tags ↔ tag ∈ tags := by
  have key : ∀ (s : TagSet), tag ∈ tags.foldl insert s ↔ tag ∈ s ∨ tag ∈ tags := by
    induction tags with
    | nil => simp
    | cons t rest ih =>
      intro s
      simp only [List.foldl_cons, ih, mem_insert, List.mem_cons]
      constructor
      · rintro ((h | h) | h)
        · exact .inr (.inl h)
        · exact .inl h
        · exact .inr (.inr h)
      · rintro (h | h | h)
        · exact .inl (.inr h)
        · exact .inl (.inl h)
        · exact .inr h
  have none : ¬ tag ∈ empty := by
    intro h
    exact absurd h (List.not_mem_nil)
  simp [ofList, key, none]

theorem mem_without {s t : TagSet} {tag : Text} : tag ∈ s.without t ↔ tag ∈ s ∧ tag ∉ t := by
  show tag ∈ s.tags.filter (· ∉ t.tags) ↔ tag ∈ s.tags ∧ tag ∉ t.tags
  simp

end TagSet

end LogTemplate
