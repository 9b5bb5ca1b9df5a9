import Mathlib.Data.List.Nodup
import LogTemplate.Library.Index
import LogTemplate.Proofs.Template.Split

/-!
# What the index of a library leaves out

The patterns that are tried on a line are those that start with a literal that begins the line, and
behind them those that start with a field.  Main statement: these are listed in load order and none
of them twice, every pattern that matches the line is among them, and no pattern of a library lacks
a place where it can be filed.
-/

namespace LogTemplate

namespace Template

/-- The template starts with a literal, and the line starts with its text. -/
def IsAnchoredAt (t : Template) (line : List CodePoint) : Prop :=
  ∃ text rest, t.tokens = .literal text :: rest ∧ text <+: line

/-- The template starts with a field. -/
def StartsWithField (t : Template) : Prop := ∃ f rest, t.tokens = .field f :: rest

theorem leadingLiteral?_eq_some_iff {t : Template} {text : List CodePoint} :
    t.leadingLiteral? = some text ↔ ∃ rest, t.tokens = .literal text :: rest := by
  unfold leadingLiteral?
  split
  · rename_i found rest tokens
    simp [tokens]
  · rename_i other
    simpa using fun rest tokens => other text rest tokens

/-- A template has tokens, so that it starts with a field if it does not start with a literal. -/
theorem leadingLiteral?_eq_none_iff {t : Template} :
    t.leadingLiteral? = none ↔ t.StartsWithField := by
  have filled := (Token.wellFormed_iff.mp t.wellFormed_tokens).1
  unfold leadingLiteral? StartsWithField
  cases tokens : t.tokens with
  | nil => exact absurd tokens filled
  | cons token rest => cases token <;> simp

theorem isAnchoredAt_iff {t : Template} {line : List CodePoint} :
    t.IsAnchoredAt line ↔ ∃ text ∈ t.leadingLiteral?, text <+: line := by
  simp [IsAnchoredAt, leadingLiteral?_eq_some_iff]

instance (t : Template) (line : List CodePoint) : Decidable (t.IsAnchoredAt line) :=
  decidable_of_iff _ isAnchoredAt_iff.symm

instance (t : Template) : Decidable t.StartsWithField :=
  decidable_of_iff _ leadingLiteral?_eq_none_iff

theorem ne_nil_of_leadingLiteral? {t : Template} {text : List CodePoint}
    (leading : t.leadingLiteral? = some text) : text ≠ [] := by
  have apart := (Token.wellFormed_iff.mp t.wellFormed_tokens).2.1
  obtain ⟨rest, tokens⟩ := leadingLiteral?_eq_some_iff.mp leading
  rw [tokens] at apart
  exact (Token.literalsApart_literal.mp apart).1

/-- No template starts in both ways. -/
theorem IsAnchoredAt.not_startsWithField {t : Template} {line : List CodePoint}
    (anchored : t.IsAnchoredAt line) : ¬ t.StartsWithField := by
  obtain ⟨text, rest, tokens, -⟩ := anchored
  rintro ⟨f, others, same⟩
  rw [tokens] at same
  cases same

/-- A template that matches a line starts with a field or with what the line starts with. -/
theorem isAnchoredAt_or_startsWithField_of_run {t : Template} {line : List CodePoint}
    {found : List (Text × Text)} (ran : t.run line = some found) :
    t.IsAnchoredAt line ∨ t.StartsWithField := by
  cases leading : t.leadingLiteral? with
  | none => exact .inr (leadingLiteral?_eq_none_iff.mp leading)
  | some text =>
    obtain ⟨rest, tokens⟩ := leadingLiteral?_eq_some_iff.mp leading
    rw [run, tokens, Token.runAll_literal] at ran
    obtain ⟨after, rfl, -⟩ := ran
    exact .inl ⟨text, rest, tokens, List.prefix_append text after⟩

end Template

namespace Pattern

/-- The character that a pattern is filed under: the first one of the literal it starts with. -/
def initial? (p : Pattern) : Option CodePoint := p.template.leadingLiteral?.bind List.head?

/-- Only patterns that start with a field are filed under no character, as no literal is empty. -/
theorem initial?_eq_none_iff {p : Pattern} :
    p.initial? = none ↔ p.template.StartsWithField := by
  rw [← Template.leadingLiteral?_eq_none_iff, initial?]
  cases leading : p.template.leadingLiteral? with
  | none => simp
  | some text => simpa using Template.ne_nil_of_leadingLiteral? leading

/-- A pattern that is anchored at a line is filed under the first character of the line. -/
theorem initial?_of_isAnchoredAt {p : Pattern} {c : CodePoint} {line : List CodePoint}
    (anchored : p.template.IsAnchoredAt (c :: line)) : p.initial? = some c := by
  obtain ⟨text, leading, start⟩ := Template.isAnchoredAt_iff.mp anchored
  rw [Option.mem_def] at leading
  cases text with
  | nil => exact absurd rfl (Template.ne_nil_of_leadingLiteral? leading)
  | cons first text =>
    obtain ⟨rfl, -⟩ := List.cons_prefix_cons.mp start
    rw [initial?, leading]
    rfl

theorem not_isAnchoredAt_nil (p : Pattern) : ¬ p.template.IsAnchoredAt [] := by
  intro anchored
  obtain ⟨text, leading, start⟩ := Template.isAnchoredAt_iff.mp anchored
  exact Template.ne_nil_of_leadingLiteral? leading (List.prefix_nil.mp start)

end Pattern

namespace Index

/-! ## What is filed where -/

/-- A pattern with a character is filed under it, and any other one with those without. -/
theorem add_eq (index : Index) (p : Pattern) :
    index.add p = match p.initial? with
      | some first => { index with anchored := file first p index.anchored }
      | .none => { index with unanchored := index.unanchored ++ [p] } := by
  unfold add Pattern.initial?
  cases p.template.leadingLiteral? with
  | none => rfl
  | some literal => cases literal <;> rfl

/-- A pattern goes to the end of the drawer of its character. -/
theorem drawer_add (index : Index) (p : Pattern) (c : CodePoint) :
    drawer c (index.add p).anchored =
      drawer c index.anchored ++ [p].filter fun p => p.initial? == some c := by
  rw [add_eq]
  cases initial : p.initial? with
  | none => simp [initial]
  | some first =>
    by_cases same : c = first
    · simp [drawer_file, initial, same]
    · simp [drawer_file, initial, same, Ne.symm same]

theorem unanchored_add (index : Index) (p : Pattern) :
    (index.add p).unanchored = index.unanchored ++ [p].filter fun p => p.initial? == none := by
  rw [add_eq]
  cases initial : p.initial? with
  | none => simp [initial]
  | some first => simp [initial]

/-- Filing patterns one by one puts those of a character into its drawer, in order. -/
theorem drawer_foldl_add (patterns : List Pattern) (index : Index) (c : CodePoint) :
    drawer c (patterns.foldl add index).anchored =
      drawer c index.anchored ++ patterns.filter fun p => p.initial? == some c := by
  induction patterns generalizing index with
  | nil => simp
  | cons p rest ih =>
    rw [List.foldl_cons, ih, drawer_add, List.append_assoc, ← List.filter_append]
    rfl

theorem unanchored_foldl_add (patterns : List Pattern) (index : Index) :
    (patterns.foldl add index).unanchored =
      index.unanchored ++ patterns.filter fun p => p.initial? == none := by
  induction patterns generalizing index with
  | nil => simp
  | cons p rest ih =>
    rw [List.foldl_cons, ih, unanchored_add, List.append_assoc, ← List.filter_append]
    rfl

/-- Files a pattern, and fails if the literal it starts with has no character to file it under. -/
def add? (index : Index) (p : Pattern) : Option Index :=
  match p.template.leadingLiteral? with
  | none => some { index with unanchored := index.unanchored ++ [p] }
  | some literal =>
    literal.head?.map fun first => { index with anchored := file first p index.anchored }

/-- Every pattern can be filed. -/
theorem add?_eq (index : Index) (p : Pattern) : index.add? p = some (index.add p) := by
  unfold add? add
  cases leading : p.template.leadingLiteral? with
  | none => rfl
  | some literal =>
    cases literal with
    | nil => exact absurd rfl (Template.ne_nil_of_leadingLiteral? leading)
    | cons first literal => rfl

/-- All patterns of a library can be filed, one by one. -/
theorem foldlM_add?_eq (patterns : List Pattern) (index : Index) :
    patterns.foldlM add? index = some (patterns.foldl add index) := by
  induction patterns generalizing index with
  | nil => rfl
  | cons p rest ih =>
    rw [List.foldlM_cons, List.foldl_cons, add?_eq]
    exact ih (index.add p)

/-! ## What is tried -/

theorem candidates_nil (index : Index) : index.candidates [] = index.unanchored := rfl

theorem candidates_cons (index : Index) (c : CodePoint) (line : List CodePoint) :
    index.candidates (c :: line) =
      (drawer c index.anchored).filter (isAnchoredAt (c :: line)) ++ index.unanchored := rfl

theorem isAnchoredAt_iff {line : List CodePoint} {p : Pattern} :
    isAnchoredAt line p = true ↔ p.template.IsAnchoredAt line := by
  rw [Template.isAnchoredAt_iff, isAnchoredAt]
  cases p.template.leadingLiteral? <;> simp

/-- First the patterns are tried that are anchored at the line, then those that start with a
field, both in load order. -/
theorem candidates_eq_append (library : Library) (line : List CodePoint) :
    (ofLibrary library).candidates line =
      library.patterns.filter (fun p => p.template.IsAnchoredAt line)
        ++ library.patterns.filter fun p => p.template.StartsWithField := by
  have behind : (ofLibrary library).unanchored =
      library.patterns.filter fun p => p.template.StartsWithField := by
    rw [ofLibrary, unanchored_foldl_add, List.nil_append]
    refine List.filter_congr fun p _ => ?_
    rw [Bool.eq_iff_iff, beq_iff_eq, decide_eq_true_eq]
    exact Pattern.initial?_eq_none_iff
  cases line with
  | nil => simp [candidates_nil, behind, Pattern.not_isAnchoredAt_nil]
  | cons c line =>
    have filed : drawer c (ofLibrary library).anchored =
        library.patterns.filter fun p => p.initial? == some c := by
      rw [ofLibrary, drawer_foldl_add]
      rfl
    -- The drawer asks for the first character, and the literal does so again.
    rw [candidates_cons, filed, behind, List.filter_filter, List.append_cancel_right_eq]
    refine List.filter_congr fun p _ => ?_
    rw [Bool.eq_iff_iff, Bool.and_eq_true, isAnchoredAt_iff, beq_iff_eq, decide_eq_true_eq]
    exact and_iff_left_of_imp Pattern.initial?_of_isAnchoredAt

/-- A pattern of the library is tried on a line unless it starts with a literal that does not begin
the line. -/
theorem mem_candidates_iff {library : Library} {line : List CodePoint} {p : Pattern} :
    p ∈ (ofLibrary library).candidates line ↔
      p ∈ library.patterns ∧ (p.template.IsAnchoredAt line ∨ p.template.StartsWithField) := by
  rw [candidates_eq_append, List.mem_append, List.mem_filter, List.mem_filter, ← and_or_left,
    decide_eq_true_eq, decide_eq_true_eq]

/-- Every pattern of the library that matches a line is tried on it. -/
theorem mem_candidates_of_extract {library : Library} {line : List CodePoint} {p : Pattern}
    {extracted : List (Text × Text)} (member : p ∈ library.patterns)
    (matching : p.extract line = some extracted) :
    p ∈ (ofLibrary library).candidates line :=
  mem_candidates_iff.mpr ⟨member, Template.isAnchoredAt_or_startsWithField_of_run matching⟩

/-- No pattern is tried twice on a line. -/
theorem nodup_candidates (library : Library) (line : List CodePoint) :
    ((ofLibrary library).candidates line).Nodup := by
  have distinct : library.patterns.Nodup := List.Nodup.of_map Pattern.uuid library.distinct
  rw [candidates_eq_append]
  refine (distinct.filter _).append (distinct.filter _) ?_
  intro p anchored behind
  rw [List.mem_filter, decide_eq_true_eq] at anchored behind
  exact anchored.2.not_startsWithField behind.2

/-- On a line the patterns of a library are tried that start with a literal that begins the line, in
load order, and behind them all that start with a field, in load order.  No pattern is tried twice,
every pattern that matches the line is tried, and filing the patterns of the library never fails. -/
theorem candidates_in_load_order (library : Library) (line : List CodePoint) :
    (ofLibrary library).candidates line =
        library.patterns.filter (fun p => p.template.IsAnchoredAt line)
          ++ library.patterns.filter (fun p => p.template.StartsWithField)
      ∧ ((ofLibrary library).candidates line).Nodup
      ∧ (∀ p ∈ library.patterns, ∀ extracted, p.extract line = some extracted →
        p ∈ (ofLibrary library).candidates line)
      ∧ library.patterns.foldlM add? ⟨[], []⟩ = some (ofLibrary library) := by
  refine ⟨candidates_eq_append library line, nodup_candidates library line, ?_, ?_⟩
  · intro p member extracted matching
    exact mem_candidates_of_extract member matching
  · exact foldlM_add?_eq library.patterns ⟨[], []⟩

/-- The end of a process. -/
def exitPattern : Pattern where
  name := "EXIT"
  uuid := ⟨3, by decide⟩
  template :=
    ⟨"@NUMBER:pid@ exited",
     [.field ⟨.number, "pid", {}⟩, .literal (Text.toList " exited")], by decide⟩
  defaults := {}
  tags := {}
  examples := []

/-- A pattern that shares its first character with that of the start of a process. -/
def stopPattern : Pattern where
  name := "STOP"
  uuid := ⟨4, by decide⟩
  template :=
    ⟨"stop @NUMBER:pid@", [.literal (Text.toList "stop "), .field ⟨.number, "pid", {}⟩], by decide⟩
  defaults := {}
  tags := {}
  examples := []

/-- The start of a process. -/
def startPattern : Pattern where
  name := "START"
  uuid := ⟨5, by decide⟩
  template :=
    ⟨"start @NUMBER:pid@",
     [.literal (Text.toList "start "), .field ⟨.number, "pid", {}⟩], by decide⟩
  defaults := {}
  tags := {}
  examples := []

/-- The library of these patterns. -/
def processLibrary : Library := ⟨[exitPattern, stopPattern, startPattern], by decide⟩

/-- The pattern that starts with a field is loaded first and tried last, and of the two that are
filed under one character only that is tried whose literal begins the line. -/
theorem candidates_in_load_order_start :
    startPattern ∈ processLibrary.patterns
      ∧ startPattern.extract (Text.toList "start 1") = some ([("pid", "1")] : List (Text × Text))
      ∧ startPattern ∈ (ofLibrary processLibrary).candidates (Text.toList "start 1")
      ∧ (ofLibrary processLibrary).candidates (Text.toList "start 1") =
        [startPattern, exitPattern] := by
  have member : startPattern ∈ processLibrary.patterns := by simp [processLibrary]
  have matching : startPattern.extract (Text.toList "start 1") =
    some ([("pid", "1")] : List (Text × Text)) := by decide
  obtain ⟨listed, -, tried, -⟩ := candidates_in_load_order processLibrary (Text.toList "start 1")
  exact ⟨member, matching, tried startPattern member _ matching, listed.trans (by decide)⟩

end Index

end LogTemplate
