import LogTemplate.PatternFile.Decode
import LogTemplate.Proofs.Json.Reading
import LogTemplate.Proofs.Json.Text
import LogTemplate.Proofs.Refusing
import LogTemplate.Proofs.Text.Lines

/-!
# Lines of JSON, decoded

What decoding makes of a text is what it makes of the lines of it that are not blank.  Main
statement: objects that are written one on a line are decoded as they are exactly if none of their
texts holds a line separator besides line feeds and carriage returns, which JSON allows inside
strings, and no integer has too many digits.
-/

namespace LogTemplate.PatternFile

open Text Json

/-! ## Lines that are not blank -/

/-- The lines that are not blank are the parts between breaks that are not. -/
theorem denseLines_eq (s : List CodePoint) :
    denseLines s = ((s.splitOnP isBreak).map trim).filter (!·.isEmpty) := by
  have empty : (fun line : List CodePoint => !(trim line).isEmpty) [] = false := rfl
  rw [denseLines, List.filter_map, List.filter_map]
  exact congrArg _ (filter_splitLines empty s)

theorem denseLines_append_break {c : CodePoint} (breaks : isBreak c = true) (s t : List CodePoint) :
    denseLines (s ++ c :: t) = denseLines s ++ denseLines t := by
  rw [denseLines_eq, List.splitOnP_append_cons s t breaks, List.map_append, List.filter_append,
    ← denseLines_eq, ← denseLines_eq]

/-- A text without breaks is one line. -/
theorem denseLines_of_unbroken {s : List CodePoint} (unbroken : ∀ c ∈ s, isBreak c = false)
    (filled : trim s ≠ []) : denseLines s = [trim s] := by
  rw [denseLines_eq, List.splitOnP_eq_singleton unbroken]
  simp [filled]

/-- A text without blanks is one line. -/
theorem denseLines_of_not_blank {s : List CodePoint} (filled : ∀ c ∈ s, isBlank c = false)
    (some : s ≠ []) : denseLines s = [s] := by
  have trimmed := trim_of_not_blank filled
  rw [denseLines_of_unbroken (fun c member => isBreak_eq_false (filled c member))
    (by rwa [trimmed]), trimmed]

/-- A character that is not blank is on a line that is not. -/
theorem denseLines_ne_nil {c : CodePoint} {s : List CodePoint} (member : c ∈ s)
    (filled : isBlank c = false) :
    denseLines s ≠ [] := by
  obtain ⟨part, known, inside⟩ := exists_mem_splitOnP member (isBreak_eq_false filled)
  have kept : c ∈ trim part := (mem_trim_or_blank inside).resolve_left (by simp [filled])
  rw [denseLines_eq]
  refine List.ne_nil_of_mem (a := trim part) (List.mem_filter.mpr ⟨List.mem_map_of_mem known, ?_⟩)
  simpa using List.ne_nil_of_mem kept

theorem denseLines_intercalate (texts : List (List CodePoint)) :
    denseLines ([.char '\n'].intercalate texts) = texts.flatMap denseLines := by
  induction texts with
  | nil => rfl
  | cons s texts ih =>
    cases texts with
    | nil => rw [List.intercalate_singleton, List.flatMap_singleton]
    | cons t texts =>
      rw [List.flatMap_cons, ← ih, List.intercalate_cons_cons, List.append_assoc,
        List.singleton_append, denseLines_append_break (by decide)]

/-! ## What decoding makes of a line -/

section

variable [Nesting]

/-- A line with more lists and mappings inside each other than the program can read. -/
def IsTooDeep (line : List CodePoint) : Prop := ∃ what, Json.read line = .error (.tooDeep what)

/-- The record on a line, or the line itself. -/
def recordOf (line : List CodePoint) : Except Nesting.Excess Document :=
  match decodeLine line with
  | .ok d => .ok d
  | .error (.tooDeep what) => .error what
  | .error _ => .ok (.text (Text.ofList line))

theorem value_decodeLineLogged (path : String) (number : Nat) (line : List CodePoint) :
    (decodeLineLogged path number line).value = recordOf line := by
  unfold decodeLineLogged recordOf
  cases decodeLine line with
  | ok d => rfl
  | error e => cases e <;> rfl

theorem value_decodeLines (path : String) (number : Nat) (lines : List (List CodePoint)) :
    (decodeLines path number lines).value =
      ((lines.map trim).filter (!·.isEmpty)).mapM recordOf := by
  induction lines generalizing number with
  | nil => rfl
  | cons line lines ih =>
    rw [decodeLines, List.map_cons]
    split
    · rename_i blank
      rw [ih, List.filter_cons_of_neg (by simpa using blank)]
    · rename_i filled
      rw [List.filter_cons_of_pos (by simpa using filled), List.mapM_cons, Logged.value_bind,
        value_decodeLineLogged]
      cases recordOf (trim line) with
      | error what => rfl
      | ok record =>
        rw [ok_bind, ← ih (number + 1)]
        simp only [Logged.value_bind, Logged.value_pure]
        cases (decodeLines path (number + 1) lines).value <;> rfl

/-- A text is decoded line by line, but for blank lines. -/
theorem value_decodeJsonLines (path : String) (s : List CodePoint) :
    (decodeJsonLines path s).value = (denseLines s).mapM recordOf := by
  have lines := value_decodeLines path 1 (splitLines s)
  rw [decodeJsonLines, Logged.value_bind, lines, denseLines]
  cases (((splitLines s).map trim).filter (!·.isEmpty)).mapM recordOf <;> rfl

/-- A text is decoded part by part between line feeds, or between other breaks. -/
theorem value_decodeJsonLines_append_break (path : String) {c : CodePoint}
    (breaks : isBreak c = true)
    (s t : List CodePoint) :
    (decodeJsonLines path (s ++ c :: t)).value = do
      return (← (decodeJsonLines path s).value) ++ (← (decodeJsonLines path t).value) := by
  simp only [value_decodeJsonLines, denseLines_append_break breaks, List.mapM_append]

end

/-! ## Objects, one on a line -/

/-- A JSON text of an object without line feeds and carriage returns, and what it asks of a
reader. -/
structure ObjectLine where
  text : List CodePoint
  entries : List (Text × Document)
  demand : Demand
  isText : IsTextOf text (.mapping entries) demand
  oneLine : .char '\n' ∉ text ∧ .char '\r' ∉ text

namespace ObjectLine

/-- The object. -/
def object (o : ObjectLine) : Document := .mapping o.entries

/-- The line separators that JSON allows inside strings. -/
def separators : List CodePoint := [.char '\x85', .char '\u2028', .char '\u2029']

/-- Between the white space around it an object stands between braces. -/
theorem exists_braces (o : ObjectLine) : ∃ before inside behind, AreSpaces before
    ∧ AreSpaces behind ∧ o.text = before ++ (.char '\x7b' :: (inside ++ [.char '\x7d']) ++ behind)
    ∧ Denotes (.char '\x7b' :: (inside ++ [.char '\x7d'])) o.object o.demand := by
  obtain ⟨⟨before, body, behind⟩, spaced, text, denotes⟩ := o.isText
  obtain ⟨inside, rfl⟩ := denotes.exists_braces rfl
  exact ⟨before, inside, behind, spaced.1, spaced.2, text, denotes⟩

theorem isLegible_text (o : ObjectLine) : IsLegible o.text := by
  obtain ⟨p, spaced, text, denotes⟩ := o.isText
  rw [text]
  exact spaced.isLegible denotes.isLegible

/-- The only breaks in the text are line separators that JSON allows inside strings. -/
theorem mem_separators (o : ObjectLine) {c : CodePoint} (member : c ∈ o.text)
    (breaks : isBreak c = true) : c ∈ separators := by
  simp only [isBreak, Bool.or_eq_true, Bool.and_eq_true, decide_eq_true_eq, beq_iff_eq] at breaks
  rcases o.isLegible_text c member with space | printed
  · simp only [isSpace, Bool.or_eq_true, beq_iff_eq] at space
    rcases space with ((rfl | rfl) | rfl) | rfl
    · exact absurd breaks (by decide)
    · exact absurd breaks (by decide)
    · exact absurd member o.oneLine.1
    · exact absurd member o.oneLine.2
  · have code : c.toNat = 0x85 ∨ c.toNat = 0x2028 ∨ c.toNat = 0x2029 := by omega
    rw [← CodePoint.ofNat_toNat c]
    rcases code with code | code | code <;> rw [code] <;> decide

theorem denseLines_text_ne_nil (o : ObjectLine) : denseLines o.text ≠ [] := by
  obtain ⟨before, inside, behind, -, -, text, -⟩ := o.exists_braces
  exact @denseLines_ne_nil '\x7b' _ (by simp [text]) (by decide)

variable [Nesting]

/-- Whether the text stays on one line and can be read. -/
def IsKept (o : ObjectLine) : Prop :=
  (∀ c ∈ separators, c ∉ o.text) ∧ o.demand.IsMet Nesting.json

/-- A text without separators is decoded as its object exactly if it can be read. -/
theorem decode_of_unbroken (path : String) (o : ObjectLine)
    (unbroken : ∀ c ∈ separators, c ∉ o.text) :
    (decodeJsonLines path o.text).value = .ok [o.object] ↔ o.demand.IsMet Nesting.json := by
  obtain ⟨before, inside, behind, leading, trailing, text, denotes⟩ := o.exists_braces
  have trimmed : trim o.text = .char '\x7b' :: (inside ++ [.char '\x7d']) := by
    rw [text]
    exact trim_blanks (fun c member => isBlank_of_isSpace (leading c member))
      (fun c member => isBlank_of_isSpace (trailing c member)) (by decide) (by decide)
  have whole : ∀ c ∈ o.text, isBreak c = false := by
    intro c member
    cases breaks : isBreak c
    · rfl
    · exact absurd member (unbroken c (o.mem_separators member breaks))
  have isText : IsTextOf (.char '\x7b' :: (inside ++ [.char '\x7d'])) o.object o.demand :=
    ⟨⟨[], _, []⟩, ⟨List.forall_mem_nil _, List.forall_mem_nil _⟩, (List.append_nil _).symm, denotes⟩
  rw [value_decodeJsonLines, denseLines_of_unbroken whole (by simp [trimmed]), trimmed,
    mapM_eq_ok_iff, List.forall₂_cons, recordOf, decodeLine, Json.read]
  rcases readWithin_of_isTextOf isText Nesting.json with ⟨read, met⟩ | ⟨unmet, f, refused, refusal⟩
  · simp [read, met]
  · cases refusal <;> simp [refused, unmet, Failure.error, object]

/-- A text with a separator in it is decoded as two records at least: one brace of the object is on
a line in front of the separator, and the other one on a line behind it. -/
theorem decode_of_broken (path : String) (o : ObjectLine) {c : CodePoint} (known : c ∈ separators)
    (member : c ∈ o.text) : (decodeJsonLines path o.text).value ≠ .ok [o.object] := by
  obtain ⟨before, inside, behind, leading, trailing, text, -⟩ := o.exists_braces
  have all : ∀ c ∈ separators, isBreak c = true ∧ isSpace c = false ∧ c ≠ '\x7b' ∧ c ≠ '\x7d' :=
    forall_mem_of_all (by decide)
  obtain ⟨breaks, other, opening, closing⟩ := all c known
  have within : c ∈ inside := by
    have spaces : ∀ {blank}, AreSpaces blank → c ∉ blank := fun areSpaces member => by
      simpa [other] using areSpaces c member
    rw [text] at member
    simpa [spaces leading, spaces trailing, opening, closing] using member
  obtain ⟨front, back, rfl⟩ := List.append_of_mem within
  have halves :
      o.text = (before ++ .char '\x7b' :: front) ++ c :: (back ++ .char '\x7d' :: behind) := by
    rw [text]
    simp
  have first : denseLines (before ++ .char '\x7b' :: front) ≠ [] :=
    @denseLines_ne_nil '\x7b' _ (by simp) (by decide)
  have second : denseLines (back ++ .char '\x7d' :: behind) ≠ [] :=
    @denseLines_ne_nil '\x7d' _ (by simp) (by decide)
  rw [value_decodeJsonLines, halves, denseLines_append_break breaks]
  intro same
  have one := (mapM_eq_ok_iff.mp same).length_eq
  rw [List.length_append, List.length_singleton] at one
  have := List.length_pos_of_ne_nil first
  have := List.length_pos_of_ne_nil second
  omega

theorem decode_text_iff (path : String) (o : ObjectLine) :
    (decodeJsonLines path o.text).value = .ok [o.object] ↔ o.IsKept := by
  by_cases unbroken : ∀ c ∈ separators, c ∉ o.text
  · exact (decode_of_unbroken path o unbroken).trans (and_iff_right unbroken).symm
  · refine ⟨fun same => ?_, fun kept => absurd kept.1 unbroken⟩
    push Not at unbroken
    obtain ⟨c, known, member⟩ := unbroken
    exact absurd same (decode_of_broken path o known member)

end ObjectLine

section

variable {ε α β γ : Type} {f : α → List β} {g : β → Except ε γ} {l : List α}

theorem length_le_flatMap (filled : ∀ a ∈ l, f a ≠ []) : l.length ≤ (l.flatMap f).length := by
  induction l with
  | nil => exact Nat.zero_le _
  | cons a l ih =>
    rw [List.forall_mem_cons] at filled
    have first := List.length_pos_of_ne_nil filled.1
    have others := ih filled.2
    rw [List.flatMap_cons, List.length_append, List.length_cons]
    omega

/-- If there are parts to everything, as many things are made of all parts as there are wholes
exactly if each whole has one part. -/
theorem mapM_flatMap_eq_map_iff {h : α → γ} (filled : ∀ a ∈ l, f a ≠ []) :
    (l.flatMap f).mapM g = .ok (l.map h) ↔ ∀ a ∈ l, (f a).mapM g = .ok [h a] := by
  simp only [mapM_eq_ok_iff]
  induction l with
  | nil => simp
  | cons a l ih =>
    rw [List.forall_mem_cons] at filled
    rw [List.flatMap_cons, List.map_cons, List.forall_mem_cons, ← ih filled.2]
    constructor
    · intro all
      obtain ⟨b, others, first⟩ := List.exists_cons_of_ne_nil filled.1
      rw [first, List.cons_append, List.forall₂_cons] at all
      have count := all.2.length_eq
      have least := length_le_flatMap filled.2
      rw [List.length_append, List.length_map] at count
      obtain rfl : others = [] := List.eq_nil_of_length_eq_zero (by omega)
      rw [first]
      exact ⟨.cons all.1 .nil, all.2⟩
    · rintro ⟨first, rest⟩
      exact List.rel_append first rest

end

/-- Objects that are written one on a line, with line feeds between the lines, are decoded as they
are exactly if the text of each stays on one line and can be read. -/
theorem decodeJsonLines_objects_iff [Nesting] (path : String) (l : List ObjectLine) :
    (decodeJsonLines path ([.char '\n'].intercalate (l.map ObjectLine.text))).value =
        .ok (l.map ObjectLine.object) ↔ ∀ o ∈ l, o.IsKept := by
  rw [value_decodeJsonLines, denseLines_intercalate, List.flatMap_map,
    mapM_flatMap_eq_map_iff fun o _ => o.denseLines_text_ne_nil]
  refine forall₂_congr fun o _ => ?_
  rw [← value_decodeJsonLines path]
  exact o.decode_text_iff path

/-- The entry whose text is a line separator, which JSON allows inside a string. -/
def separatedEntry : Member where
  name := ⟨[], Text.toList "\"a\"", []⟩
  key := "a"
  value := ⟨⟨[.char ' '], Text.toList "\"\u2028\"", []⟩, .text "\u2028", {}⟩

theorem spellsString_singleton {c : CodePoint} (unmarked : c ≠ '"') (plain : c ≠ '\\')
    (printed : 0x20 ≤ c.toNat) : SpellsString ['"', c, '"'] (Text.ofList [c]) :=
  ⟨[c], [.char c], rfl, (SpellsUnit.char unmarked plain printed).units, rfl⟩

/-- The object with that entry alone. -/
def separated : ObjectLine where
  text := Text.toList "\x7b\"a\": \"\u2028\"\x7d"
  entries := [("a", .text "\u2028")]
  demand := { depth := 1 }
  isText := by
    have none : AreSpaces [] := List.forall_mem_nil _
    have space : AreSpaces [.char ' '] := List.forall_mem_singleton.mpr rfl
    have name : SpellsString separatedEntry.name.body "a" :=
      spellsString_singleton (by decide) (by decide) (by decide)
    have value : SpellsString separatedEntry.value.piece.body "\u2028" :=
      spellsString_singleton (by decide) (by decide) (by decide)
    have denotes := Denotes.mapping (List.cons_ne_nil separatedEntry [])
      (List.forall_mem_singleton.mpr ⟨⟨none, none⟩, space, none⟩)
      (List.forall_mem_singleton.mpr name) (List.forall_mem_singleton.mpr (.text value))
    exact ⟨⟨[], _, []⟩, ⟨none, none⟩, rfl, denotes⟩
  oneLine := by decide

/-- It is decoded as two records that are no objects. -/
theorem decodeJsonLines_separated_ne :
    letI := Nesting.usual
    (decodeJsonLines "patterns.jsonl" ([.char '\n'].intercalate [separated.text])).value ≠
      .ok [separated.object] := by
  let := Nesting.usual
  rw [List.intercalate_singleton]
  exact separated.decode_of_broken _ (show .char '\u2028' ∈ ObjectLine.separators by decide)
    (by decide)

end LogTemplate.PatternFile
