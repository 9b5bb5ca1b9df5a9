import LogTemplate.Proofs.Json.Grammar

/-!
# Texts of the language are read

Main statement: a document is read from every text of it, unless an integer in the text has too
many digits or the lists and mappings in it are nested too deep; then the text is refused for that.
-/

namespace LogTemplate.Json

open LogTemplate.Text

/-! ## Strings -/

theorem readUnits_close (opening rest : List CodePoint) :
    readUnits opening (.char '"' :: rest) = .ok ([], rest) := by
  rw [readUnits.eq_def]
  simp

/-- A part of a string is read if the string goes on: the closing mark at least has to follow. -/
theorem readUnits_unit {opening rest s : List CodePoint} {u : Unit16} (spells : SpellsUnit s u)
    (goesOn : rest ≠ []) :
    readUnits opening (s ++ rest) =
      (readUnits opening rest).map fun (units, left) => (u :: units, left) := by
  cases spells with
  | char unmarked plain printed =>
    rw [List.singleton_append, readUnits.eq_def]
    simp [unmarked, plain, Nat.not_lt.mpr printed]
  | @short e c stands =>
    have other : e ≠ 'u' := by
      rintro rfl
      simp [shortEscape?] at stands
    rw [List.cons_append, List.singleton_append, readUnits.eq_def]
    simp [other, stands]
  | @code digits n four number =>
    have filled : rest.isEmpty = false := by simpa using goesOn
    match digits, four with
    | [h1, h2, h3, h4], _ => simp [readUnits, number, filled]

theorem readUnits_units {inside : List CodePoint} {units : List Unit16}
    (spells : SpellsUnits inside units) (opening rest : List CodePoint) :
    readUnits opening (inside ++ .char '"' :: rest) = .ok (units, rest) := by
  induction spells with
  | nil => exact readUnits_close opening rest
  | cons first others ih =>
    rw [List.append_assoc, readUnits_unit first (by simp), ih]
    rfl

/-- A string is read behind its opening mark. -/
theorem readString_spelled {s : List CodePoint} {value : Text} (spells : SpellsString s value)
    (rest : List CodePoint) :
    ∃ behind, s ++ rest = .char '"' :: behind ∧ readString behind = .ok (value, rest) := by
  obtain ⟨inside, units, rfl, spelled, rfl⟩ := spells
  refine ⟨inside ++ .char '"' :: rest, by simp, ?_⟩
  rw [readString, readUnits_units spelled]
  rfl

/-! ## Numbers -/

/-- A text does not go on with what a number could go on with. -/
def EndsNumber (rest : List CodePoint) : Prop :=
  ∀ c ∈ rest.head?, c.isDigit = false ∧ c ≠ '.' ∧ c ≠ 'e' ∧ c ≠ 'E'

theorem endsNumber_cons {c : CodePoint} (other : c.isDigit = false ∧ c ≠ '.' ∧ c ≠ 'e' ∧ c ≠ 'E')
    (rest : List CodePoint) : EndsNumber (c :: rest) := by
  intro d first
  rw [List.head?_cons, Option.mem_some_iff] at first
  exact first ▸ other

namespace Number

variable {rest : List CodePoint}

theorem stops_exponentText (n : Number) (ends : EndsNumber rest) :
    ∀ c ∈ (n.exponentText ++ rest).head?, c.isDigit = false ∧ c ≠ '.' := by
  unfold exponentText
  cases n.exponent with
  | none => exact fun c first => ⟨(ends c first).1, (ends c first).2.1⟩
  | some e =>
    intro c first
    obtain rfl : e.letter = c := by simpa [Exponent.text] using first
    rcases e.known with letter | letter <;> rw [letter] <;> decide

theorem stops_fractionText (n : Number) (ends : EndsNumber rest) :
    ∀ c ∈ (n.fractionText ++ (n.exponentText ++ rest)).head?, c.isDigit = false := by
  unfold fractionText
  split
  · exact fun c first => (n.stops_exponentText ends c first).1
  · intro c first
    obtain rfl : '.' = c := by simpa using first
    decide

theorem wholeDigits?_append (n : Number) (ends : EndsNumber rest) :
    wholeDigits? (n.unsigned ++ rest) =
      some (n.whole, n.fractionText ++ (n.exponentText ++ rest)) := by
  have stops := n.stops_fractionText ends
  have plain : ∀ c ∈ n.whole, c.isDigit = true := fun c member =>
    n.plain c (List.mem_append_left _ member)
  rw [unsigned, List.append_assoc, List.append_assoc]
  rcases n.led with zero | ⟨first, others, whole, other⟩
  · rw [zero]
    simp [wholeDigits?]
  · have taken := takeWhile_append_of_stops plain stops
    have dropped := dropWhile_append_of_stops plain stops
    rw [whole] at taken dropped plain ⊢
    rw [List.cons_append] at taken dropped ⊢
    simp [wholeDigits?, other, plain first List.mem_cons_self, taken, dropped]

theorem fractionDigits_append (n : Number) (ends : EndsNumber rest) :
    fractionDigits (n.fractionText ++ (n.exponentText ++ rest)) =
      (n.fraction, n.exponentText ++ rest) := by
  have stops := n.stops_exponentText ends
  have plain : ∀ c ∈ n.fraction, c.isDigit = true := fun c member =>
    n.plain c (List.mem_append_right _ member)
  unfold fractionText
  split
  · rename_i none
    rw [List.isEmpty_iff.mp none, List.nil_append]
    unfold fractionDigits
    split
    · rename_i point
      rw [point] at stops
      exact absurd rfl (stops '.' rfl).2
    · rfl
  · rename_i some
    have taken := takeWhile_append_of_stops plain fun c first => (stops c first).1
    have dropped := dropWhile_append_of_stops plain fun c first => (stops c first).1
    rw [List.cons_append]
    simp [fractionDigits, taken, dropped, some]

theorem splitSign_exponent (e : Exponent) (rest : List CodePoint) :
    Numeral.splitSign (e.sign ++ (e.digits ++ rest)) =
      (decide (e.sign = [.char '-']), e.digits ++ rest) := by
  rcases e.signed with sign | sign | sign
  · obtain ⟨d, more, digits⟩ := List.exists_cons_of_ne_nil e.filled
    have digit : d.isDigit = true := e.plain d (digits ▸ List.mem_cons_self)
    rw [sign, digits, List.nil_append, List.cons_append]
    unfold Numeral.splitSign
    split
    · rename_i minus
      rw [(List.cons.inj minus).1] at digit
      exact absurd digit (by decide)
    · rename_i plus
      rw [(List.cons.inj plus).1] at digit
      exact absurd digit (by decide)
    · rfl
  · rw [sign]
    rfl
  · rw [sign]
    rfl

theorem exponent?_append (n : Number) (ends : EndsNumber rest) :
    exponent? (n.exponentText ++ rest) = n.exponent.map fun e => (e.value, rest) := by
  unfold exponentText
  cases n.exponent with
  | none =>
    rw [Option.map_none, Option.getD_none, List.nil_append]
    unfold exponent?
    split
    · rfl
    · rename_i c more
      have last := ends c rfl
      simp [last.2.2]
  | some e =>
    have stops : ∀ c ∈ rest.head?, c.isDigit = false := fun c first => (ends c first).1
    have filled : e.digits.isEmpty = false := by simpa using e.filled
    have taken := takeWhile_append_of_stops e.plain stops
    have dropped := dropWhile_append_of_stops e.plain stops
    have text : (some e).map Exponent.text = some (e.letter :: (e.sign ++ e.digits)) := rfl
    rw [text, Option.getD_some, List.cons_append, List.append_assoc, exponent?,
      if_pos (by simpa using e.known), splitSign_exponent, Option.map_some, Exponent.value]
    simp [taken, dropped, filled]

theorem exists_first (n : Number) :
    ∃ d more, n.unsigned = d :: more ∧ d.isDigit = true := by
  have filled : n.whole ≠ [] := by
    rcases n.led with zero | ⟨first, others, whole, -⟩
    · simp [zero]
    · simp [whole]
  obtain ⟨d, more, whole⟩ := List.exists_cons_of_ne_nil filled
  refine ⟨d, more ++ (n.fractionText ++ n.exponentText), by rw [unsigned, whole]; rfl, ?_⟩
  exact n.plain d (by simp [whole])

end Number

theorem splitMinus_text (n : Number) (rest : List CodePoint) :
    splitMinus (n.text ++ rest) = (n.negative, n.unsigned ++ rest) := by
  obtain ⟨d, more, first, digit⟩ := n.exists_first
  unfold Number.text splitMinus
  cases n.negative
  · rw [if_neg (by decide), first, List.cons_append]
    split
    · rename_i minus
      rw [(List.cons.inj minus).1] at digit
      exact absurd digit (by decide)
    · rfl
  · rfl

/-- A number is read, unless it is an integer with too many digits. -/
theorem readNumber_text (n : Number) {rest : List CodePoint} (ends : EndsNumber rest) :
    readNumber (n.text ++ rest) =
      if n.isInteger ∧ Numeral.digitLimit < n.whole.length then
        .error (.numeral (.tooLong n.whole.length))
      else .ok (n.document, rest) := by
  have whole := n.wholeDigits?_append ends
  have fraction := n.fractionDigits_append ends
  have exponent := n.exponent?_append ends
  rw [readNumber, splitMinus_text]
  cases written : n.exponent with
  | some e =>
    rw [written, Option.map_some] at exponent
    simp [whole, fraction, exponent, Number.document, Number.isInteger, written]
  | none =>
    have unraised : n.exponentText = [] := by
      rw [Number.exponentText, written]
      rfl
    rw [written, Option.map_none] at exponent
    rw [unraised, List.nil_append] at whole fraction exponent
    simp only [whole, fraction, exponent, Number.document, Number.isInteger, written]
    cases n.fraction.isEmpty <;> simp

/-! ## Outcomes -/

/-- Few enough digits in each integer. -/
def AreShort (integers : List (List CodePoint)) : Prop :=
  ∀ digits ∈ integers, digits.length ≤ Numeral.digitLimit

theorem areShort_append {first others : List (List CodePoint)} :
    AreShort (first ++ others) ↔ AreShort first ∧ AreShort others := List.forall_mem_append

namespace Demand

variable {depth : Nat} {demand other : Demand}

/-- A reader that goes to a depth meets what a text asks for. -/
def IsMet (demand : Demand) (depth : Nat) : Prop :=
  AreShort demand.integers ∧ demand.depth ≤ depth

theorem isMet_empty (depth : Nat) : IsMet {} depth := ⟨List.forall_mem_nil _, Nat.zero_le _⟩

theorem isMet_join : (demand.join other).IsMet depth ↔ demand.IsMet depth ∧ other.IsMet depth := by
  simp only [IsMet, join, areShort_append, Nat.max_le]
  exact and_and_and_comm

theorem isMet_nested : demand.nested.IsMet (depth + 1) ↔ demand.IsMet depth := by
  simp only [IsMet, nested, Nat.add_le_add_iff_right]

/-- For what a text is refused that asks for too much. -/
inductive IsRefusal (demand : Demand) (depth : Nat) : Failure → Prop
  | long {n : Nat} (long : ¬ AreShort demand.integers) :
    IsRefusal demand depth (.numeral (.tooLong n))
  | deep {what : Nesting.Excess} (deep : depth < demand.depth) :
    IsRefusal demand depth (.tooDeep what)

namespace IsRefusal

variable {f : Failure}

theorem join_left (refusal : demand.IsRefusal depth f) : (demand.join other).IsRefusal depth f := by
  cases refusal with
  | long long => exact .long fun short => long (areShort_append.mp short).1
  | deep deep => exact .deep (Nat.lt_of_lt_of_le deep (Nat.le_max_left _ _))

theorem join_right (refusal : other.IsRefusal depth f) : (demand.join other).IsRefusal depth f := by
  cases refusal with
  | long long => exact .long fun short => long (areShort_append.mp short).2
  | deep deep => exact .deep (Nat.lt_of_lt_of_le deep (Nat.le_max_right _ _))

theorem nested (refusal : demand.IsRefusal depth f) : demand.nested.IsRefusal (depth + 1) f := by
  cases refusal with
  | long long => exact .long long
  | deep deep => exact .deep (Nat.succ_lt_succ deep)

end IsRefusal

end Demand

/-- The outcome of reading a text that is there, down to a depth: its value, with what follows it
left, unless the text asks for too much. -/
structure Yields {α : Type} (depth : Nat) (demand : Demand) (value : α) (rest : List CodePoint)
    (step : Step α) : Prop where
  read : demand.IsMet depth → step = .ok (value, rest)
  refused : ¬ demand.IsMet depth → ∃ f, step = .error f ∧ demand.IsRefusal depth f

namespace Yields

variable {α β : Type} {depth : Nat} {demand other : Demand} {value : α} {result : β}
  {rest left : List CodePoint} {step : Except Failure (α × List CodePoint)}

theorem of_ok (read : step = .ok (value, rest)) : Yields depth {} value rest step :=
  ⟨fun _ => read, fun unmet => absurd (Demand.isMet_empty depth) unmet⟩

/-- Two steps yield what the second does, on what the first yields. -/
theorem bind {next : α × List CodePoint → Except Failure (β × List CodePoint)}
    (first : Yields depth demand value rest step)
    (second : Yields depth other result left (next (value, rest))) :
    Yields depth (demand.join other) result left (step.bind next) := by
  constructor
  · intro met
    obtain ⟨here, later⟩ := Demand.isMet_join.mp met
    rw [first.read here]
    exact second.read later
  · intro unmet
    by_cases here : demand.IsMet depth
    · obtain ⟨f, refused, refusal⟩ :=
        second.refused fun later => unmet (Demand.isMet_join.mpr ⟨here, later⟩)
      exact ⟨f, by rw [first.read here]; exact refused, refusal.join_right⟩
    · obtain ⟨f, refused, refusal⟩ := first.refused here
      exact ⟨f, by rw [refused]; rfl, refusal.join_left⟩

theorem map (f : α → β) (yields : Yields depth demand value rest step) :
    Yields depth demand (f value) rest (step.map fun (a, left) => (f a, left)) := by
  constructor
  · intro met
    rw [yields.read met]
    rfl
  · intro unmet
    obtain ⟨e, refused, refusal⟩ := yields.refused unmet
    exact ⟨e, by rw [refused]; rfl, refusal⟩

/-- Inside a list or a mapping a reader goes one level less deep. -/
theorem nested (yields : Yields depth demand value rest step) :
    Yields (depth + 1) demand.nested value rest step := by
  constructor
  · exact fun met => yields.read (Demand.isMet_nested.mp met)
  · intro unmet
    obtain ⟨f, refused, refusal⟩ := yields.refused fun met => unmet (Demand.isMet_nested.mpr met)
    exact ⟨f, refused, refusal.nested⟩

/-- A reader that goes no deeper does not go into a list or a mapping. -/
theorem of_tooDeep {what : Nesting.Excess} (refused : step = .error (.tooDeep what)) :
    Yields 0 demand.nested value rest step := by
  refine ⟨fun met => absurd met.2 (Nat.not_succ_le_zero _), fun _ => ⟨_, refused, ?_⟩⟩
  exact .deep (Nat.succ_pos _)

end Yields

/-! ## White space -/

/-- The first character of the text of a value is none that reading passes over, refuses or takes
for an end. -/
def IsStart (c : CodePoint) : Prop := isBlank c = false ∧ c ≠ ']' ∧ c ≠ '\x7d' ∧ c ≠ '\uFEFF'

instance (c : CodePoint) : Decidable (IsStart c) := inferInstanceAs (Decidable (_ ∧ _))

theorem isBlank_of_isSpace {c : CodePoint} (space : isSpace c = true) : isBlank c = true := by
  simp only [isSpace, Bool.or_eq_true, beq_iff_eq] at space
  rcases space with ((rfl | rfl) | rfl) | rfl <;> decide

theorem skip_spaces {blank : List CodePoint} (spaces : AreSpaces blank) (rest : List CodePoint) :
    skip (blank ++ rest) = skip rest := List.dropWhile_append_of_pos spaces

theorem skip_filled {c : CodePoint} (filled : isBlank c = false) (rest : List CodePoint) :
    skip (c :: rest) = c :: rest := by
  have other : ¬ isSpace c = true := fun space => by simpa [filled] using isBlank_of_isSpace space
  rw [skip, List.dropWhile_cons_of_neg other]

theorem endsNumber_spaces {blank rest : List CodePoint} (spaces : AreSpaces blank)
    (ends : EndsNumber rest) : EndsNumber (blank ++ rest) := by
  cases blank with
  | nil => exact ends
  | cons c blank =>
    have space := spaces c List.mem_cons_self
    simp only [isSpace, Bool.or_eq_true, beq_iff_eq] at space
    rcases space with ((rfl | rfl) | rfl) | rfl <;> exact endsNumber_cons (by decide) _

theorem Number.exists_start (n : Number) : ∃ c more, n.text = c :: more ∧ IsStart c
    ∧ c ≠ '"' ∧ c ≠ '[' ∧ c ≠ '\x7b' := by
  obtain ⟨d, more, first, digit⟩ := n.exists_first
  have other : ∀ {e : CodePoint}, e.isDigit = false → d ≠ e := by
    rintro e plain rfl
    exact absurd digit (by simp [plain])
  unfold text
  split
  · exact ⟨_, _, rfl, by decide, by decide, by decide, by decide⟩
  · exact ⟨d, more, first,
      ⟨Numeral.isBlank_of_isDigit digit, other (by decide), other (by decide), other (by decide)⟩,
      other (by decide), other (by decide), other (by decide)⟩

theorem exists_start_word {word : List CodePoint} {value : Document}
    (known : (word, value) ∈ words) :
    ∃ c more, word = c :: more ∧ IsStart c ∧ c ≠ '"' ∧ c ≠ '[' ∧ c ≠ '\x7b' := by
  simp [words] at known
  rcases known with h | h | h | h | h | h <;>
    exact ⟨_, _, h.1, by decide, by decide, by decide, by decide⟩

theorem exists_start_of_denotes {s : List CodePoint} {d : Document} {demand : Demand}
    (denotes : Denotes s d demand) : ∃ c more, s = c :: more ∧ IsStart c := by
  cases denotes with
  | word known =>
    obtain ⟨c, more, text, start, -⟩ := exists_start_word known
    exact ⟨c, more, text, start⟩
  | number n =>
    obtain ⟨c, more, text, start, -⟩ := n.exists_start
    exact ⟨c, more, text, start⟩
  | text string =>
    obtain ⟨inside, units, rfl, -⟩ := string
    exact ⟨_, _, rfl, by decide⟩
  | noItems spaces => exact ⟨_, _, rfl, by decide⟩
  | list filled spaced each => exact ⟨_, _, rfl, by decide⟩
  | noEntries spaces => exact ⟨_, _, rfl, by decide⟩
  | mapping filled spaced names each => exact ⟨_, _, rfl, by decide⟩

/-! ## Lists and mappings -/

theorem readValue_list_zero (fuel : Nat) (rest : List CodePoint) :
    readValue (fuel + 1) 0 (.char '[' :: rest) = .error (.tooDeep .list) := rfl

theorem readValue_list (fuel depth : Nat) (rest : List CodePoint) :
    readValue (fuel + 1) (depth + 1) (.char '[' :: rest) =
      match skip rest with
      | .char ']' :: left => .ok (.list [], left)
      | inside => (readItems fuel depth inside).map fun (items, left) => (.list items, left) := rfl

theorem readValue_mapping_zero (fuel : Nat) (rest : List CodePoint) :
    readValue (fuel + 1) 0 (.char '\x7b' :: rest) = .error (.tooDeep .mapping) := rfl

theorem readValue_mapping (fuel depth : Nat) (rest : List CodePoint) :
    readValue (fuel + 1) (depth + 1) (.char '\x7b' :: rest) =
      match skip rest with
      | .char '\x7d' :: left => .ok (.mapping [], left)
      | inside =>
        (readEntries fuel depth [] inside).map fun (entries, left) => (.mapping entries, left) :=
  rfl

/-! ## Words and numbers -/

theorem readValue_other {fuel depth : Nat} {c : CodePoint} {more : List CodePoint} (text : c ≠ '"')
    (list : c ≠ '[') (mapping : c ≠ '\x7b') :
    readValue (fuel + 1) depth (c :: more) = readScalar (c :: more) := by
  rw [readValue.eq_def]
  simp [text, list, mapping]

theorem readScalar_word {word : List CodePoint} {value : Document} (known : (word, value) ∈ words)
    (rest : List CodePoint) : readScalar (word ++ rest) = .ok (value, rest) := by
  simp only [words, List.mem_cons, Prod.mk.injEq, List.not_mem_nil, or_false] at known
  rcases known with ⟨rfl, rfl⟩ | ⟨rfl, rfl⟩ | ⟨rfl, rfl⟩ | ⟨rfl, rfl⟩ | ⟨rfl, rfl⟩ | ⟨rfl, rfl⟩ <;>
    rfl

/-- No word starts as a number does. -/
theorem find?_words_text (n : Number) (rest : List CodePoint) :
    (words.find? fun (word, _) => word.isPrefixOf (n.text ++ rest)) = none := by
  obtain ⟨d, more, first, digit⟩ := n.exists_first
  have other : ∀ {e : CodePoint}, e.isDigit = false → ¬ e = d := by
    rintro e plain rfl
    exact absurd digit (by simp [plain])
  unfold Number.text
  rw [first]
  split <;>
    simp [words, other (e := 'n') rfl, other (e := 't') rfl, other (e := 'f') rfl,
      other (e := 'N') rfl, other (e := 'I') rfl, other (e := '-') rfl]

/-! ## Values -/

/-- A value is read from the front of a text, whatever comes behind it that is no part of a number.
The fuel suffices for reading into the value as far as its text is long. -/
def IsRead (s : List CodePoint) (d : Document) (demand : Demand) : Prop :=
  ∀ fuel depth rest, 2 * s.length ≤ fuel + 1 → EndsNumber rest →
    Yields depth demand d rest (readValue (fuel + 1) depth (s ++ rest))

theorem isRead_word {word : List CodePoint} {value : Document} (known : (word, value) ∈ words) :
    IsRead word value {} := by
  intro fuel depth rest _ _
  obtain ⟨c, more, first, -, text, list, mapping⟩ := exists_start_word known
  have read := readScalar_word known rest
  rw [first, List.cons_append] at read ⊢
  exact .of_ok ((readValue_other text list mapping).trans read)

theorem isRead_number (n : Number) : IsRead n.text n.document n.demand := by
  intro fuel depth rest _ ends
  obtain ⟨c, more, first, -, text, list, mapping⟩ := n.exists_start
  have scalar : readScalar (n.text ++ rest) = readNumber (n.text ++ rest) := by
    rw [readScalar, find?_words_text]
  have read := scalar.trans (readNumber_text n ends)
  rw [first, List.cons_append] at read ⊢
  rw [readValue_other text list mapping, read]
  constructor
  · rintro ⟨short, -⟩
    rw [if_neg]
    rintro ⟨whole, long⟩
    simp only [Number.demand, if_pos whole] at short
    exact Nat.not_lt.mpr (short n.whole (List.mem_singleton_self _)) long
  · intro unmet
    have long : ¬ AreShort n.demand.integers := fun short => unmet ⟨short, Nat.zero_le _⟩
    refine ⟨_, if_pos ?_, .long long⟩
    simp only [Number.demand] at long
    split at long
    · rename_i whole
      refine ⟨whole, Nat.lt_of_not_le fun short => long fun digits member => ?_⟩
      rwa [List.mem_singleton.mp member]
    · exact absurd (List.forall_mem_nil _) long

theorem isRead_text {s : List CodePoint} {value : Text} (string : SpellsString s value) :
    IsRead s (.text value) {} := by
  intro fuel depth rest _ _
  obtain ⟨behind, first, read⟩ := readString_spelled string rest
  refine .of_ok ?_
  rw [first, readValue, read]
  rfl

theorem isRead_noItems {blank : List CodePoint} (spaces : AreSpaces blank) :
    IsRead (.char '[' :: (blank ++ [.char ']'])) (.list []) (.nested {}) := by
  intro fuel depth rest _ _
  have skipped : skip (blank ++ .char ']' :: rest) = .char ']' :: rest := by
    rw [skip_spaces spaces, skip_filled (by decide)]
  rw [List.cons_append, List.append_assoc, List.singleton_append]
  cases depth with
  | zero => exact .of_tooDeep (readValue_list_zero fuel _)
  | succ depth =>
    rw [readValue_list, skipped]
    exact .nested (.of_ok rfl)

theorem isRead_noEntries {blank : List CodePoint} (spaces : AreSpaces blank) :
    IsRead (.char '\x7b' :: (blank ++ [.char '\x7d'])) (.mapping []) (.nested {}) := by
  intro fuel depth rest _ _
  have skipped : skip (blank ++ .char '\x7d' :: rest) = .char '\x7d' :: rest := by
    rw [skip_spaces spaces, skip_filled (by decide)]
  rw [List.cons_append, List.append_assoc, List.singleton_append]
  cases depth with
  | zero => exact .of_tooDeep (readValue_mapping_zero fuel _)
  | succ depth =>
    rw [readValue_mapping, skipped]
    exact .nested (.of_ok rfl)

/-- White space in front of a text is passed over. -/
theorem Piece.skip_text {p : Piece} {c : CodePoint} {more : List CodePoint} (spaced : p.IsSpaced)
    (first : p.body = c :: more) (filled : isBlank c = false) (rest : List CodePoint) :
    skip (p.text ++ rest) = p.body ++ (p.behind ++ rest) := by
  rw [Piece.text, List.append_assoc, List.append_assoc, skip_spaces spaced.1, first,
    List.cons_append, skip_filled filled]

/-- A value among others: nothing but white space stands around it, and it is read. -/
structure Item.IsReadable (item : Item) : Prop where
  spaced : item.piece.IsSpaced
  starts : ∃ c more, item.piece.body = c :: more ∧ IsStart c
  read : IsRead item.piece.body item.document item.demand

/-- A mark is no white space, and no number goes on with it. -/
def IsMark (mark : CodePoint) : Prop :=
  isBlank mark = false ∧ mark.isDigit = false ∧ mark ≠ '.' ∧ mark ≠ 'e' ∧ mark ≠ 'E'

instance (mark : CodePoint) : Decidable (IsMark mark) := inferInstanceAs (Decidable (_ ∧ _))

namespace Item.IsReadable

variable {item : Item}

theorem exists_skip_text (readable : item.IsReadable) (rest : List CodePoint) :
    ∃ c more, skip (item.text ++ rest) = c :: more ∧ IsStart c := by
  obtain ⟨c, more, first, start⟩ := readable.starts
  have skipped := Piece.skip_text readable.spaced first start.1 rest
  exact ⟨c, _, by rw [Item.text, skipped, first, List.cons_append], start⟩

/-- A value is read up to the mark behind it. -/
theorem yields (readable : item.IsReadable) {fuel : Nat} (depth : Nat) {mark : CodePoint}
    (known : IsMark mark) (enough : 2 * item.text.length ≤ fuel) (rest : List CodePoint) :
    ∃ behind, skip behind = mark :: rest ∧
      Yields depth item.demand item.document behind
        (readValue fuel depth (skip (item.text ++ mark :: rest))) := by
  obtain ⟨c, more, first, start⟩ := readable.starts
  have width : item.text.length =
      item.piece.before.length + (more.length + 1 + item.piece.behind.length) := by
    rw [Item.text, Piece.text, List.length_append, List.length_append, first, List.length_cons]
  obtain ⟨fuel, rfl⟩ : ∃ less, fuel = less + 1 := ⟨fuel - 1, by omega⟩
  refine ⟨item.piece.behind ++ mark :: rest, ?_, ?_⟩
  · rw [skip_spaces readable.spaced.2, skip_filled known.1]
  · rw [Item.text, Piece.skip_text readable.spaced first start.1]
    exact readable.read fuel depth _ (by rw [first, List.length_cons]; omega)
      (endsNumber_spaces readable.spaced.2 (endsNumber_cons known.2 rest))

end Item.IsReadable

/-- The items of a list are read. -/
theorem readItems_listed {items : List Item} (filled : items ≠ [])
    (readable : ∀ item ∈ items, item.IsReadable) :
    ∀ fuel depth rest, 2 * (listed Item.text items).length + 1 ≤ fuel →
      Yields depth (.all (items.map Item.demand)) (items.map Item.document) rest
        (readItems fuel depth (skip (listed Item.text items ++ .char ']' :: rest))) := by
  induction items with
  | nil => exact absurd rfl filled
  | cons item items ih =>
    intro fuel depth rest enough
    obtain ⟨fuel, rfl⟩ : ∃ less, fuel = less + 1 := ⟨fuel - 1, by omega⟩
    rw [List.forall_mem_cons] at readable
    -- The comma behind an item pays for the fuel that is spent on going on with the next one.
    cases items with
    | nil =>
      rw [listed_singleton] at enough ⊢
      obtain ⟨behind, skipped, first⟩ :=
        readable.1.yields depth (show IsMark ']' by decide) (show _ ≤ fuel by omega) rest
      rw [readItems]
      refine first.bind (.of_ok ?_)
      simp only [skipped]
      rfl
    | cons next items =>
      rw [listed_cons_cons] at enough ⊢
      rw [List.length_append, List.length_cons] at enough
      obtain ⟨behind, skipped, first⟩ :=
        readable.1.yields depth (show IsMark ',' by decide) (show _ ≤ fuel by omega)
          (listed Item.text (next :: items) ++ .char ']' :: rest)
      have others := ih (by simp) readable.2 fuel depth rest (by omega)
      rw [List.append_assoc, List.cons_append, readItems]
      refine first.bind ?_
      simp only [skipped]
      exact others.map (item.document :: ·)

/-- An entry among others: so it is with its name and with its value. -/
structure Member.IsReadable (m : Member) : Prop where
  spaced : m.name.IsSpaced
  name : SpellsString m.name.body m.key
  value : m.value.IsReadable

theorem Member.IsReadable.skip_text {m : Member} (readable : m.IsReadable) (rest : List CodePoint) :
    skip (m.text ++ rest) =
      m.name.body ++ (m.name.behind ++ .char ':' :: (m.value.text ++ rest)) := by
  obtain ⟨inside, units, body, -⟩ := readable.name
  rw [Member.text, List.append_assoc, List.cons_append,
    Piece.skip_text readable.spaced body (by decide)]

/-- An entry is read as its name, a colon and its value. -/
theorem readEntries_member {m : Member} (readable : m.IsReadable) (fuel depth : Nat)
    (seen : List (Text × Document)) (rest : List CodePoint) :
    readEntries (fuel + 1) depth seen (skip (m.text ++ rest)) =
      (readValue fuel depth (skip (m.value.text ++ rest))).bind fun (value, rest) =>
        match skip rest with
        | .char '\x7d' :: left => .ok (OrderedMap.set m.key value seen, left)
        | .char ',' :: more => readEntries fuel depth (OrderedMap.set m.key value seen) (skip more)
        | other => refuse .expectingComma other := by
  obtain ⟨behind, first, read⟩ :=
    readString_spelled readable.name (m.name.behind ++ .char ':' :: (m.value.text ++ rest))
  have skipped := readable.skip_text rest
  rw [first] at skipped
  have colon : skip (m.name.behind ++ .char ':' :: (m.value.text ++ rest)) =
      .char ':' :: (m.value.text ++ rest) := by
    rw [skip_spaces readable.spaced.2, skip_filled (by decide)]
  rw [skipped, readEntries, read]
  simp only [bind, Except.bind, colon]
  rfl

/-- The entries of a mapping are read and set in the map of those before. -/
theorem readEntries_listed {members : List Member} (filled : members ≠ [])
    (readable : ∀ m ∈ members, m.IsReadable) :
    ∀ fuel depth (seen : OrderedMap Document) rest,
      2 * (listed Member.text members).length + 1 ≤ fuel →
      Yields depth (.all (members.map Member.demand))
        (seen.insertAll (members.map Member.entry)).entries rest
        (readEntries fuel depth seen.entries
          (skip (listed Member.text members ++ .char '\x7d' :: rest))) := by
  induction members with
  | nil => exact absurd rfl filled
  | cons m members ih =>
    intro fuel depth seen rest enough
    obtain ⟨fuel, rfl⟩ : ∃ less, fuel = less + 1 := ⟨fuel - 1, by omega⟩
    rw [List.forall_mem_cons] at readable
    have width : m.value.text.length ≤ m.text.length := by
      rw [Member.text, List.length_append, List.length_cons]
      omega
    cases members with
    | nil =>
      rw [listed_singleton] at enough ⊢
      obtain ⟨behind, skipped, first⟩ :=
        readable.1.value.yields depth (show IsMark '\x7d' by decide) (show _ ≤ fuel by omega) rest
      rw [readEntries_member readable.1]
      refine first.bind (.of_ok ?_)
      simp only [skipped]
      rfl
    | cons next members =>
      rw [listed_cons_cons] at enough ⊢
      rw [List.length_append, List.length_cons] at enough
      obtain ⟨behind, skipped, first⟩ :=
        readable.1.value.yields depth (show IsMark ',' by decide) (show _ ≤ fuel by omega)
          (listed Member.text (next :: members) ++ .char '\x7d' :: rest)
      have others := ih (by simp) readable.2 fuel depth (seen.insert m.key m.value.document) rest
        (by omega)
      rw [List.append_assoc, List.cons_append, readEntries_member readable.1]
      refine first.bind ?_
      simp only [skipped]
      exact others

theorem isRead_list {items : List Item} (filled : items ≠ [])
    (readable : ∀ item ∈ items, item.IsReadable) :
    IsRead (.char '[' :: (listed Item.text items ++ [.char ']'])) (.list (items.map Item.document))
      (Demand.all (items.map Item.demand)).nested := by
  intro fuel depth rest enough _
  rw [List.length_cons, List.length_append] at enough
  obtain ⟨item, others, rfl⟩ := List.exists_cons_of_ne_nil filled
  obtain ⟨behind, front⟩ := listed_cons Item.text item others
  obtain ⟨c, more, first, start⟩ :=
    (readable item List.mem_cons_self).exists_skip_text (behind ++ .char ']' :: rest)
  rw [List.cons_append, List.append_assoc, List.singleton_append]
  cases depth with
  | zero => exact .of_tooDeep (readValue_list_zero fuel _)
  | succ depth =>
    have inside := readItems_listed filled readable fuel depth rest (by omega)
    rw [readValue_list]
    rw [front, List.append_assoc, first] at inside ⊢
    split
    · rename_i closing
      cases closing
      exact absurd rfl start.2.1
    · exact (inside.map Document.list).nested

theorem isRead_mapping {members : List Member} (filled : members ≠ [])
    (readable : ∀ m ∈ members, m.IsReadable) :
    IsRead (.char '\x7b' :: (listed Member.text members ++ [.char '\x7d']))
      (.mapping (OrderedMap.ofList (members.map Member.entry)).entries)
      (Demand.all (members.map Member.demand)).nested := by
  intro fuel depth rest enough _
  rw [List.length_cons, List.length_append] at enough
  obtain ⟨m, others, rfl⟩ := List.exists_cons_of_ne_nil filled
  obtain ⟨behind, front⟩ := listed_cons Member.text m others
  obtain ⟨_, _, body, -⟩ := (readable m List.mem_cons_self).name
  have first := (readable m List.mem_cons_self).skip_text (behind ++ .char '\x7d' :: rest)
  rw [body, List.cons_append] at first
  rw [List.cons_append, List.append_assoc, List.singleton_append]
  cases depth with
  | zero => exact .of_tooDeep (readValue_mapping_zero fuel _)
  | succ depth =>
    have inside := readEntries_listed filled readable fuel depth .empty rest (by omega)
    rw [readValue_mapping]
    rw [front, List.append_assoc, first] at inside ⊢
    split
    · rename_i closing
      cases closing
    · exact (inside.map Document.mapping).nested

/-- Every value is read, by induction on how it is written. -/
theorem isRead_of_denotes {s : List CodePoint} {d : Document} {demand : Demand}
    (denotes : Denotes s d demand) : IsRead s d demand := by
  induction denotes with
  | word known => exact isRead_word known
  | number n => exact isRead_number n
  | text string => exact isRead_text string
  | noItems spaces => exact isRead_noItems spaces
  | list filled spaced each ih =>
    exact isRead_list filled fun item member =>
      ⟨spaced item member, exists_start_of_denotes (each item member), ih item member⟩
  | noEntries spaces => exact isRead_noEntries spaces
  | mapping filled spaced names each ih =>
    exact isRead_mapping filled fun m member =>
      ⟨(spaced m member).1, names m member, (spaced m member).2,
        exists_start_of_denotes (each m member), ih m member⟩

theorem readText_text {p : Piece} {c : CodePoint} {more : List CodePoint} (spaced : p.IsSpaced)
    (first : p.body = c :: more) (start : IsStart c) (depth : Nat) :
    readText depth p.text = (readValue (2 * p.text.length + 2) depth (p.body ++ p.behind)).bind
      fun (value, rest) => match skip rest with
        | [] => .ok value
        | extra => .error (.problem .extraData extra.length) := by
  have unmarked : ¬ p.text.head? = some (.char '\uFEFF') := by
    rw [Piece.text, first]
    cases before : p.before with
    | nil => exact fun head => start.2.2.2 (Option.some.inj head)
    | cons d others =>
      have space : isSpace d = true := spaced.1 d (by rw [before]; exact List.mem_cons_self)
      intro head
      obtain rfl : d = '\uFEFF' := Option.some.inj head
      exact absurd space (by decide)
  have skipped := Piece.skip_text spaced first start.1 []
  rw [List.append_nil, List.append_nil] at skipped
  rw [readText, if_neg (by simpa using unmarked), skipped]
  rfl

/-- A document is read from every text of it, unless the text asks for too much. -/
theorem readWithin_of_isTextOf {s : List CodePoint} {d : Document} {demand : Demand}
    (isText : IsTextOf s d demand) (depth : Nat) :
    readWithin depth s = .ok d ∧ demand.IsMet depth ∨
      ¬ demand.IsMet depth ∧
        ∃ f, readWithin depth s = .error (f.error s) ∧ demand.IsRefusal depth f := by
  obtain ⟨p, spaced, rfl, denotes⟩ := isText
  obtain ⟨c, more, first, start⟩ := exists_start_of_denotes denotes
  have behind : skip p.behind = [] := List.dropWhile_eq_nil_iff.mpr spaced.2
  have width : p.body.length ≤ p.text.length := by
    rw [Piece.text, List.length_append, List.length_append]
    omega
  have ends : EndsNumber p.behind := by
    have nothing : EndsNumber [] := by simp [EndsNumber]
    have none := endsNumber_spaces spaced.2 nothing
    rwa [List.append_nil] at none
  have value := isRead_of_denotes denotes (2 * p.text.length + 1) depth p.behind (by omega) ends
  rw [readWithin, readText_text spaced first start]
  by_cases met : demand.IsMet depth
  · refine .inl ⟨?_, met⟩
    rw [value.read met]
    simp only [Except.bind, behind]
    rfl
  · obtain ⟨f, refused, refusal⟩ := value.refused met
    refine .inr ⟨met, f, ?_, refusal⟩
    rw [refused]
    rfl

end LogTemplate.Json
