import LogTemplate.Field.Run
import LogTemplate.Proofs.Text.Munch

/-!
# What the run of a kind is

`Kind.IsRun` says without any scanning when a part of a text is the longest run of a kind: by its
characters, and by the text that follows it.  `Kind.Admits` is the language of a kind: the texts
that could be its run somewhere.  Main statements: `Kind.run` finds the run; and where it ends is
where the longest text of the language ends, and depends on nothing but the text behind the place
where it starts.
-/

namespace LogTemplate.Kind

/-- What stands behind a run of a character class: nothing, or a character outside the class. -/
def StopsAt (p : CodePoint → Bool) (after : List CodePoint) : Prop := ∀ c ∈ after.head?, p c = false

/-- `value` is the longest run of the kind in front of `after`.  For free text, `stop` is the first
character of a literal that follows at once, if one does. -/
def IsRun (kind : Kind) (stop : Option CodePoint) (value after : List CodePoint) : Prop :=
  match kind with
  | .number =>
    (∃ digits, digits ≠ [] ∧ (∀ c ∈ digits, c.isDigit = true)
      ∧ (value = digits ∨ value = .char '-' :: digits)) ∧ StopsAt CodePoint.isDigit after
  | .any =>
    match stop with
    | none => after = []
    | some c => c ∉ value ∧ (after = [] ∨ after.head? = some c)
  | kind => (∀ c ∈ value, kind.isRunChar c = true) ∧ StopsAt kind.isRunChar after

theorem takeUntil_singleton (c : CodePoint) (s : List CodePoint) :
    takeUntil [c] s = s.takeWhile (· != c) := by
  induction s with
  | nil => rfl
  | cons first rest ih =>
    by_cases equal : first = c
    · simp [takeUntil, equal]
    · simp [takeUntil, equal, Ne.symm equal, ih]

theorem forall_bne_iff {c : CodePoint} {s : List CodePoint} :
    (∀ d ∈ s, (d != c) = true) ↔ c ∉ s := by
  simp only [bne_iff_ne]
  constructor
  · intro apart member
    exact apart c member rfl
  · rintro absent d member rfl
    exact absent member

/-- The text before a character holds none of it and ends with the text, or where one stands. -/
theorem takeUntil_append_eq_iff {c : CodePoint} {value after : List CodePoint} :
    takeUntil [c] (value ++ after) = value ↔
      c ∉ value ∧ (after = [] ∨ after.head? = some c) := by
  rw [takeUntil_singleton, Text.takeWhile_append_eq_iff, forall_bne_iff]
  cases after <;> simp

theorem numberRun_of_head_ne {s : List CodePoint} (unsigned : s.head? ≠ some (.char '-')) :
    numberRun s = s.takeWhile CodePoint.isDigit := by
  unfold numberRun
  split
  · simp at unsigned
  · rfl

theorem numberRun_minus (s : List CodePoint) :
    numberRun (.char '-' :: s) =
      if s.takeWhile CodePoint.isDigit = [] then []
      else .char '-' :: s.takeWhile CodePoint.isDigit := by
  simp only [numberRun]
  split
  · rename_i empty
    rw [if_pos empty]
  · rename_i filled
    rw [if_neg filled]

/-- A number is found exactly where digits, perhaps behind a sign, are followed by no digit. -/
theorem numberRun_append_eq_iff {value after : List CodePoint} (filled : value ≠ []) :
    numberRun (value ++ after) = value ↔
      (∃ digits, digits ≠ [] ∧ (∀ c ∈ digits, c.isDigit = true)
        ∧ (value = digits ∨ value = .char '-' :: digits)) ∧ StopsAt CodePoint.isDigit after := by
  cases value with
  | nil => exact absurd rfl filled
  | cons first rest =>
    by_cases sign : first = '-'
    · subst sign
      rw [List.cons_append, numberRun_minus]
      constructor
      · intro found
        split at found
        · simp at found
        · rename_i digited
          obtain ⟨inside, stops⟩ := Text.takeWhile_append_eq_iff.mp (List.cons.inj found).2
          rw [(List.cons.inj found).2] at digited
          exact ⟨⟨rest, digited, inside, .inr rfl⟩, stops⟩
      · rintro ⟨⟨digits, digited, inside, shape⟩, stops⟩
        rcases shape with rfl | shape
        · have minus := inside '-' (by simp)
          exact absurd minus (by decide)
        · obtain rfl := (List.cons.inj shape).2
          rw [Text.takeWhile_append_of_stops inside stops, if_neg digited]
    · have unsigned : ((first :: rest) ++ after).head? ≠ some (.char '-') := by simpa using sign
      rw [numberRun_of_head_ne unsigned, Text.takeWhile_append_eq_iff]
      constructor
      · rintro ⟨inside, stops⟩
        exact ⟨⟨first :: rest, filled, inside, .inl rfl⟩, stops⟩
      · rintro ⟨⟨digits, -, inside, shape⟩, stops⟩
        rcases shape with rfl | shape
        · exact ⟨inside, stops⟩
        · exact absurd (List.cons.inj shape).1 sign

/-- The run of a kind, told apart from what follows it, is found as such. -/
theorem run_append_eq_iff {kind : Kind} {stop : Option CodePoint} {value after : List CodePoint}
    (filled : value ≠ []) :
    kind.run (stop.map ([·])) (value ++ after) = value ↔ kind.IsRun stop value after := by
  cases kind with
  | number => exact numberRun_append_eq_iff filled
  | any =>
    cases stop with
    | none => simp [run, IsRun]
    | some c => exact takeUntil_append_eq_iff
  | string => exact Text.takeWhile_append_eq_iff
  | ipv4 => exact Text.takeWhile_append_eq_iff
  | ipv6 => exact Text.takeWhile_append_eq_iff
  | timestamp => exact Text.takeWhile_append_eq_iff

/-- What is found at the front of a text, followed by the rest of the text, is a run. -/
theorem isRun_run {kind : Kind} {stop : Option CodePoint} {s : List CodePoint}
    (filled : kind.run (stop.map ([·])) s ≠ []) :
    kind.IsRun stop (kind.run (stop.map ([·])) s)
      (s.drop (kind.run (stop.map ([·])) s).length) := by
  have whole : kind.run (stop.map ([·])) s
      ++ s.drop (kind.run (stop.map ([·])) s).length = s := by
    have front := run_prefix kind (stop.map ([·])) s
    exact List.prefix_iff_eq_append.mp front
  rw [← run_append_eq_iff filled, whole]

/-! ## What ends a run -/

/-- Unless it is free text, a run ends before a character outside its class. -/
theorem IsRun.stopsAt {kind : Kind} {stop : Option CodePoint} {value after : List CodePoint}
    (run : kind.IsRun stop value after) (classed : kind ≠ .any) :
    StopsAt kind.isRunChar after := by
  cases kind with
  | any => exact absurd rfl classed
  | number => exact run.2
  | string => exact run.2
  | ipv4 => exact run.2
  | ipv6 => exact run.2
  | timestamp => exact run.2

theorem isWordChar_of_isDigit {c : CodePoint} (digit : c.isDigit = true) : isWordChar c = true := by
  have alphanumeric : Text.isAlphanumeric c = true :=
    Text.isAlphanumeric_of_isAlphanum (CodePoint.isAlphanum_of_isDigit digit)
  simp [isWordChar, alphanumeric]

/-- A word starts with a character of a word, and so does a number. -/
theorem IsRun.isWordChar_head {kind : Kind} {stop : Option CodePoint} {value after : List CodePoint}
    (run : kind.IsRun stop value after) (wordlike : kind = .string ∨ kind = .number) :
    ∀ c ∈ value.head?, isWordChar c = true := by
  intro c head
  rcases wordlike with rfl | rfl
  · exact run.1 c (List.mem_of_mem_head? head)
  · obtain ⟨digits, -, inside, rfl | rfl⟩ := run.1
    · exact isWordChar_of_isDigit (inside c (List.mem_of_mem_head? head))
    · obtain rfl : '-' = c := by simpa using head
      decide

/-! ## The language of a kind -/

open Text

/-- Decimal digits, behind a minus sign or not. -/
def IsNumeral (s : List CodePoint) : Prop :=
  ∃ digits, digits ≠ [] ∧ (∀ c ∈ digits, c.isDigit = true) ∧ (s = digits ∨ s = .char '-' :: digits)

/-- The language of a kind: nothing or a numeral, all texts over a class of characters, or, for free
text, all texts without the character that stops it, if there is one. -/
def Admits (kind : Kind) (stop : Option CodePoint) (s : List CodePoint) : Prop :=
  match kind with
  | .number => s = [] ∨ IsNumeral s
  | .any => ∀ c ∈ stop, c ∉ s
  | kind => ∀ c ∈ s, kind.isRunChar c = true

/-- A numeral at the front of a text without a sign is made of digits. -/
theorem IsNumeral.digits_of_head_ne {s other : List CodePoint} (numeral : IsNumeral other)
    (unsigned : s.head? ≠ some (.char '-')) (leads : other <+: s) :
    ∀ c ∈ other, c.isDigit = true := by
  obtain ⟨digits, -, inside, rfl | rfl⟩ := numeral
  · exact inside
  · obtain ⟨after, rfl⟩ := leads
    exact absurd rfl unsigned

/-- A numeral behind a sign is the sign and digits. -/
theorem IsNumeral.exists_digits_of_minus {s other : List CodePoint} (numeral : IsNumeral other)
    (leads : other <+: .char '-' :: s) :
    ∃ digits, other = .char '-' :: digits ∧ digits ≠ []
      ∧ digits <+: s.takeWhile CodePoint.isDigit := by
  obtain ⟨digits, filled, inside, rfl | rfl⟩ := numeral
  · -- a minus sign is no digit
    obtain ⟨first, rest, rfl⟩ := List.exists_cons_of_ne_nil filled
    obtain ⟨rfl, -⟩ := List.cons_prefix_cons.mp leads
    exact absurd (inside '-' List.mem_cons_self) (by decide)
  · obtain ⟨-, behind⟩ := List.cons_prefix_cons.mp leads
    exact ⟨digits, rfl, filled, leads_takeWhile inside behind⟩

theorem isLongest_numberRun (stop : Option CodePoint) (s : List CodePoint) :
    IsLongest (Admits .number stop) s (numberRun s) := by
  have leads := numberRun_prefix s
  refine ⟨leads, ?_, ?_⟩
  · by_cases empty : numberRun s = []
    · exact .inl empty
    · have found : numberRun (numberRun s ++ s.drop (numberRun s).length) = numberRun s := by
        rw [List.prefix_iff_eq_append.mp leads]
      exact .inr ((numberRun_append_eq_iff empty).mp found).1
  · rintro other leads (rfl | numeral)
    · exact Nat.zero_le _
    · by_cases unsigned : s.head? ≠ some (.char '-')
      · rw [numberRun_of_head_ne unsigned]
        have inside := numeral.digits_of_head_ne unsigned leads
        exact (leads_takeWhile inside leads).length_le
      · obtain ⟨rest, rfl⟩ := List.head?_eq_some_iff.mp (not_not.mp unsigned)
        obtain ⟨digits, rfl, filled, behind⟩ := numeral.exists_digits_of_minus leads
        have digited : rest.takeWhile CodePoint.isDigit ≠ [] := by
          intro none
          rw [none] at behind
          exact filled (List.prefix_nil.mp behind)
        rw [numberRun_minus, if_neg digited]
        exact Nat.succ_le_succ behind.length_le

/-- The run of a kind is the longest text of its language at the front of a text. -/
theorem isLongest_run (kind : Kind) (stop : Option CodePoint) (s : List CodePoint) :
    IsLongest (kind.Admits stop) s (kind.run (stop.map ([·])) s) := by
  cases kind with
  | number => exact isLongest_numberRun stop s
  | string => exact isLongest_takeWhile isWordChar s
  | ipv4 => exact isLongest_takeWhile isIpv4Char s
  | ipv6 => exact isLongest_takeWhile isIpv6Char s
  | timestamp => exact isLongest_takeWhile isTimestampChar s
  | any =>
    cases stop with
    | none => exact ⟨List.prefix_rfl, by simp [Admits], fun _ leads _ => leads.length_le⟩
    | some c =>
      have avoids : ∀ t, (∀ d ∈ t, (d != c) = true) ↔ Admits .any (some c) t := by
        intro t
        simp only [forall_bne_iff, Admits, Option.mem_some_iff, forall_eq']
      obtain ⟨leads, has, longest⟩ := isLongest_takeWhile (· != c) s
      rw [← takeUntil_singleton] at leads has longest
      refine ⟨leads, (avoids _).mp has, ?_⟩
      intro other front admitted
      exact longest other front ((avoids other).mpr admitted)

/-! ## Where a run ends -/

theorem runEnd_of_le {kind : Kind} {text : List CodePoint} {position : Nat}
    {stop : Option (List CodePoint)}
    (within : position ≤ text.length) :
    kind.runEnd text position stop = position + (kind.run stop (text.drop position)).length := by
  unfold runEnd
  exact if_neg (Nat.not_lt.mpr within)

/-- A run that starts inside a text ends there, where the longest text of the language of the kind
ends; its length is the same wherever the same text follows.  It is empty exactly if all that the
language has there is the empty text. -/
theorem runEnd_isLongest (kind : Kind) (text : List CodePoint) (position : Nat)
    (stop : Option CodePoint)
    (within : position ≤ text.length) :
    position ≤ kind.runEnd text position (stop.map ([·]))
      ∧ kind.runEnd text position (stop.map ([·])) ≤ text.length
      ∧ (∀ other place, place ≤ other.length → other.drop place = text.drop position →
        kind.runEnd other place (stop.map ([·])) =
          place + (kind.runEnd text position (stop.map ([·])) - position))
      ∧ IsLongest (kind.Admits stop) (text.drop position)
        ((text.drop position).take (kind.runEnd text position (stop.map ([·])) - position))
      ∧ (kind.runEnd text position (stop.map ([·])) = position ↔
        ∀ s, s <+: text.drop position → kind.Admits stop s → s = []) := by
  have isLongest := isLongest_run kind stop (text.drop position)
  have fits := isLongest.leads.length_le
  rw [List.length_drop] at fits
  rw [runEnd_of_le within, Nat.add_sub_cancel_left]
  refine ⟨Nat.le_add_right _ _, by omega, ?_, ?_, ?_⟩
  · intro other place inside same
    rw [runEnd_of_le inside, same]
  · rw [← List.prefix_iff_eq_take.mp isLongest.leads]
    exact isLongest
  · rw [← isLongest.eq_nil_iff, Nat.add_eq_left, List.length_eq_zero_iff]

theorem runEnd_isLongest_port :
    5 ≤ (Text.toList "port 8080 open").length
      ∧ IsLongest (Kind.number.Admits none) (Text.toList "8080 open") (Text.toList "8080") := by
  have within : 5 ≤ (Text.toList "port 8080 open").length := by decide
  obtain ⟨-, -, -, isLongest, -⟩ :=
    runEnd_isLongest .number (Text.toList "port 8080 open") 5 none within
  exact ⟨within, isLongest⟩

end LogTemplate.Kind
