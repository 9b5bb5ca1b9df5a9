import LogTemplate.Proofs.Text.Split
import LogTemplate.Uuid
import Mathlib.Algebra.Ring.Nat

/-!
# The order of UUIDs

UUIDs are compared by their numbers.  Main statement: their written forms, compared as texts, are
in the same order.
-/

namespace LogTemplate.Text

/-- Of two texts whose fronts are equally long, the fronts decide, and the rests only if the fronts
are equal. -/
theorem append_lt_append_iff {front other rest otherRest : List CodePoint}
    (same : front.length = other.length) :
    front ++ rest < other ++ otherRest ↔ front < other ∨ front = other ∧ rest < otherRest := by
  induction front generalizing other with
  | nil =>
    obtain rfl : other = [] := List.length_eq_zero_iff.mp same.symm
    simp
  | cons c front ih =>
    cases other with
    | nil => cases same
    | cons d other =>
      have shorter : front.length = other.length := by simpa using same
      simp only [List.cons_append, List.cons_lt_cons_iff, ih shorter, List.cons.injEq]
      constructor
      · rintro (less | ⟨equal, less | ⟨fronts, less⟩⟩)
        · exact .inl (.inl less)
        · exact .inl (.inr ⟨equal, less⟩)
        · exact .inr ⟨⟨equal, fronts⟩, less⟩
      · rintro ((less | ⟨equal, less⟩) | ⟨⟨equal, fronts⟩, less⟩)
        · exact .inl less
        · exact .inr ⟨equal, .inl less⟩
        · exact .inr ⟨equal, .inr ⟨fronts, less⟩⟩

/-- Marks between groups of the same lengths do not change the order. -/
theorem intercalate_lt_intercalate_iff {mark : CodePoint} {groups others : List (List CodePoint)}
    (same : groups.map List.length = others.map List.length) :
    [mark].intercalate groups < [mark].intercalate others ↔ groups.flatten < others.flatten := by
  induction groups generalizing others with
  | nil =>
    obtain rfl : others = [] := List.map_eq_nil_iff.mp same.symm
    simp
  | cons group groups ih =>
    cases others with
    | nil => cases same
    | cons other others =>
      obtain ⟨first, later⟩ := List.cons.inj same
      cases groups with
      | nil =>
        obtain rfl : others = [] := List.map_eq_nil_iff.mp later.symm
        simp
      | cons next groups =>
        cases others with
        | nil => cases later
        | cons next' others =>
          rw [List.intercalate_cons_cons, List.intercalate_cons_cons, List.flatten_cons,
            List.flatten_cons (l := other), List.append_assoc, List.append_assoc,
            append_lt_append_iff first, append_lt_append_iff first, append_lt_append_iff rfl,
            ih later]
          simp

theorem hexDigit_lt_hexDigit_iff {a b : Nat} (small : a < 16) (small' : b < 16) :
    hexDigit a < hexDigit b ↔ a < b := by
  have all : ∀ a b : Fin 16, hexDigit a < hexDigit b ↔ a < b := by decide
  exact all ⟨a, small⟩ ⟨b, small'⟩

theorem hexDigits_lt_hexDigits_iff {count a b : Nat} (fits : a < 16 ^ count)
    (fits' : b < 16 ^ count) : hexDigits count a < hexDigits count b ↔ a < b := by
  induction count generalizing a b with
  | zero =>
    have : a = b := by omega
    simp [hexDigits, this]
  | succ count ih =>
    rw [Nat.pow_succ] at fits fits'
    have high : a / 16 < 16 ^ count := by omega
    have high' : b / 16 < 16 ^ count := by omega
    have equal : hexDigits count (a / 16) = hexDigits count (b / 16) ↔ a / 16 = b / 16 := by
      constructor
      · intro texts
        have notLess : ¬ a / 16 < b / 16 := by
          rw [← ih high high', texts]
          exact List.lt_irrefl _
        have notMore : ¬ b / 16 < a / 16 := by
          rw [← ih high' high, texts]
          exact List.lt_irrefl _
        omega
      · intro numbers
        rw [numbers]
    rw [hexDigits, hexDigits, append_lt_append_iff (by simp [length_hexDigits]), ih high high',
      equal, List.cons_lt_cons_iff,
      hexDigit_lt_hexDigit_iff (Nat.mod_lt _ (by decide)) (Nat.mod_lt _ (by decide))]
    simp only [List.lt_irrefl, and_false, or_false]
    omega

end LogTemplate.Text

namespace LogTemplate.Uuid

/-- The digits of a UUID in the groups that its written form shows. -/
theorem chars_eq (u : Uuid) :
    ∃ groups : List (List CodePoint), u.chars = [.char '-'].intercalate groups
      ∧ groups.flatten = Text.hexDigits 32 u.value
      ∧ groups.map List.length = [8, 4, 4, 4, 12] := by
  have length := Text.length_hexDigits 32 u.value
  refine ⟨_, rfl, ?_, by simp [length]⟩
  generalize Text.hexDigits 32 u.value = digits at length
  have last : (digits.drop 20).take 12 = digits.drop 20 := List.take_of_length_le (by simp [length])
  have step : ∀ start size, (digits.drop start).take size ++ digits.drop (start + size)
      = digits.drop start := by
    intro start size
    rw [← List.drop_drop, List.take_append_drop]
  simp only [List.flatten_cons, List.flatten_nil, List.append_nil]
  rw [last, step 16 4, step 12 4, step 8 4, step 0 8, List.drop_zero]

theorem isWhole_text (u : Uuid) : Text.isWhole u.text.toList = true := by
  obtain ⟨groups, shown, digits, -⟩ := u.chars_eq
  rw [text, Text.toList_ofList, shown, Text.isWhole_iff]
  intro c member
  rcases Text.mem_of_mem_intercalate member with hyphen | ⟨group, known, inside⟩
  · rw [List.mem_singleton.mp hyphen]
    rfl
  · refine Text.isWhole_iff.mp (Text.isWhole_hexDigits 32 u.value) c ?_
    rw [← digits]
    exact List.mem_flatten_of_mem known inside

/-- The written forms of UUIDs are in the order of their numbers. -/
theorem text_lt_text_iff {u v : Uuid} : u.text < v.text ↔ u.value < v.value := by
  obtain ⟨groups, shown, digits, lengths⟩ := u.chars_eq
  obtain ⟨groups', shown', digits', lengths'⟩ := v.chars_eq
  rw [text, text, Text.lt_iff, Text.toList_ofList, Text.toList_ofList, shown, shown',
    Text.intercalate_lt_intercalate_iff (lengths.trans lengths'.symm), digits, digits']
  have limits : limit = 16 ^ 32 := by decide
  exact Text.hexDigits_lt_hexDigits_iff (limits ▸ u.value_lt) (limits ▸ v.value_lt)

/-- UUIDs with the same written form are the same. -/
theorem text_injective {u v : Uuid} (same : u.text = v.text) : u = v := by
  have not_below : ∀ {u v : Uuid}, u.text = v.text → ¬ u.value < v.value := by
    intro u v same less
    have below := text_lt_text_iff.mpr less
    rw [same] at below
    exact Text.lt_irrefl _ below
  have equal : u.value = v.value :=
    Nat.le_antisymm (Nat.le_of_not_lt (not_below same.symm)) (Nat.le_of_not_lt (not_below same))
  cases u
  cases v
  cases equal
  rfl

end LogTemplate.Uuid
