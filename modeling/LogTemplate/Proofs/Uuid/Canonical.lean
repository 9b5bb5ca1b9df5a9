import LogTemplate.Proofs.Numeral
import LogTemplate.Proofs.Text.Split
import LogTemplate.Proofs.Uuid

/-!
# Canonical forms of UUIDs

A text is a canonical form of a UUID if it is the written form in letters of either case.  Main
statements: a canonical form is read as the UUID that it writes, and it writes only one.
-/

namespace LogTemplate.Text

/-! ## Letters of either case -/

theorem toNat_lt_of_toLower {c : CodePoint} (ascii : c.toLower.toNat < 128) : c.toNat < 128 := by
  cases c with
  | lone half => exact ascii
  | char c =>
    rw [CodePoint.toLower, CodePoint.toNat_char] at ascii
    rw [CodePoint.toNat_char]
    unfold Char.toLower at ascii
    split at ascii
    · rename_i upper
      have below : c.toNat ≤ 'Z'.toNat := upper.2
      have top : 'Z'.toNat = 90 := rfl
      omega
    · exact ascii

/-- What holds of each of the first characters holds of every character among them. -/
theorem forall_ascii {P : CodePoint → Prop} (all : ∀ n : Fin 128, P (CodePoint.ofNat n))
    {c : CodePoint} (ascii : c.toNat < 128) : P c := by
  have checked := all ⟨c.toNat, ascii⟩
  rwa [CodePoint.ofNat_toNat] at checked

theorem hexValue?_of_toLower {c : CodePoint} {value : Nat} (small : value < 16)
    (lower : c.toLower = hexDigit value) : hexValue? c = some value := by
  have digits : ∀ v : Fin 16, (hexDigit v).toNat < 128 := by decide
  have ascii : c.toNat < 128 := toNat_lt_of_toLower (lower ▸ digits ⟨value, small⟩)
  have checked : ∀ v : Fin 16, c.toLower = hexDigit v → hexValue? c = some v.val := by
    apply forall_ascii (c := c) _ ascii
    decide +kernel
  exact checked ⟨value, small⟩ lower

theorem toLower_eq_hyphen_iff {c : CodePoint} : c.toLower = '-' ↔ c = '-' := by
  constructor
  · intro lower
    have ascii : c.toNat < 128 := toNat_lt_of_toLower (by rw [lower]; decide)
    have checked : c.toLower = '-' → c = '-' := by
      apply forall_ascii (c := c) _ ascii
      decide +kernel
    exact checked lower
  · rintro rfl
    rfl

/-! ## Hexadecimal digits and their values -/

/-- The values of the lowest hexadecimal digits of a number. -/
def hexValues : Nat → Nat → List Nat
  | 0, _ => []
  | count + 1, value => hexValues count (value / 16) ++ [value % 16]

theorem hexDigits_eq_map (count value : Nat) :
    hexDigits count value = (hexValues count value).map hexDigit := by
  induction count generalizing value with
  | zero => rfl
  | succ count ih => rw [hexDigits, hexValues, ih, List.map_append, List.map_singleton]

theorem lt_of_mem_hexValues {count value v : Nat} (member : v ∈ hexValues count value) :
    v < 16 := by
  induction count generalizing value with
  | zero => cases member
  | succ count ih =>
    rcases List.mem_append.mp member with high | low
    · exact ih high
    · rw [List.mem_singleton.mp low]
      exact Nat.mod_lt _ (by decide)

theorem ofDigits_hexValues {count value : Nat} (fits : value < 16 ^ count) :
    Numeral.ofDigits 16 (hexValues count value) = value := by
  induction count generalizing value with
  | zero =>
    have zero : value = 0 := by omega
    rw [zero]
    rfl
  | succ count ih =>
    rw [Nat.pow_succ] at fits
    have high : value / 16 < 16 ^ count := by omega
    have digits := ih high
    rw [Numeral.ofDigits] at digits ⊢
    rw [hexValues, List.foldl_append, digits, List.foldl_cons, List.foldl_nil]
    omega

/-- The value of a hexadecimal digit. -/
def hexValue (c : CodePoint) : Nat := (hexValue? c).getD 0

/-- Hexadecimal digits, in letters of either case, have the values that they write. -/
theorem hexValue_of_toLower {digits : List CodePoint} {values : List Nat}
    (small : ∀ v ∈ values, v < 16) (lower : digits.map CodePoint.toLower = values.map hexDigit) :
    (∀ c ∈ digits, hexValue? c = some (hexValue c)) ∧ digits.map hexValue = values := by
  induction values generalizing digits with
  | nil =>
    rw [List.map_nil, List.map_eq_nil_iff] at lower
    simp [lower]
  | cons v values ih =>
    cases digits with
    | nil => cases lower
    | cons c digits =>
      obtain ⟨first, rest⟩ := List.cons.inj lower
      have head := hexValue?_of_toLower (small v List.mem_cons_self) first
      obtain ⟨each, map⟩ := ih (fun w member => small w (List.mem_cons_of_mem v member)) rest
      have value : hexValue c = v := by rw [hexValue, head, Option.getD_some]
      rw [List.forall_mem_cons, List.map_cons, map, value]
      exact ⟨⟨head, each⟩, rfl⟩

/-- A hexadecimal digit is none of the characters that are no hexadecimal digits. -/
theorem ne_of_hexValue? {c other : CodePoint} {value : Nat} (digit : hexValue? c = some value)
    (none : hexValue? other = none) : c ≠ other := by
  rintro rfl
  rw [none] at digit
  cases digit

end LogTemplate.Text

namespace LogTemplate.Numeral

open LogTemplate.Text

/-- Hexadecimal digits are a numeral of base sixteen. -/
theorem read_hexDigits {digits : List CodePoint} (filled : digits ≠ [])
    (each : ∀ c ∈ digits, hexValue? c = some (hexValue c)) :
    read 16 digits = .ok (ofDigits 16 (digits.map hexValue) : Nat) := by
  have other : ∀ c : CodePoint, hexValue? c = none → c ∉ digits := fun c none member =>
    ne_of_hexValue? (each c member) none rfl
  have value : ∀ c ∈ digits, digit? 16 c = some (hexValue c) := by
    intro c member
    simp [digit?, each c member]
  have grouped := groupedDigits?_of_digit? filled (other '_' (by decide)) value
  have unpadded : digits.dropWhile isPadding = digits := by
    apply dropWhile_eq_self
    intro c head
    have range := toNat_of_hexValue? (each c (List.mem_of_mem_head? head))
    simp only [isPadding, Bool.or_eq_false_iff, Bool.and_eq_false_iff, decide_eq_false_iff_not,
      beq_eq_false_iff_ne]
    omega
  have unsigned : splitSign digits = (false, digits) := by
    unfold splitSign
    split
    · exact absurd List.mem_cons_self (other '-' (by decide))
    · exact absurd List.mem_cons_self (other '+' (by decide))
    · rfl
  have unmarked : dropHexMark digits = digits := by
    unfold dropHexMark
    split
    · rename_i zero mark rest
      have member : mark ∈ zero :: mark :: rest := by simp
      have plain : ¬ (mark = 'x' ∨ mark = 'X') := by
        rintro (rfl | rfl)
        · exact other 'x' (by decide) member
        · exact other 'X' (by decide) member
      rw [if_neg (fun both => plain both.2)]
    · rfl
  have inside : ∀ c ∈ digits, (c == '_' || (digit? 16 c).isSome) = true := by
    intro c member
    simp [value c member]
  have taken := List.takeWhile_eq_self_iff.mpr inside
  have dropped := List.dropWhile_eq_nil_iff.mpr inside
  simp [read, unpadded, unsigned, unmarked, taken, dropped, grouped]

end LogTemplate.Numeral

namespace LogTemplate.Text

/-! ## Texts that nothing is taken from -/

theorem remove_of_not_mem {first : CodePoint} {part s : List CodePoint} (absent : first ∉ s) :
    remove (first :: part) s = s := by
  unfold remove
  induction s with
  | nil => rfl
  | cons c rest ih =>
    rw [List.mem_cons, not_or] at absent
    simp [removeFrom, absent.1, ih absent.2]

theorem stripEnds_of_forall {p : CodePoint → Bool} {s : List CodePoint}
    (none : ∀ c ∈ s, p c = false) :
    stripEnds p s = s := by
  have front : s.dropWhile p = s :=
    dropWhile_eq_self fun c head => none c (List.mem_of_mem_head? head)
  have back : s.reverse.dropWhile p = s.reverse :=
    dropWhile_eq_self fun c head => none c (List.mem_reverse.mp (List.mem_of_mem_head? head))
  rw [stripEnds, front, back, List.reverse_reverse]

theorem filter_intercalate {mark : CodePoint} {groups : List (List CodePoint)}
    (absent : ∀ group ∈ groups, mark ∉ group) :
    ([mark].intercalate groups).filter (· != mark) = groups.flatten := by
  have unmarked : ∀ group ∈ groups, group.filter (· != mark) = group := by
    intro group member
    rw [List.filter_eq_self]
    intro c inside
    simp only [bne_iff_ne]
    rintro rfl
    exact absent group member inside
  induction groups with
  | nil => rfl
  | cons group groups ih =>
    rw [List.forall_mem_cons] at absent unmarked
    cases groups with
    | nil => simp [unmarked.1]
    | cons next groups =>
      rw [List.intercalate_cons_cons, List.filter_append, List.filter_append, unmarked.1,
        ih absent.2 unmarked.2]
      simp

end LogTemplate.Text

namespace LogTemplate.Uuid

open LogTemplate.Text

/-- The characters of a canonical form besides the hyphens are the digits of the UUID. -/
theorem map_toLower_of_isWrittenAs {u : Uuid} {s : List CodePoint}
    (written : u.isWrittenAs s = true) :
    (s.filter (· != CodePoint.char '-')).map CodePoint.toLower = hexDigits 32 u.value := by
  obtain ⟨groups, shown, digits, -⟩ := u.chars_eq
  have lower : s.map CodePoint.toLower = [.char '-'].intercalate groups := by
    rw [← shown]
    exact beq_iff_eq.mp written
  have absent : ∀ group ∈ groups, .char '-' ∉ group := by
    intro group member inside
    have hyphen : .char '-' ∈ hexDigits 32 u.value := digits ▸ List.mem_flatten_of_mem member inside
    rw [hexDigits_eq_map] at hyphen
    obtain ⟨v, value, same⟩ := List.mem_map.mp hyphen
    have none : ∀ v : Fin 16, hexDigit v ≠ '-' := by decide
    exact none ⟨v, lt_of_mem_hexValues value⟩ same
  have kept :
      (fun c : CodePoint => c != '-') ∘ CodePoint.toLower = fun (c : CodePoint) => c != '-' := by
    funext c
    rw [Function.comp_apply, Bool.eq_iff_iff, bne_iff_ne, bne_iff_ne, Ne, toLower_eq_hyphen_iff]
  rw [← digits, ← filter_intercalate absent, ← lower, List.filter_map, kept]

/-- The digits of a canonical form have values, which make up the number of the UUID. -/
theorem hexValue_of_isWrittenAs {u : Uuid} {s : List CodePoint} (written : u.isWrittenAs s = true) :
    (∀ c ∈ s.filter (· != CodePoint.char '-'), hexValue? c = some (hexValue c))
      ∧ (s.filter (· != CodePoint.char '-')).map hexValue = hexValues 32 u.value := by
  have lower := map_toLower_of_isWrittenAs written
  rw [hexDigits_eq_map] at lower
  exact hexValue_of_toLower (fun v => lt_of_mem_hexValues) lower

theorem not_mem_of_isWrittenAs {u : Uuid} {s : List CodePoint} {c : CodePoint}
    (written : u.isWrittenAs s = true) (plain : c ≠ '-') (none : hexValue? c = none) : c ∉ s := by
  intro member
  have digit : c ∈ s.filter (· != CodePoint.char '-') :=
    List.mem_filter.mpr ⟨member, bne_iff_ne.mpr plain⟩
  exact ne_of_hexValue? ((hexValue_of_isWrittenAs written).1 c digit) none rfl

/-- A canonical form has hyphens and no other marks that reading takes away. -/
theorem bare_of_isWrittenAs {u : Uuid} {s : List CodePoint} (written : u.isWrittenAs s = true) :
    bare s = s.filter (· != CodePoint.char '-') := by
  have unmarked : .char 'u' ∉ s := not_mem_of_isWrittenAs written (by decide) (by decide)
  have unopened : .char '\x7b' ∉ s := not_mem_of_isWrittenAs written (by decide) (by decide)
  have unclosed : .char '\x7d' ∉ s := not_mem_of_isWrittenAs written (by decide) (by decide)
  have unbraced : ∀ c ∈ s, (c == '\x7b' || c == '\x7d') = false := by
    intro c member
    rw [Bool.or_eq_false_iff, beq_eq_false_iff_ne, beq_eq_false_iff_ne]
    constructor
    · rintro rfl
      exact unopened member
    · rintro rfl
      exact unclosed member
  have urn : remove (Text.toList "urn:") s = s := remove_of_not_mem unmarked
  have uuid : remove (Text.toList "uuid:") s = s := remove_of_not_mem unmarked
  rw [bare, urn, uuid, stripEnds_of_forall unbraced]

/-- A canonical form is read as the UUID that it writes. -/
theorem read_of_isWrittenAs {u : Uuid} {s : List CodePoint} (written : u.isWrittenAs s = true) :
    read s = .ok u := by
  have bare := bare_of_isWrittenAs written
  obtain ⟨each, values⟩ := hexValue_of_isWrittenAs written
  have length : (s.filter (· != CodePoint.char '-')).length = 32 := by
    rw [← List.length_map, map_toLower_of_isWrittenAs written, length_hexDigits]
  have filled : s.filter (· != CodePoint.char '-') ≠ [] := by
    intro empty
    rw [empty] at length
    cases length
  have limit : limit = 16 ^ 32 := by decide
  have number : Numeral.read 16 (s.filter (· != CodePoint.char '-')) = .ok (u.value : Int) := by
    rw [Numeral.read_hexDigits filled each, values, ofDigits_hexValues (limit ▸ u.value_lt)]
  simp [read, bare, length, number, u.value_lt]

/-- The written form is a canonical form. -/
theorem isWrittenAs_text (u : Uuid) : u.isWrittenAs u.text.toList = true := by
  have lower : ∀ v : Fin 16, (hexDigit v).toLower = hexDigit v := by decide
  obtain ⟨groups, shown, digits, -⟩ := u.chars_eq
  have kept : ∀ c ∈ u.chars, c.toLower = c := by
    intro c member
    rw [shown] at member
    rcases mem_of_mem_intercalate member with hyphen | ⟨group, known, inside⟩
    · rw [List.mem_singleton.mp hyphen]
      rfl
    · replace inside := List.mem_flatten_of_mem known inside
      rw [digits, hexDigits_eq_map] at inside
      obtain ⟨v, value, rfl⟩ := List.mem_map.mp inside
      exact lower ⟨v, lt_of_mem_hexValues value⟩
  rw [isWrittenAs, text, Text.toList_ofList, lowercaseAscii, List.map_congr_left kept,
    List.map_id', beq_iff_eq]

/-- A text writes one UUID at most. -/
theorem eq_of_isWrittenAs {u v : Uuid} {s : List CodePoint} (written : u.isWrittenAs s = true)
    (again : v.isWrittenAs s = true) : u = v := by
  have same := (read_of_isWrittenAs written).symm.trans (read_of_isWrittenAs again)
  exact Except.ok.inj same

/-- Canonical forms write the same UUID exactly if they are the same but for the case of letters. -/
theorem eq_iff_lowercaseAscii {u v : Uuid} {s t : List CodePoint} (written : u.isWrittenAs s = true)
    (other : v.isWrittenAs t = true) : u = v ↔ lowercaseAscii s = lowercaseAscii t := by
  constructor
  · rintro rfl
    exact (beq_iff_eq.mp written).trans (beq_iff_eq.mp other).symm
  · intro same
    have again : v.isWrittenAs s = true := by
      rw [isWrittenAs, same]
      exact other
    exact eq_of_isWrittenAs written again

end LogTemplate.Uuid
